import Avalant.Lib.Binary64
import Avalant.Referral.Reversal

/-!
The preview of a reversal, which computes in floats what the reversal computes in decimals.
-/

namespace Avalant

open Relational Transition

/-! ## The preview -/

/-- `base`: what the preview of a commission says in every branch. -/
structure PreviewBase where
  earningId : Nat
  amount : ℚ
  referrerId : Nat
  deriving DecidableEq, Repr

inductive PreviewEffect
  | fromUnclaimed
  | fromCompletedLoggedOnly (payoutId : Nat) (payoutResolvedAt : Option Time) (warning : String)
  | fromPendingAdjusted (payoutId : Nat) (oldPayoutAmount newPayoutAmount : ℚ)
  | fromPendingCancelled (payoutId : Nat) (oldPayoutAmount wouldBeAmount floor : ℚ)
  deriving DecidableEq, Repr

/-- The dictionary `preview_reversal` returns. -/
inductive ReversalPreview
  | noEarning
  | alreadyReversed (earningId : Nat)
  | reverses (base : PreviewBase) (effect : PreviewEffect)
  deriving DecidableEq, Repr

/-- Its `"action"`. -/
def PreviewEffect.text : PreviewEffect → String
  | .fromUnclaimed => "from_unclaimed"
  | .fromCompletedLoggedOnly .. => "from_completed_logged_only"
  | .fromPendingAdjusted .. => "from_pending_adjusted"
  | .fromPendingCancelled .. => "from_pending_cancelled"

def withdrawnWarning : String :=
  "Partner already withdrew this commission — no auto-recovery."

/-- The branches of `preview_reversal` on the earning and the payout it has read. -/
def previewEffect (earning : ReferralEarning) (payout : Option ReferralPayoutRequest)
    (minPayout : ℚ) : PreviewEffect :=
  let amount := Python.float earning.amountUsd
  match earning.payoutRequestId, payout with
  | none, _ => .fromUnclaimed
  | some _, none => .fromUnclaimed
  | some _, some p =>
      match p.status with
      | .completed => .fromCompletedLoggedOnly p.id p.resolvedAt withdrawnWarning
      | .pending =>
          let newAmount := Python.float (Python.float p.amountUsd - amount)
          let floor := Python.float minPayout
          if floor ≤ newAmount then
            .fromPendingAdjusted p.id (Python.float p.amountUsd)
              (Python.float (Python.round newAmount 2))
          else
            .fromPendingCancelled p.id (Python.float p.amountUsd)
              (Python.float (Python.round newAmount 2)) floor
      | .cancelled => .fromUnclaimed

/-- `preview_reversal`; `minPayout` is `current_min_payout_usd`. -/
def Ledger.previewReversal (l : Ledger) (paymentId : Nat) (minPayout : ℚ) : ReversalPreview :=
  match l.reversedEarning paymentId with
  | none => .noEarning
  | some earning =>
      if earning.reversedAt.isSome then .alreadyReversed earning.id
      else
        .reverses ⟨earning.id, Python.float earning.amountUsd, earning.referrerId⟩
          (previewEffect earning (earning.payoutRequestId.bind l.payouts.get?) minPayout)

/-! ## Against the reversal -/

/-- A value of a `Numeric(14, 2)` column. -/
def IsAmount (x : ℚ) : Prop :=
  Python.quantizeCents x = x ∧ |x| < 10 ^ 12

instance (x : ℚ) : Decidable (IsAmount x) :=
  inferInstanceAs (Decidable (_ ∧ _))

namespace Ledger

/-- The amounts are values of their columns. -/
structure FitsColumns (l : Ledger) : Prop where
  earnings : ∀ e ∈ l.earnings.rows, IsAmount e.amountUsd
  payouts : ∀ p ∈ l.payouts.rows, IsAmount p.amountUsd

instance (l : Ledger) : Decidable l.FitsColumns :=
  decidable_of_iff ((∀ e ∈ l.earnings.rows, IsAmount e.amountUsd) ∧
    ∀ p ∈ l.payouts.rows, IsAmount p.amountUsd)
      ⟨fun ⟨earnings, payouts⟩ => ⟨earnings, payouts⟩, fun fits => ⟨fits.earnings, fits.payouts⟩⟩

/-- The payout with an id becomes another, and no other payout changes. -/
structure Repaid (l l' : Ledger) (payoutId : Nat) (p p' : ReferralPayoutRequest) : Prop where
  before : l.payouts.get? payoutId = some p
  after : l'.payouts.get? payoutId = some p'
  others : ∀ k, k ≠ payoutId → l'.payouts.get? k = l.payouts.get? k

end Ledger

/-- An effect that was previewed has happened: to the payouts, and to the balance of the referrer,
which gains `gain`. -/
def PreviewEffect.Happens (l l' : Ledger) (earning : ReferralEarning) (minPayout gain : ℚ) :
    PreviewEffect → Prop
  | .fromUnclaimed => l'.payouts = l.payouts ∧ gain = -earning.amountUsd
  | .fromCompletedLoggedOnly payoutId resolvedAt _ =>
      (∃ p, l.payouts.get? payoutId = some p ∧ p.status = .completed ∧ p.resolvedAt = resolvedAt) ∧
        l'.payouts = l.payouts ∧ gain = -earning.amountUsd
  | .fromPendingAdjusted payoutId oldAmount newAmount =>
      ∃ p amount, l.Repaid l' payoutId p { p with amountUsd := amount } ∧ p.status = .pending ∧
        oldAmount = Python.float p.amountUsd ∧ newAmount = Python.float amount ∧ gain = 0
  | .fromPendingCancelled payoutId oldAmount wouldBeAmount floor =>
      ∃ p p', l.Repaid l' payoutId p p' ∧ p.status = .pending ∧ p'.status = .cancelled ∧
        oldAmount = Python.float p.amountUsd ∧ p'.amountUsd = p.amountUsd ∧
          wouldBeAmount = Python.float gain ∧ floor = Python.float minPayout

/-- What a preview says is what a reversal reports and does. -/
def ReversalPreview.Tells (l l' : Ledger) (minPayout : ℚ) (report : ReversalReport) :
    ReversalPreview → Prop
  | .noEarning => report = .noEarning ∧ l' = l
  | .alreadyReversed earningId => report = .alreadyReversed earningId ∧ l' = l
  | .reverses base effect =>
      ∃ earning action siblingId, l.earnings.get? base.earningId = some earning ∧
        report = .reversed base.earningId action siblingId ∧ action.text = effect.text ∧
          base.amount = Python.float earning.amountUsd ∧ base.referrerId = earning.referrerId ∧
            effect.Happens l l' earning minPayout
              (l'.availableBalance base.referrerId - l.availableBalance base.referrerId)

namespace Ledger

/-- The preview tells what the reversal does that is run next. -/
def PreviewTrue (l : Ledger) (paymentId : Nat) (minPayout : ℚ) : Prop :=
  ∀ reason now,
    let done := l.reverseCommission paymentId reason minPayout now
    (l.previewReversal paymentId minPayout).Tells l done.2 minPayout done.1

/-- Where the pending payout of an unreversed commission would come to within a tenth of a cent of
the floor, the floats of the two amounts are on its side of the floor. -/
def FloorAgrees (l : Ledger) (paymentId : Nat) (minPayout : ℚ) : Prop :=
  ∀ e p, l.reversedEarning paymentId = some e → e.reversedAt = none →
    e.payoutRequestId = some p.id → l.payouts.get? p.id = some p → p.status = .pending →
      |p.amountUsd - e.amountUsd - minPayout| < 1 / 1000 →
        (minPayout ≤ p.amountUsd - e.amountUsd ↔
          Python.Reaches (Python.float minPayout)
            (Python.float p.amountUsd - Python.float e.amountUsd))

end Ledger

/-! ## Floats of amounts -/

section

variable {x y f : ℚ}

theorem IsAmount.abs_float_sub_le (amount : IsAmount x) : |Python.float x - x| ≤ 2 ^ (-14 : ℤ) := by
  have small : |x| < 2 ^ (40 : ℤ) := amount.2.trans (by norm_num)
  have error := Python.abs_float_sub_le_of_lt (by norm_num) small
  have bits : (40 : ℤ) - 54 = -14 := by norm_num
  rwa [bits] at error

/-- The float of the difference of the floats. -/
theorem IsAmount.abs_float_float_sub_le (amountX : IsAmount x) (amountY : IsAmount y) :
    |Python.float (Python.float x - Python.float y) - (x - y)| ≤ 2 ^ (-12 : ℤ) := by
  have errorX := abs_le.mp amountX.abs_float_sub_le
  have errorY := abs_le.mp amountY.abs_float_sub_le
  have boundX := abs_lt.mp amountX.2
  have boundY := abs_lt.mp amountY.2
  have small : |Python.float x - Python.float y| < 2 ^ (41 : ℤ) := by
    norm_num at errorX errorY boundX boundY ⊢
    rw [abs_lt]
    constructor <;> linarith
  have error := abs_le.mp (Python.abs_float_sub_le_of_lt (by norm_num) small)
  norm_num at errorX errorY error ⊢
  rw [abs_le]
  constructor <;> linarith

/-- Rounding to cents gives back the difference of the amounts. -/
theorem IsAmount.round_float_sub (amountX : IsAmount x) (amountY : IsAmount y) :
    Python.round (Python.float (Python.float x - Python.float y)) 2 = x - y := by
  have error := abs_le.mp (amountX.abs_float_float_sub_le amountY)
  have cents : x - y =
      ((Python.roundHalfEven (x * 100) - Python.roundHalfEven (y * 100) : ℤ) : ℚ) / 100 := by
    nth_rewrite 1 [← amountX.1, ← amountY.1]
    unfold Python.quantizeCents
    push_cast
    ring
  generalize Python.roundHalfEven (x * 100) - Python.roundHalfEven (y * 100) = n at cents
  have near : |Python.float (Python.float x - Python.float y) * 10 ^ 2 - n| < 1 / 2 := by
    rw [cents] at error
    norm_num at error ⊢
    rw [abs_lt]
    constructor <;> linarith
  unfold Python.round
  rw [Python.roundHalfEven_eq_of_near near, cents]
  norm_num

/-- The two comparisons with a floor, where the difference is close to it and elsewhere. -/
theorem IsAmount.floor_le_iff (amountX : IsAmount x) (amountY : IsAmount y) (low : 1 ≤ f)
    (high : f ≤ 10000) :
    (Python.float f ≤ Python.float (Python.float x - Python.float y) ↔ f ≤ x - y) ↔
      (|x - y - f| < 1 / 1000 →
        (f ≤ x - y ↔ Python.Reaches (Python.float f) (Python.float x - Python.float y))) := by
  have errorX := abs_le.mp amountX.abs_float_sub_le
  have errorY := abs_le.mp amountY.abs_float_sub_le
  have error := abs_le.mp (amountX.abs_float_float_sub_le amountY)
  have small : |f| < 2 ^ (14 : ℤ) := by
    rw [abs_of_pos (by linarith)]
    norm_num
    linarith
  have errorF := abs_le.mp (Python.abs_float_sub_le_of_lt (by norm_num) small)
  norm_num at errorX errorY error errorF
  by_cases near : |x - y - f| < 1 / 1000
  · have pos : 0 < Python.float x - Python.float y := by
      have close := abs_lt.mp near
      norm_num at close
      linarith
    rw [Python.float_le_float_iff (by linarith) pos]
    constructor
    · exact fun agree _ => agree.symm
    · exact fun agree => (agree near).symm
  · refine iff_of_true ?_ fun close => absurd close near
    rw [not_lt, le_abs] at near
    rcases near with above | below
    · exact iff_of_true (by linarith) (by linarith)
    · exact iff_of_false (by linarith) (by linarith)

end

/-! ## What a reversal does to the sums -/

namespace Ledger

variable {l l' : Ledger} {e : ReferralEarning} {p : ReferralPayoutRequest} {minPayout : ℚ}

theorem totalEarned_of_rewrites {f : ReferralEarning → ReferralEarning}
    (rewrites : Rewrites l.earnings.rows l'.earnings.rows f) (userId : Nat) :
    l'.totalEarned userId = l.totalEarned userId := by
  unfold totalEarned
  rw [Table.sumWhere_eq_shares, Table.sumWhere_eq_shares, rewrites.rows, List.map_map]
  refine congrArg List.sum (List.map_congr_left fun e _ => ?_)
  have core := rewrites.core e
  have referrer : (f e).referrerId = e.referrerId := congrArg EarningCore.referrerId core
  have amount : (f e).amountUsd = e.amountUsd := congrArg EarningCore.amountUsd core
  have selected : earnedBy userId (f e) = earnedBy userId e := by simp only [earnedBy, referrer]
  simp only [Function.comp_apply, Table.share, selected, amount]

/-- The writes before the sibling's add no earning. -/
theorem totalEarned_settleReversal (l : Ledger) (e : ReferralEarning) (action : ReversalAction)
    (paymentId : Nat) (reason : Option String) (now : Time) (userId : Nat) :
    (l.settleReversal e action paymentId reason now).totalEarned userId = l.totalEarned userId := by
  have stamped := rewrites_stamp l e.id (reversalReason reason) now
  have unlinked := rewrites_relink (l.stamp e.id (reversalReason reason) now)
    (fun e' => e'.id == e.id) none
  cases action with
  | fromUnclaimed => exact totalEarned_of_rewrites stamped userId
  | fromDangling => exact totalEarned_of_rewrites (stamped.trans unlinked) userId
  | fromCompletedLoggedOnly payoutId => exact totalEarned_of_rewrites stamped userId
  | fromPendingAdjusted payoutId newAmount =>
      exact totalEarned_of_rewrites (stamped.trans unlinked) userId
  | fromPendingCancelled payoutId newAmount floor =>
      exact totalEarned_of_rewrites (rewrites_relink l (linkedTo payoutId) none) userId

/-- What the referrer gains by a reversal, by what is claimed before and after. -/
def gain (l l' : Ledger) (e : ReferralEarning) : ℚ :=
  -e.amountUsd + (l.totalPaid e.referrerId + l.totalPending e.referrerId) -
    (l'.totalPaid e.referrerId + l'.totalPending e.referrerId)

theorem gain_of_payouts (same : l'.payouts = l.payouts) : gain l l' e = -e.amountUsd := by
  unfold gain totalPaid totalPending
  rw [same, add_sub_cancel_right]

/-- The balance of the referrer loses the amount, and gains what is no longer claimed. -/
theorem Sound.balance_reversed (sound : l.Sound) (present : e ∈ l.earnings.rows) (paymentId : Nat)
    (reason : Option String) (minPayout : ℚ) (now : Time) :
    let l' := l.applyReversal e
      (reversalAction e (e.payoutRequestId.bind l.payouts.get?) minPayout) paymentId reason now
    l'.availableBalance e.referrerId - l.availableBalance e.referrerId = gain l l' e := by
  have settled := sound.settleReversal present paymentId reason minPayout now
  have same := l.totalEarned_settleReversal e
    (reversalAction e (e.payoutRequestId.bind l.payouts.get?) minPayout) paymentId reason now
      e.referrerId
  have inserts := l.applyReversal_inserts e
    (reversalAction e (e.payoutRequestId.bind l.payouts.get?) minPayout) paymentId reason now
  unfold applyReversal at inserts ⊢
  generalize l.settleReversal e _ paymentId reason now = middle at settled same inserts ⊢
  have earned : (middle.insertEarning (siblingOf e reason)).totalEarned e.referrerId =
      middle.totalEarned e.referrerId - e.amountUsd := by
    refine (Table.sumWhere_insert settled.earning_fresh _ _).trans ?_
    simp [Table.share, earnedBy, siblingOf, totalEarned, sub_eq_add_neg]
  have before := sound.totalEarned_eq e.referrerId
  have after := (settled.inserts inserts).totalEarned_eq e.referrerId
  dsimp only
  unfold gain
  linarith

/-- A payout is rewritten, and no other one. -/
structure Rewritten (l l' : Ledger) (p p' : ReferralPayoutRequest) : Prop where
  repaid : l.Repaid l' p.id p p'
  sums : ∀ status,
    l'.payouts.sumWhere (payoutOf p.userId status) ReferralPayoutRequest.amountUsd =
      l.payouts.sumWhere (payoutOf p.userId status) ReferralPayoutRequest.amountUsd -
          Table.share (payoutOf p.userId status) ReferralPayoutRequest.amountUsd p +
        Table.share (payoutOf p.userId status) ReferralPayoutRequest.amountUsd p'

theorem rewritten_of_map (stored : l.payouts.get? p.id = some p)
    {u : ReferralPayoutRequest → ReferralPayoutRequest} (keeps : ∀ p', key (u p') = key p')
    (others : ∀ p', p'.id ≠ p.id → u p' = p') (payouts : l'.payouts = l.payouts.map u keeps) :
    l.Rewritten l' p (u p) := by
  refine ⟨⟨stored, ?_, fun k other => ?_⟩, fun status => ?_⟩
  · rw [payouts, Table.get?_map, stored]
    rfl
  · rw [payouts, Table.get?_map]
    cases found : l.payouts.get? k with
    | none => rfl
    | some p' =>
        have keyed : p'.id = k := Table.key_of_get? found
        rw [Option.map_some, others p' (keyed ▸ other)]
  · have update := Table.sumWhere_update stored u keeps (fun p' _ other => others p' other)
      (payoutOf p.userId status) ReferralPayoutRequest.amountUsd
    rw [payouts]
    linarith

theorem rewritten_setAmount (stored : l.payouts.get? p.id = some p) (amount : ℚ)
    (payouts : l'.payouts = (l.setAmount p.id amount).payouts) :
    l.Rewritten l' p { p with amountUsd := amount } := by
  have rewritten := rewritten_of_map stored (fun p' => by split <;> rfl)
    (fun _ other => if_neg other) payouts
  rwa [if_pos rfl] at rewritten

theorem rewritten_resolve (stored : l.payouts.get? p.id = some p) {status : PayoutStatus}
    {note : Option String} {now : Time}
    (payouts : l'.payouts = (l.resolve p.id status note now).payouts) :
    l.Rewritten l' p { p with status, note, resolvedAt := some now } := by
  have rewritten := rewritten_of_map stored (fun p' => by split <;> rfl)
    (fun _ other => if_neg other) payouts
  rwa [if_pos rfl] at rewritten

/-- What the owner has claimed, after a pending payout is rewritten. -/
theorem Rewritten.claims {p' : ReferralPayoutRequest} (written : l.Rewritten l' p p')
    (pending : p.status = .pending) (owner : p'.userId = p.userId)
    (unpaid : p'.status ≠ .completed) :
    l'.totalPaid p.userId + l'.totalPending p.userId =
      l.totalPaid p.userId + l.totalPending p.userId - p.amountUsd +
        if p'.status = .pending then p'.amountUsd else 0 := by
  have paid := written.sums .completed
  have waiting := written.sums .pending
  have before : Table.share (payoutOf p.userId .completed) ReferralPayoutRequest.amountUsd p = 0 ∧
      Table.share (payoutOf p.userId .pending) ReferralPayoutRequest.amountUsd p = p.amountUsd := by
    simp [Table.share, payoutOf, pending]
  have after : Table.share (payoutOf p.userId .completed) ReferralPayoutRequest.amountUsd p' = 0 ∧
      Table.share (payoutOf p.userId .pending) ReferralPayoutRequest.amountUsd p' =
        if p'.status = .pending then p'.amountUsd else 0 := by
    simp [Table.share, payoutOf, owner, unpaid]
  rw [before.1, after.1] at paid
  rw [before.2, after.2] at waiting
  unfold totalPaid totalPending
  linarith

/-! ## The preview of a commission -/

/-- The two comparisons with the floor are the same for the pending payout of an earning. -/
def ComparesAlike (l : Ledger) (e : ReferralEarning) (minPayout : ℚ) : Prop :=
  ∀ p, e.payoutRequestId = some p.id → l.payouts.get? p.id = some p → p.status = .pending →
    (Python.float minPayout ≤
        Python.float (Python.float p.amountUsd - Python.float e.amountUsd) ↔
      minPayout ≤ p.amountUsd - e.amountUsd)

theorem reversalAction_pending (linked : e.payoutRequestId = some p.id)
    (pending : p.status = .pending) :
    reversalAction e (some p) minPayout =
      if minPayout ≤ p.amountUsd - e.amountUsd then
        .fromPendingAdjusted p.id (p.amountUsd - e.amountUsd)
      else .fromPendingCancelled p.id (p.amountUsd - e.amountUsd) minPayout := by
  simp only [reversalAction, linked, pending]

/-- The rounded amounts of a preview are the floats of the exact ones. -/
theorem previewEffect_pending (linked : e.payoutRequestId = some p.id)
    (pending : p.status = .pending) (paid : IsAmount p.amountUsd) (earned : IsAmount e.amountUsd) :
    previewEffect e (some p) minPayout =
      if Python.float minPayout ≤
          Python.float (Python.float p.amountUsd - Python.float e.amountUsd) then
        .fromPendingAdjusted p.id (Python.float p.amountUsd)
          (Python.float (p.amountUsd - e.amountUsd))
      else
        .fromPendingCancelled p.id (Python.float p.amountUsd)
          (Python.float (p.amountUsd - e.amountUsd)) (Python.float minPayout) := by
  simp only [previewEffect, linked, pending, paid.round_float_sub earned]

theorem happens_adjusted (stored : l.payouts.get? p.id = some p) (pending : p.status = .pending)
    (owner : p.userId = e.referrerId)
    (payouts : l'.payouts = (l.setAmount p.id (p.amountUsd - e.amountUsd)).payouts) :
    (PreviewEffect.fromPendingAdjusted p.id (Python.float p.amountUsd)
      (Python.float (p.amountUsd - e.amountUsd))).Happens l l' e minPayout (gain l l' e) := by
  have written := rewritten_setAmount stored _ payouts
  refine ⟨p, _, written.repaid, pending, rfl, rfl, ?_⟩
  have claims := written.claims pending rfl (by simp [pending])
  rw [if_pos pending] at claims
  unfold gain
  rw [← owner]
  linarith

theorem happens_cancelled (stored : l.payouts.get? p.id = some p) (pending : p.status = .pending)
    (owner : p.userId = e.referrerId) {note : Option String} {now : Time}
    (payouts : l'.payouts = (l.resolve p.id .cancelled note now).payouts) :
    (PreviewEffect.fromPendingCancelled p.id (Python.float p.amountUsd)
      (Python.float (p.amountUsd - e.amountUsd)) (Python.float minPayout)).Happens l l' e minPayout
        (gain l l' e) := by
  have written := rewritten_resolve stored payouts
  refine ⟨p, _, written.repaid, pending, rfl, rfl, rfl, ?_, rfl⟩
  have claims := written.claims pending rfl (by simp)
  rw [if_neg (by simp)] at claims
  unfold gain
  rw [← owner]
  congr 1
  linarith

/-- A preview that compares alike happens. -/
theorem Sound.happens (sound : l.Sound) (fits : l.FitsColumns) (present : e ∈ l.earnings.rows)
    (alike : l.ComparesAlike e minPayout) (paymentId : Nat) (reason : Option String) (now : Time) :
    let payout := e.payoutRequestId.bind l.payouts.get?
    let action := reversalAction e payout minPayout
    let l' := l.applyReversal e action paymentId reason now
    action.text = (previewEffect e payout minPayout).text ∧
      (previewEffect e payout minPayout).Happens l l' e minPayout
        (l'.availableBalance e.referrerId - l.availableBalance e.referrerId) := by
  dsimp only
  rw [sound.balance_reversed present paymentId reason minPayout now]
  cases linked : e.payoutRequestId with
  | none =>
      simp only [reversalAction, previewEffect, linked]
      exact ⟨rfl, rfl, gain_of_payouts rfl⟩
  | some payoutId =>
      obtain ⟨p, member, rfl, owner, live⟩ := sound.linked e present payoutId linked
      have stored : l.payouts.get? p.id = some p := Table.mem_rows_iff.mp member
      rw [Option.bind_some, stored]
      cases status : p.status with
      | cancelled => exact absurd status live
      | completed =>
          simp only [reversalAction, previewEffect, linked, status]
          exact ⟨rfl, ⟨p, stored, status, rfl⟩, rfl, gain_of_payouts rfl⟩
      | pending =>
          have compared := alike p linked stored status
          rw [reversalAction_pending linked status, previewEffect_pending linked status
            (fits.payouts p member) (fits.earnings e present)]
          by_cases above : minPayout ≤ p.amountUsd - e.amountUsd
          · rw [if_pos above, if_pos (compared.mpr above)]
            exact ⟨rfl, happens_adjusted stored status owner rfl⟩
          · rw [if_neg above, if_neg fun reaches => above (compared.mp reaches)]
            exact ⟨rfl, happens_cancelled stored status owner rfl⟩

theorem reversedEarning_eq {paymentId : Nat} (found : l.reversedEarning paymentId = some e) :
    l.earnings.get? e.id = some e :=
  Table.mem_rows_iff.mp (List.mem_of_find?_eq_some found)

/-- A preview tells what the reversal does exactly where the two compare alike. -/
theorem Sound.previewTrue_iff (sound : l.Sound) (fits : l.FitsColumns) (paymentId : Nat)
    (minPayout : ℚ) :
    l.PreviewTrue paymentId minPayout ↔ ∀ e, l.reversedEarning paymentId = some e →
      e.reversedAt = none → l.ComparesAlike e minPayout := by
  constructor
  · intro tells e found unstamped p linked stored status
    have told := tells none 0
    unfold previewReversal reverseCommission at told
    rw [found] at told
    simp only [unstamped, Option.isSome_none] at told
    obtain ⟨-, action, siblingId, -, reported, texts, -⟩ := told
    injection reported with _ same _
    rw [← same] at texts
    simp only [reversalAction, previewEffect, linked, Option.bind_some, stored, status] at texts
    -- the texts of the two branches differ
    by_cases reaches : Python.float minPayout ≤
        Python.float (Python.float p.amountUsd - Python.float e.amountUsd)
    · by_cases above : minPayout ≤ p.amountUsd - e.amountUsd
      · exact iff_of_true reaches above
      · rw [if_neg above, if_pos reaches] at texts
        exact absurd texts (by simp [ReversalAction.text, PreviewEffect.text])
    · by_cases above : minPayout ≤ p.amountUsd - e.amountUsd
      · rw [if_pos above, if_neg reaches] at texts
        exact absurd texts (by simp [ReversalAction.text, PreviewEffect.text])
      · exact iff_of_false reaches above
  · intro alike reason now
    unfold previewReversal reverseCommission
    cases found : l.reversedEarning paymentId with
    | none => exact ⟨rfl, rfl⟩
    | some e =>
        dsimp only
        cases stamped : e.reversedAt with
        | some at_ => exact ⟨rfl, rfl⟩
        | none =>
            have happens := sound.happens fits (List.mem_of_find?_eq_some found)
              (alike e found stamped) paymentId reason now
            exact ⟨e, _, _, reversedEarning_eq found, rfl, happens.1, rfl, rfl, happens.2⟩

/-- The preview of a refund is true exactly where the floats agree at the floor. -/
theorem previewTrue_iff_floorAgrees (run : Run Ledger.step (fun _ _ => True) {} l)
    (fits : l.FitsColumns) (paymentId : Nat) {minPayout : ℚ} (low : 1 ≤ minPayout)
    (high : minPayout ≤ 10000) :
    l.PreviewTrue paymentId minPayout ↔ l.FloorAgrees paymentId minPayout := by
  have preserved : Preserves Ledger.step (fun _ _ => True) Sound := fun _ _ _ sound _ stepped =>
    sound.step stepped
  rw [(run.invariant preserved sound_empty).previewTrue_iff fits]
  have compares : ∀ e p, e ∈ l.earnings.rows → l.payouts.get? p.id = some p → _ :=
    fun e p present stored => (fits.payouts p (Table.mem_of_get? stored)).floor_le_iff
      (fits.earnings e present) low high
  constructor
  · intro alike e p found unstamped linked stored status
    exact (compares e p (List.mem_of_find?_eq_some found) stored).mp
      (alike e found unstamped p linked stored status)
  · intro agrees e found unstamped p linked stored status
    exact (compares e p (List.mem_of_find?_eq_some found) stored).mpr
      (agrees e p found unstamped linked stored status)

/-! ## At the floor -/

/-- A payout request for the commissions of two payments, the second of 100. -/
def twoCommissions (amountUsd : ℚ) : List LedgerOp :=
  [.saveUser { id := 1 }, .saveUser { id := 2, referredById := some 1 },
    .creditCommission 2 1 (some amountUsd), .creditCommission 2 2 (some 500),
    .requestPayout 1 "TAAAAAAAAAAAAAAAAAAAAAAAAAAAAAAAAA" 100]

/-- Of 100.10 a refund of 0.10 leaves the floor of 100, in floats too. -/
theorem preview_at_floor :
    ∃ l, Run Ledger.step (fun _ _ => True) {} l ∧ l.PreviewTrue 1 100 ∧
      (l.reversedEarning 1).map ReferralEarning.amountUsd = some (1 / 10) ∧
        l.payouts.rows.map ReferralPayoutRequest.amountUsd = [1001 / 10] := by
  have executed : (exec Ledger.step {} (twoCommissions (1 / 2))).map (fun l =>
      (decide l.FitsColumns, (l.reversedEarning 1).map ReferralEarning.amountUsd,
        l.payouts.rows.map ReferralPayoutRequest.amountUsd)) =
          some (true, some (1 / 10), [1001 / 10]) := by decide +kernel
  obtain ⟨l, reached, read⟩ := Option.map_eq_some_iff.mp executed
  obtain ⟨fits, read⟩ := Prod.mk.inj read
  obtain ⟨reversed, claimed⟩ := Prod.mk.inj read
  have run := Run.of_exec reached
  refine ⟨l, run, (previewTrue_iff_floorAgrees run (of_decide_eq_true fits) 1 (by norm_num)
    (by norm_num)).mpr ?_, reversed, claimed⟩
  intro e p found _ _ stored _ _
  have amount : e.amountUsd = 1 / 10 := by
    rw [found] at reversed
    exact Option.some.inj reversed
  have paid : p.amountUsd = 1001 / 10 := by
    have listed := List.mem_map_of_mem (f := ReferralPayoutRequest.amountUsd)
      (Table.mem_of_get? stored)
    rw [claimed] at listed
    exact List.mem_singleton.mp listed
  rw [amount, paid]
  decide +kernel

/-- Of 128.01 a refund of 28.01 leaves the floor of 100, and less in floats: the payout that is
to be cancelled is reduced. -/
theorem preview_below_floor :
    ¬∀ l, Run Ledger.step (fun _ _ => True) {} l → l.FitsColumns → ∀ paymentId minPayout,
      1 ≤ minPayout → minPayout ≤ 10000 → l.PreviewTrue paymentId minPayout := by
  intro tells
  have executed : (exec Ledger.step {} (twoCommissions (14005 / 100))).map (fun l =>
      (decide l.FitsColumns, l.previewReversal 1 100, (l.reverseCommission 1 none 100 0).1)) =
        some (true,
          .reverses ⟨0, Python.float (2801 / 100), 1⟩
            (.fromPendingCancelled 0 (Python.float (12801 / 100)) 100 100),
          .reversed 0 (.fromPendingAdjusted 0 100) 2) := by decide +kernel
  obtain ⟨l, reached, read⟩ := Option.map_eq_some_iff.mp executed
  obtain ⟨fits, read⟩ := Prod.mk.inj read
  obtain ⟨preview, report⟩ := Prod.mk.inj read
  have told := tells l (Run.of_exec reached) (of_decide_eq_true fits) 1 100 (by norm_num)
    (by norm_num) none 0
  dsimp only at told
  rw [preview, report] at told
  obtain ⟨-, action, siblingId, -, reported, texts, -⟩ := told
  injection reported with _ same _
  rw [← same] at texts
  exact absurd texts (by decide)

end Ledger

end Avalant
