import Avalant.Referral.Conservation

/-!
What an earning is about never changes.

Its payment, its amount and the earning it reverses are written once, at the
insertion; the statements of payouts and reversals write the link and the stamp.
So a payment is credited once, and a reversal stays.
-/

namespace Avalant

open Relational

/-- The columns of an earning that are written at its insertion only. -/
structure EarningCore where
  id : Nat
  referrerId : Nat
  paymentId : Option Nat
  amountUsd : ℚ
  reversalOfId : Option Nat
  deriving DecidableEq

def ReferralEarning.core (e : ReferralEarning) : EarningCore :=
  ⟨e.id, e.referrerId, e.paymentId, e.amountUsd, e.reversalOfId⟩

/-- The operations on payout requests. -/
def LedgerOp.onPayouts : LedgerOp → Bool
  | .requestPayout _ _ _ | .adminCompletePayout _ _ _ | .adminCancelPayout _ _ _ => true
  | _ => false

namespace Ledger

def cores (l : Ledger) : List EarningCore :=
  l.earnings.rows.map ReferralEarning.core

/-- The earnings with a stamp. -/
def stamps (l : Ledger) : List Nat :=
  (l.earnings.rows.filter fun e => e.reversedAt.isSome).map ReferralEarning.id

/-- Every earning of the payment has its negative sibling. -/
def CommissionReversed (l : Ledger) (paymentId : Nat) : Prop :=
  ∀ e ∈ l.earnings.rows, e.paymentId = some paymentId →
    ∃ sibling ∈ l.earnings.rows, sibling.reversalOfId = some e.id ∧
      sibling.amountUsd = -e.amountUsd

/-- Earnings of the payment. -/
def creditsOf (l : Ledger) (paymentId : Nat) : Nat :=
  l.earnings.rows.countP fun e => e.paymentId == some paymentId

variable {l l' : Ledger}

theorem commissionReversed_iff {paymentId : Nat} :
    l.CommissionReversed paymentId ↔ ∀ c ∈ l.cores, c.paymentId = some paymentId →
      ∃ sibling ∈ l.cores, sibling.reversalOfId = some c.id ∧ sibling.amountUsd = -c.amountUsd := by
  simp [CommissionReversed, cores, ReferralEarning.core]

theorem creditsOf_eq (l : Ledger) (paymentId : Nat) :
    l.creditsOf paymentId = l.cores.countP fun c => c.paymentId == some paymentId := by
  unfold creditsOf cores
  rw [List.countP_map]
  rfl

/-- Writes of links, stamps and payouts leave the cores. -/
theorem cores_relink (selected : ReferralEarning → Bool) (link : Option Nat) :
    (l.relink selected link).cores = l.cores := by
  unfold cores relink Table.map
  rw [List.map_map]
  refine List.map_congr_left fun e _ => ?_
  simp only [Function.comp_apply]
  split <;> rfl

theorem cores_stamp (earningId : Nat) (reason : String) (now : Time) :
    (l.stamp earningId reason now).cores = l.cores := by
  unfold cores stamp Table.map
  rw [List.map_map]
  refine List.map_congr_left fun e _ => ?_
  simp only [Function.comp_apply]
  split <;> rfl

theorem stamps_relink (selected : ReferralEarning → Bool) (link : Option Nat) :
    (l.relink selected link).stamps = l.stamps := by
  unfold stamps relink Table.map
  rw [List.filter_map, List.map_map]
  have sameTest : ((fun e : ReferralEarning => e.reversedAt.isSome) ∘ fun e =>
      if selected e = true then { e with payoutRequestId := link } else e) =
        fun e => e.reversedAt.isSome := by
    funext e
    simp only [Function.comp_apply]
    split <;> rfl
  rw [sameTest]
  refine List.map_congr_left fun e _ => ?_
  simp only [Function.comp_apply]
  split <;> rfl

theorem mem_stamps_stamp {earningId id : Nat} {reason : String} {now : Time}
    (stamped : id ∈ (l.stamp earningId reason now).stamps) : id = earningId ∨ id ∈ l.stamps := by
  obtain ⟨e, member, rfl⟩ := List.mem_map.mp stamped
  obtain ⟨present, marked⟩ := List.mem_filter.mp member
  obtain ⟨old, stored, rfl⟩ := List.mem_map.mp present
  by_cases same : old.id = earningId
  · simp [same]
  · simp only [if_neg same] at marked ⊢
    exact Or.inr (List.mem_map.mpr ⟨old, List.mem_filter.mpr ⟨stored, marked⟩, rfl⟩)

/-- A free number gives a new row. -/
theorem insertEarning_rows {row : Nat → ReferralEarning} (numbered : ∀ id, (row id).id = id)
    (fresh : ∀ c ∈ l.cores, c.id < l.earningSeq) :
    (l.insertEarning row).earnings.rows = l.earnings.rows ++ [row l.earningSeq] := by
  have absent : key (row l.earningSeq) ∉ l.earnings.rows.map key := by
    intro taken
    obtain ⟨e, member, same⟩ := List.mem_map.mp taken
    have below := fresh e.core (List.mem_map_of_mem member)
    have reached : e.id = l.earningSeq := by simpa [numbered] using same
    simp only [ReferralEarning.core] at below
    omega
  unfold insertEarning Table.insert
  rw [dif_neg absent]

/-! ## Credits and reversals -/

/-- Numbers below the sequence, one credit a payment, and a sibling for each stamped earning. -/
structure Credited (l : Ledger) : Prop where
  below : ∀ c ∈ l.cores, c.id < l.earningSeq
  once : ∀ paymentId, l.creditsOf paymentId ≤ 1
  original : ∀ c ∈ l.cores, c.paymentId.isSome → c.reversalOfId = none
  stamped : ∀ id ∈ l.stamps, ∀ c ∈ l.cores, c.id = id →
    ∃ sibling ∈ l.cores, sibling.reversalOfId = some id ∧ sibling.amountUsd = -c.amountUsd

theorem credited_of_empty (none : l.earnings.rows = []) : l.Credited := by
  refine ⟨?_, ?_, ?_, ?_⟩
  · simp [cores, none]
  · simp [creditsOf, none]
  · simp [cores, none]
  · simp [stamps, none]

/-- The earnings of two ledgers differ in their links only. -/
structure SameCredits (l l' : Ledger) : Prop where
  cores : l'.cores = l.cores
  stamps : l'.stamps = l.stamps
  earningSeq : l'.earningSeq = l.earningSeq

theorem sameCredits_relink (selected : ReferralEarning → Bool) (link : Option Nat) :
    l.SameCredits (l.relink selected link) :=
  ⟨cores_relink selected link, stamps_relink selected link, rfl⟩

theorem SameCredits.credited (same : l.SameCredits l') (credited : l.Credited) : l'.Credited := by
  refine ⟨?_, fun paymentId => ?_, ?_, ?_⟩
  · rw [same.cores, same.earningSeq]
    exact credited.below
  · rw [creditsOf_eq, same.cores, ← creditsOf_eq]
    exact credited.once paymentId
  · rw [same.cores]
    exact credited.original
  · rw [same.cores, same.stamps]
    exact credited.stamped

theorem SameCredits.reversed_iff (same : l.SameCredits l') {paymentId : Nat} :
    l'.CommissionReversed paymentId ↔ l.CommissionReversed paymentId := by
  rw [commissionReversed_iff, commissionReversed_iff, same.cores]

/-- Operations on payouts leave the credits alone. -/
theorem sameCredits_step {op : LedgerOp} (payouts : op.onPayouts = true)
    (stepped : l.step op = some l') : l.SameCredits l' ∧ l'.usages = l.usages := by
  cases op with
  | requestPayout userId address minPayout =>
      obtain ⟨user, -, done⟩ := Option.bind_eq_some_iff.mp stepped
      obtain ⟨-, rfl⟩ := requestPayout_eq (ok_of_toOption done)
      have relinked := sameCredits_relink
        (l := { (l.setPayoutAddress user.id (Python.strip address)).insertPayout
          (newRequest l.payoutSeq user.id (l.availableBalance user.id) address) with
          payoutSeq := l.payoutSeq + 1 }) (unclaimedBy user.id) (some l.payoutSeq)
      exact ⟨⟨relinked.cores, relinked.stamps, relinked.earningSeq⟩, rfl⟩
  | adminCompletePayout payoutId note now =>
      obtain ⟨p, -, -, rfl⟩ := adminCompletePayout_eq (ok_of_toOption stepped)
      exact ⟨⟨rfl, rfl, rfl⟩, rfl⟩
  | adminCancelPayout payoutId note now =>
      obtain ⟨p, -, -, rfl⟩ := adminCancelPayout_eq (ok_of_toOption stepped)
      have relinked := sameCredits_relink (l := l.resolve p.id .cancelled note now)
        (linkedTo p.id) none
      exact ⟨⟨relinked.cores, relinked.stamps, relinked.earningSeq⟩, rfl⟩
  | saveUser u => cases payouts
  | saveCode code => cases payouts
  | creditCommission refereeId paymentId amountUsd => cases payouts
  | creditSplitDiscount refereeId payment => cases payouts
  | reverseCommission paymentId reason minPayout now => cases payouts
  | reverseUsage paymentId reason now => cases payouts

/-- An earning is added, for a payment that had none or as the sibling of earlier earnings that
get their stamp now. -/
structure Adds (l l' : Ledger) (c : EarningCore) : Prop where
  cores : l'.cores = l.cores ++ [c]
  numbered : c.id = l.earningSeq
  earningSeq : l'.earningSeq = l.earningSeq + 1
  first : ∀ paymentId, c.paymentId = some paymentId → l.creditsOf paymentId = 0
  original : c.paymentId.isSome → c.reversalOfId = none
  stamps : ∀ id ∈ l'.stamps, id ∈ l.stamps ∨ (id < l.earningSeq ∧ c.reversalOfId = some id ∧
    ∀ c' ∈ l.cores, c'.id = id → c.amountUsd = -c'.amountUsd)

theorem Adds.creditsOf_eq {c : EarningCore} (adds : l.Adds l' c) (paymentId : Nat) :
    l'.creditsOf paymentId =
      l.creditsOf paymentId + if c.paymentId = some paymentId then 1 else 0 := by
  rw [Ledger.creditsOf_eq, Ledger.creditsOf_eq, adds.cores, List.countP_append]
  simp [List.countP_cons]

theorem Adds.credited {c : EarningCore} (adds : l.Adds l' c) (credited : l.Credited) :
    l'.Credited := by
  refine ⟨fun c' member => ?_, fun paymentId => ?_, fun c' member => ?_,
    fun id stamped c' member same => ?_⟩
  · rw [adds.earningSeq]
    rw [adds.cores] at member
    rcases List.mem_append.mp member with old | new
    · have below := credited.below c' old
      omega
    · rw [List.mem_singleton.mp new, adds.numbered]
      omega
  · rw [adds.creditsOf_eq]
    have once := credited.once paymentId
    split
    case isTrue own =>
      rw [adds.first paymentId own]
    case isFalse => omega
  · rw [adds.cores] at member
    rcases List.mem_append.mp member with old | new
    · exact credited.original c' old
    · rw [List.mem_singleton.mp new]
      exact adds.original
  · rw [adds.cores] at member ⊢
    have older : id < l.earningSeq := by
      rcases adds.stamps id stamped with before | ⟨below, -, -⟩
      · obtain ⟨e, stored, rfl⟩ := List.mem_map.mp before
        exact credited.below e.core (List.mem_map_of_mem (List.mem_filter.mp stored).1)
      · exact below
    have old : c' ∈ l.cores := by
      rcases List.mem_append.mp member with old | new
      · exact old
      · have last := List.mem_singleton.mp new
        have numbered := adds.numbered
        rw [← last, same] at numbered
        omega
    rcases adds.stamps id stamped with before | ⟨-, reverses, amounts⟩
    · obtain ⟨sibling, present, facts⟩ := credited.stamped id before c' old same
      exact ⟨sibling, List.mem_append_left _ present, facts⟩
    · exact ⟨c, List.mem_append_right _ (List.mem_singleton.mpr rfl), reverses,
        amounts c' old same⟩

theorem Adds.reversed {c : EarningCore} (adds : l.Adds l' c) {paymentId : Nat}
    (other : c.paymentId ≠ some paymentId) (reversed : l.CommissionReversed paymentId) :
    l'.CommissionReversed paymentId := by
  rw [commissionReversed_iff] at reversed ⊢
  rw [adds.cores]
  intro c' member own
  rcases List.mem_append.mp member with old | new
  · obtain ⟨sibling, present, facts⟩ := reversed c' old own
    exact ⟨sibling, List.mem_append_left _ present, facts⟩
  · rw [List.mem_singleton.mp new] at own
    exact absurd own other

theorem cores_insertEarning {row : Nat → ReferralEarning} (numbered : ∀ id, (row id).id = id)
    (fresh : ∀ c ∈ l.cores, c.id < l.earningSeq) :
    (l.insertEarning row).cores = l.cores ++ [(row l.earningSeq).core] := by
  unfold cores
  rw [insertEarning_rows numbered fresh, List.map_append]
  rfl

theorem stamps_insertEarning {row : Nat → ReferralEarning} (numbered : ∀ id, (row id).id = id)
    (unstamped : ∀ id, (row id).reversedAt = none) (fresh : ∀ c ∈ l.cores, c.id < l.earningSeq) :
    (l.insertEarning row).stamps = l.stamps := by
  unfold stamps
  rw [insertEarning_rows numbered fresh, List.filter_append]
  simp [unstamped]

/-- What `splitRows` fills in. -/
structure CreditsPayment (usage : Nat → ReferralCodeUsage) (earning : Nat → ReferralEarning)
    (paymentId : Nat) : Prop where
  usageId : ∀ id, (usage id).id = id
  usagePayment : ∀ id, (usage id).paymentId = some paymentId
  unreversed : ∀ id, (usage id).reversedAt = none
  earningId : ∀ id, (earning id).id = id
  earningPayment : ∀ id, (earning id).paymentId = some paymentId
  unstamped : ∀ id, (earning id).reversedAt = none
  original : ∀ id, (earning id).reversalOfId = none

theorem creditsPayment_of_splitRows {user : User} {payment : Payment}
    {usage : Nat → ReferralCodeUsage} {earning : Nat → ReferralEarning}
    (rows : l.splitRows user payment = some (usage, earning)) :
    CreditsPayment usage earning payment.id := by
  unfold splitRows at rows
  split at rows
  · cases rows
  dsimp only at rows
  split at rows
  · cases rows
  · cases rows
    exact ⟨fun _ => rfl, fun _ => rfl, fun _ => rfl, fun _ => rfl, fun _ => rfl, fun _ => rfl,
      fun _ => rfl⟩

/-- A credit that the unique indexes admit adds the earning of its payment. -/
theorem adds_credit {usage : Nat → ReferralCodeUsage} {earning : Nat → ReferralEarning}
    {paymentId : Nat} (credits : CreditsPayment usage earning paymentId) (credited : l.Credited)
    (admitted : l.admitsPayment paymentId = true) :
    l.Adds ((l.insertUsage usage).insertEarning earning) (earning l.earningSeq).core := by
  have fresh : ∀ c ∈ (l.insertUsage usage).cores, c.id < (l.insertUsage usage).earningSeq :=
    credited.below
  refine ⟨cores_insertEarning credits.earningId fresh, credits.earningId _, rfl, ?_,
    fun _ => credits.original _, fun id stamped => Or.inl ?_⟩
  · intro other own
    have same : paymentId = other := by
      have own' : (earning l.earningSeq).paymentId = some other := own
      rw [credits.earningPayment] at own'
      exact Option.some.inj own'
    subst same
    refine List.countP_eq_zero.mpr fun e member paid => ?_
    have absent : l.earningOfPayment paymentId = none := by
      simp only [admitsPayment, Bool.and_eq_true, Option.isNone_iff_eq_none] at admitted
      exact admitted.1
    exact List.find?_eq_none.mp absent e member paid
  · rw [stamps_insertEarning credits.earningId credits.unstamped fresh] at stamped
    exact stamped

/-- What a reversal writes before the sibling keeps the cores, and stamps one earning at most. -/
theorem cores_settleReversal (e : ReferralEarning) (action : ReversalAction) (paymentId : Nat)
    (reason : Option String) (now : Time) :
    (l.settleReversal e action paymentId reason now).cores = l.cores := by
  have stamped := cores_stamp (l := l) e.id (reversalReason reason) now
  cases action with
  | fromUnclaimed => exact stamped
  | fromDangling => exact (cores_relink _ _).trans stamped
  | fromCompletedLoggedOnly payoutId => exact stamped
  | fromPendingAdjusted payoutId newAmount => exact (cores_relink _ _).trans stamped
  | fromPendingCancelled payoutId newAmount floor => exact cores_relink _ _

theorem mem_stamps_settleReversal {e : ReferralEarning} {action : ReversalAction}
    {paymentId id : Nat} {reason : Option String} {now : Time}
    (stamped : id ∈ (l.settleReversal e action paymentId reason now).stamps) :
    id = e.id ∨ id ∈ l.stamps := by
  cases action with
  | fromUnclaimed => exact mem_stamps_stamp stamped
  | fromDangling =>
      unfold settleReversal at stamped
      rw [stamps_relink] at stamped
      exact mem_stamps_stamp stamped
  | fromCompletedLoggedOnly payoutId => exact mem_stamps_stamp stamped
  | fromPendingAdjusted payoutId newAmount =>
      unfold settleReversal at stamped
      rw [stamps_relink] at stamped
      exact mem_stamps_stamp stamped
  | fromPendingCancelled payoutId newAmount floor =>
      have kept : (l.relink (linkedTo payoutId) none).stamps = l.stamps := stamps_relink _ _
      exact Or.inr (kept ▸ stamped)

theorem settleReversal_frame (e : ReferralEarning) (action : ReversalAction) (paymentId : Nat)
    (reason : Option String) (now : Time) :
    (l.settleReversal e action paymentId reason now).earningSeq = l.earningSeq ∧
      (l.settleReversal e action paymentId reason now).usages = l.usages := by
  cases action with
  | fromUnclaimed => exact ⟨rfl, rfl⟩
  | fromDangling => exact ⟨rfl, rfl⟩
  | fromCompletedLoggedOnly payoutId => exact ⟨rfl, rfl⟩
  | fromPendingAdjusted payoutId newAmount => exact ⟨rfl, rfl⟩
  | fromPendingCancelled payoutId newAmount floor => exact ⟨rfl, rfl⟩

/-- A reversal adds the sibling of an earning that is there. -/
theorem adds_reversal {e : ReferralEarning} (credited : l.Credited) (present : e ∈ l.earnings.rows)
    (action : ReversalAction) (paymentId : Nat) (reason : Option String) (now : Time) :
    l.Adds (l.applyReversal e action paymentId reason now)
      (siblingOf e reason l.earningSeq).core := by
  have settled := cores_settleReversal (l := l) e action paymentId reason now
  have frame := settleReversal_frame (l := l) e action paymentId reason now
  have fresh : ∀ c ∈ (l.settleReversal e action paymentId reason now).cores,
      c.id < (l.settleReversal e action paymentId reason now).earningSeq := by
    rw [settled, frame.1]
    exact credited.below
  refine ⟨?_, rfl, ?_, ?_, ?_, fun id stamped => ?_⟩
  · have added : (l.applyReversal e action paymentId reason now).cores = _ :=
      cores_insertEarning (fun _ => rfl) fresh
    rw [settled, frame.1] at added
    exact added
  · exact congrArg (· + 1) frame.1
  · intro other own
    cases own
  · intro own
    cases own
  · have kept : (l.applyReversal e action paymentId reason now).stamps = _ :=
      stamps_insertEarning (fun _ => rfl) (fun _ => rfl) fresh
    have before : id ∈ (l.settleReversal e action paymentId reason now).stamps := kept ▸ stamped
    rcases mem_stamps_settleReversal before with rfl | earlier
    · refine Or.inr ⟨credited.below e.core (List.mem_map_of_mem present), rfl, fun c member same => ?_⟩
      obtain ⟨e', present', rfl⟩ := List.mem_map.mp member
      have equal : e' = e := earning_unique present' present same
      rw [equal]
      rfl
    · exact Or.inl earlier

/-- What a refund's reversal leaves. -/
theorem reverseCommission_spec (credited : l.Credited) (paymentId : Nat) (reason : Option String)
    (minPayout : ℚ) (now : Time) :
    (l.reverseCommission paymentId reason minPayout now).2.Credited ∧
      (l.reverseCommission paymentId reason minPayout now).2.CommissionReversed paymentId ∧
      (∀ other, l.CommissionReversed other →
        (l.reverseCommission paymentId reason minPayout now).2.CommissionReversed other) ∧
      (∀ other, (l.reverseCommission paymentId reason minPayout now).2.creditsOf other =
        l.creditsOf other) ∧
      (l.reverseCommission paymentId reason minPayout now).2.usages = l.usages := by
  have only : ∀ e ∈ l.earnings.rows, e.paymentId = some paymentId →
      ∀ e' ∈ l.earnings.rows, e'.paymentId = some paymentId → e' = e := by
    intro e member own e' member' own'
    exact eq_of_countP_le_one (credited.once paymentId) member' member (by simp [own'])
      (by simp [own])
  cases found : l.reversedEarning paymentId with
  | none =>
      have same : (l.reverseCommission paymentId reason minPayout now).2 = l := by
        simp [reverseCommission, found]
      rw [same]
      refine ⟨credited, fun e member own => ?_, fun _ reversed => reversed, fun _ => rfl, rfl⟩
      have missing := List.find?_eq_none.mp found e member
      have original := credited.original e.core (List.mem_map_of_mem member)
        (by simp [ReferralEarning.core, own])
      simp only [ReferralEarning.core] at original
      simp [own, original] at missing
  | some earning =>
      have present := List.mem_of_find?_eq_some found
      have tested := List.find?_some found
      have own : earning.paymentId = some paymentId := by
        simp only [Bool.and_eq_true, beq_iff_eq] at tested
        exact tested.1
      by_cases stamped : earning.reversedAt.isSome = true
      · have same : (l.reverseCommission paymentId reason minPayout now).2 = l := by
          simp [reverseCommission, found, stamped]
        rw [same]
        refine ⟨credited, fun e member own' => ?_, fun _ reversed => reversed, fun _ => rfl, rfl⟩
        rw [only earning present own e member own']
        have marked : earning.id ∈ l.stamps :=
          List.mem_map.mpr ⟨earning, List.mem_filter.mpr ⟨present, stamped⟩, rfl⟩
        obtain ⟨sibling, stored, facts⟩ := credited.stamped earning.id marked earning.core
          (List.mem_map_of_mem present) rfl
        obtain ⟨row, member', rfl⟩ := List.mem_map.mp stored
        exact ⟨row, member', facts⟩
      · have applied : (l.reverseCommission paymentId reason minPayout now).2 =
            l.applyReversal earning
              (reversalAction earning (earning.payoutRequestId.bind l.payouts.get?) minPayout)
              paymentId reason now := by
          simp [reverseCommission, found, stamped]
        rw [applied]
        have adds := adds_reversal credited present
          (reversalAction earning (earning.payoutRequestId.bind l.payouts.get?) minPayout)
          paymentId reason now
        refine ⟨adds.credited credited, ?_, fun other reversed => ?_, fun other => ?_, ?_⟩
        · refine commissionReversed_iff.mpr fun c member own' => ?_
          rw [adds.cores] at member ⊢
          rcases List.mem_append.mp member with old | new
          · obtain ⟨e, stored, rfl⟩ := List.mem_map.mp old
            have same := only earning present own e stored own'
            refine ⟨_, List.mem_append_right _ (List.mem_singleton.mpr rfl), ?_, ?_⟩
            · rw [same]
              rfl
            · rw [same]
              rfl
          · rw [List.mem_singleton.mp new] at own'
            cases own'
        · exact adds.reversed (by simp [siblingOf, ReferralEarning.core]) reversed
        · exact adds.creditsOf_eq other
        · exact (settleReversal_frame _ _ _ _ _).2

/-! ## Users and codes -/

/-- Operations on payouts leave the codes, and the code each user signed up with. -/
theorem signup_step {op : LedgerOp} (payouts : op.onPayouts = true)
    (stepped : l.step op = some l') : l'.codes = l.codes ∧ l'.usageSeq = l.usageSeq ∧
      ∀ userId, (l'.users.get? userId).bind User.signupCodeId =
        (l.users.get? userId).bind User.signupCodeId := by
  cases op with
  | requestPayout userId address minPayout =>
      obtain ⟨user, -, done⟩ := Option.bind_eq_some_iff.mp stepped
      obtain ⟨-, rfl⟩ := requestPayout_eq (ok_of_toOption done)
      refine ⟨rfl, rfl, fun other => ?_⟩
      change ((l.setPayoutAddress user.id (Python.strip address)).users.get? other).bind _ = _
      unfold setPayoutAddress
      rw [Table.get?_map]
      cases found : l.users.get? other with
      | none => rfl
      | some row =>
          simp only [Option.map_some, Option.bind_some]
          split <;> rfl
  | adminCompletePayout payoutId note now =>
      obtain ⟨p, -, -, rfl⟩ := adminCompletePayout_eq (ok_of_toOption stepped)
      exact ⟨rfl, rfl, fun _ => rfl⟩
  | adminCancelPayout payoutId note now =>
      obtain ⟨p, -, -, rfl⟩ := adminCancelPayout_eq (ok_of_toOption stepped)
      exact ⟨rfl, rfl, fun _ => rfl⟩
  | saveUser u => cases payouts
  | saveCode code => cases payouts
  | creditCommission refereeId paymentId amountUsd => cases payouts
  | creditSplitDiscount refereeId payment => cases payouts
  | reverseCommission paymentId reason minPayout now => cases payouts
  | reverseUsage paymentId reason now => cases payouts

theorem settleReversal_users (e : ReferralEarning) (action : ReversalAction) (paymentId : Nat)
    (reason : Option String) (now : Time) :
    (l.settleReversal e action paymentId reason now).users = l.users ∧
      (l.settleReversal e action paymentId reason now).codes = l.codes ∧
      (l.settleReversal e action paymentId reason now).usageSeq = l.usageSeq := by
  cases action with
  | fromUnclaimed => exact ⟨rfl, rfl, rfl⟩
  | fromDangling => exact ⟨rfl, rfl, rfl⟩
  | fromCompletedLoggedOnly payoutId => exact ⟨rfl, rfl, rfl⟩
  | fromPendingAdjusted payoutId newAmount => exact ⟨rfl, rfl, rfl⟩
  | fromPendingCancelled payoutId newAmount floor => exact ⟨rfl, rfl, rfl⟩

/-- A reversal leaves users, codes and usages, and the earnings that are there. -/
theorem reverseCommission_frame (credited : l.Credited) (paymentId : Nat)
    (reason : Option String) (minPayout : ℚ) (now : Time) :
    let l' := (l.reverseCommission paymentId reason minPayout now).2
    l'.users = l.users ∧ l'.codes = l.codes ∧ l'.usageSeq = l.usageSeq ∧
      ∀ c ∈ l.cores, c ∈ l'.cores := by
  cases found : l.reversedEarning paymentId with
  | none =>
      have same : (l.reverseCommission paymentId reason minPayout now).2 = l := by
        simp [reverseCommission, found]
      rw [same]
      exact ⟨rfl, rfl, rfl, fun _ member => member⟩
  | some earning =>
      by_cases stamped : earning.reversedAt.isSome = true
      · have same : (l.reverseCommission paymentId reason minPayout now).2 = l := by
          simp [reverseCommission, found, stamped]
        rw [same]
        exact ⟨rfl, rfl, rfl, fun _ member => member⟩
      · have applied : (l.reverseCommission paymentId reason minPayout now).2 =
            l.applyReversal earning
              (reversalAction earning (earning.payoutRequestId.bind l.payouts.get?) minPayout)
              paymentId reason now := by
          simp [reverseCommission, found, stamped]
        rw [applied]
        have adds := adds_reversal credited (List.mem_of_find?_eq_some found)
          (reversalAction earning (earning.payoutRequestId.bind l.payouts.get?) minPayout)
          paymentId reason now
        obtain ⟨users, codes, seq⟩ := settleReversal_users (l := l) earning
          (reversalAction earning (earning.payoutRequestId.bind l.payouts.get?) minPayout)
          paymentId reason now
        refine ⟨users, codes, seq, fun c member => ?_⟩
        rw [adds.cores]
        exact List.mem_append_left _ member

end Ledger

end Avalant
