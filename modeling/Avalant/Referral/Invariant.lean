import Avalant.Referral.Operations
import Mathlib.Tactic.Linarith

/-!
What every state of the ledger satisfies, statement by statement.

`Ledger.Sound` says that rows are numbered below their sequences, that a link
leads to a request of the earning's own user which is not cancelled, and that
the amount of such a request is the sum of the earnings linked to it. The sums
the service reads then agree.
-/

namespace Avalant

open Relational

namespace Ledger

structure Sound (l : Ledger) : Prop where
  earningSeq : ∀ e ∈ l.earnings.rows, e.id < l.earningSeq
  payoutSeq : ∀ p ∈ l.payouts.rows, p.id < l.payoutSeq
  linked : ∀ e ∈ l.earnings.rows, ∀ payoutId, e.payoutRequestId = some payoutId →
    ∃ p ∈ l.payouts.rows, p.id = payoutId ∧ p.userId = e.referrerId ∧ p.status ≠ .cancelled
  amount : ∀ p ∈ l.payouts.rows, p.status ≠ .cancelled → l.linkedAmount p.id = p.amountUsd
  onePending : ∀ p ∈ l.payouts.rows, ∀ p' ∈ l.payouts.rows, p.status = .pending →
    p'.status = .pending → p.userId = p'.userId → p.id = p'.id

variable {l : Ledger}

theorem sound_empty : Sound {} := by
  constructor
  · intro e member
    cases member
  · intro p member
    cases member
  · intro e member
    cases member
  · intro p member
    cases member
  · intro p member
    cases member

theorem payout_unique {p p' : ReferralPayoutRequest} (member : p ∈ l.payouts.rows)
    (member' : p' ∈ l.payouts.rows) (same : p.id = p'.id) : p = p' :=
  List.inj_on_of_nodup_map l.payouts.nodup member member' same

theorem earning_unique {e e' : ReferralEarning} (member : e ∈ l.earnings.rows)
    (member' : e' ∈ l.earnings.rows) (same : e.id = e'.id) : e = e' :=
  List.inj_on_of_nodup_map l.earnings.nodup member member' same

/-! ## The sums agree -/

/-- Earned is available plus what the live requests claim. -/
theorem Sound.totalEarned_eq (sound : l.Sound) (userId : Nat) :
    l.totalEarned userId = l.availableBalance userId + l.totalPaid userId +
      l.totalPending userId := by
  have complete : ∀ e ∈ l.earnings.rows, earnedBy userId e = true → ∀ k,
      e.payoutRequestId = some k → k ∈ l.payouts.rows.map key := by
    intro e member _ k linked
    obtain ⟨p, present, rfl, -, -⟩ := sound.linked e member k linked
    exact List.mem_map_of_mem present
  -- a request's share of the user's earnings is its amount if it is live and theirs
  have shares : l.payouts.rows.map (fun p => l.earnings.sumWhere
        (fun e => earnedBy userId e && e.payoutRequestId == some (key p))
        ReferralEarning.amountUsd) =
      l.payouts.rows.map fun p =>
        Table.share (payoutOf userId .completed) ReferralPayoutRequest.amountUsd p +
          Table.share (payoutOf userId .pending) ReferralPayoutRequest.amountUsd p := by
    refine List.map_congr_left fun p member => ?_
    by_cases own : p.userId = userId
    · have sameRows : ∀ e ∈ l.earnings.rows,
          (earnedBy userId e && e.payoutRequestId == some (key p)) = linkedTo p.id e := by
        intro e present
        by_cases toThis : e.payoutRequestId = some p.id
        · obtain ⟨p', present', sameId, user, -⟩ := sound.linked e present _ toThis
          have referrer : e.referrerId = userId := by
            rw [← user, payout_unique present' member sameId, own]
          simp [linkedTo, earnedBy, toThis, referrer]
        · simp [linkedTo, toThis]
      rw [Table.sumWhere_congr _ sameRows]
      change l.linkedAmount p.id = _
      cases status : p.status with
      | cancelled =>
          have none : ∀ e ∈ l.earnings.rows, linkedTo p.id e = false := by
            intro e present
            by_contra claimed
            have toThis : e.payoutRequestId = some p.id := by simpa [linkedTo] using claimed
            obtain ⟨p', present', sameId, -, live⟩ := sound.linked e present _ toThis
            exact live (payout_unique present' member sameId ▸ status)
          rw [linkedAmount, Table.sumWhere_eq_zero none]
          simp [Table.share, payoutOf, status]
      | pending =>
          rw [sound.amount p member (by simp [status])]
          simp [Table.share, payoutOf, status, own]
      | completed =>
          rw [sound.amount p member (by simp [status])]
          simp [Table.share, payoutOf, status, own]
    · have noRows : ∀ e ∈ l.earnings.rows,
          (earnedBy userId e && e.payoutRequestId == some (key p)) = false := by
        intro e present
        by_contra claimed
        have both : e.referrerId = userId ∧ e.payoutRequestId = some p.id := by
          simpa [earnedBy] using claimed
        obtain ⟨p', present', sameId, user, -⟩ := sound.linked e present _ both.2
        exact own (by rw [← payout_unique present' member sameId, user, both.1])
      rw [Table.sumWhere_eq_zero noRows]
      simp [Table.share, payoutOf, own]
  unfold totalEarned
  rw [Table.sumWhere_links l.earnings l.payouts _ ReferralEarning.payoutRequestId _ complete,
    shares, List.sum_map_add]
  unfold availableBalance totalPaid totalPending
  rw [Table.sumWhere_eq_shares l.payouts, Table.sumWhere_eq_shares l.payouts, add_assoc]
  rfl

/-! ## Insertions -/

theorem Sound.earning_fresh (sound : l.Sound) : l.earnings.get? l.earningSeq = none :=
  Table.get?_of_below sound.earningSeq

theorem Sound.payout_fresh (sound : l.Sound) : l.payouts.get? l.payoutSeq = none :=
  Table.get?_of_below sound.payoutSeq

/-- A new earning is claimed by no request. -/
theorem Sound.insertEarning (sound : l.Sound) {row : Nat → ReferralEarning}
    (numbered : ∀ id, (row id).id = id) (unlinked : ∀ id, (row id).payoutRequestId = none) :
    (l.insertEarning row).Sound := by
  have fresh : l.earnings.get? (key (row l.earningSeq)) = none := by
    rw [key_referralEarning, numbered]
    exact sound.earning_fresh
  have rows : ∀ e ∈ (l.insertEarning row).earnings.rows,
      e ∈ l.earnings.rows ∨ e = row l.earningSeq := fun e => (Table.mem_rows_insert fresh).mp
  have kept : ∀ payoutId, (l.insertEarning row).linkedAmount payoutId = l.linkedAmount payoutId := by
    intro payoutId
    unfold linkedAmount Ledger.insertEarning
    rw [Table.sumWhere_insert fresh]
    simp [Table.share, linkedTo, unlinked]
  refine ⟨fun e member => ?_, sound.payoutSeq, fun e member payoutId linked => ?_,
    fun p member live => (kept p.id).trans (sound.amount p member live), sound.onePending⟩
  · rcases rows e member with old | rfl
    · exact Nat.lt_succ_of_lt (sound.earningSeq e old)
    · exact Nat.lt_succ_of_le (numbered _).le
  · rcases rows e member with old | rfl
    · exact sound.linked e old payoutId linked
    · rw [unlinked] at linked
      cases linked

/-! ## Updates of the earnings -/

/-- What the earnings linked to a request add up to after a bulk update of the links. -/
theorem linkedAmount_relink (l : Ledger) (selected : ReferralEarning → Bool) (link : Option Nat)
    (payoutId : Nat) : (l.relink selected link).linkedAmount payoutId =
      l.earnings.sumWhere (fun e => if selected e then link == some payoutId else linkedTo payoutId e)
        ReferralEarning.amountUsd := by
  refine Table.sumWhere_map l.earnings _ (fun e => by split <;> rfl) fun e _ => ?_
  by_cases chosen : selected e = true
  · simp [Table.share, linkedTo, chosen]
  · simp [Table.share, chosen]

theorem mem_relink {selected : ReferralEarning → Bool} {link : Option Nat} {e : ReferralEarning}
    (member : e ∈ (l.relink selected link).earnings.rows) :
    ∃ old ∈ l.earnings.rows, e.id = old.id ∧ e.referrerId = old.referrerId ∧
      e.payoutRequestId = if selected old then link else old.payoutRequestId := by
  obtain ⟨old, present, rfl⟩ := List.mem_map.mp member
  refine ⟨old, present, ?_⟩
  by_cases chosen : selected old = true
  · simp [chosen]
  · simp [chosen]

/-- The stamped row has the id, the link and the amount of the one that was read. -/
theorem mem_stamp {e : ReferralEarning} (present : e ∈ l.earnings.rows) (reason : String)
    (now : Time) :
    { e with reversedAt := some now, reversalReason := some reason } ∈
      (l.stamp e.id reason now).earnings.rows :=
  List.mem_map.mpr ⟨e, present, if_pos rfl⟩

/-- The stamp of a reversal leaves the money alone. -/
theorem Sound.stamp (sound : l.Sound) (earningId : Nat) (reason : String) (now : Time) :
    (l.stamp earningId reason now).Sound := by
  have former : ∀ e ∈ (l.stamp earningId reason now).earnings.rows, ∃ old ∈ l.earnings.rows,
      e.id = old.id ∧ e.referrerId = old.referrerId ∧ e.payoutRequestId = old.payoutRequestId := by
    intro e member
    obtain ⟨old, present, rfl⟩ := List.mem_map.mp member
    refine ⟨old, present, ?_⟩
    split <;> simp
  have kept : ∀ payoutId, (l.stamp earningId reason now).linkedAmount payoutId =
      l.linkedAmount payoutId := by
    intro payoutId
    refine Table.sumWhere_map l.earnings _ (fun e => by split <;> rfl) fun e _ => ?_
    split <;> rfl
  refine ⟨fun e member => ?_, sound.payoutSeq, fun e member payoutId linked => ?_,
    fun p member live => (kept p.id).trans (sound.amount p member live), sound.onePending⟩
  · obtain ⟨old, present, id, -, -⟩ := former e member
    exact id ▸ sound.earningSeq old present
  · obtain ⟨old, present, -, referrer, link⟩ := former e member
    rw [referrer]
    exact sound.linked old present payoutId (link ▸ linked)

/-! ## Updates of a request and its earnings -/

/-- A new pending request that claims unclaimed earnings of its user worth its amount. -/
theorem Sound.claim (sound : l.Sound) {p : ReferralPayoutRequest} {seq : Nat}
    {selected : ReferralEarning → Bool} (fresh : l.payouts.get? p.id = none)
    (below : p.id < seq) (grown : l.payoutSeq ≤ seq) (pending : p.status = .pending)
    (first : l.hasPendingPayout p.userId = false)
    (unclaimed : ∀ e ∈ l.earnings.rows, selected e = true → unclaimedBy p.userId e = true)
    (amount : p.amountUsd = l.earnings.sumWhere selected ReferralEarning.amountUsd) :
    (({ l.insertPayout p with payoutSeq := seq } : Ledger).relink selected (some p.id)).Sound := by
  have rows : ∀ p', p' ∈ (l.payouts.insert p).rows ↔ p' ∈ l.payouts.rows ∨ p' = p :=
    fun _ => Table.mem_rows_insert fresh
  have otherId : ∀ p' ∈ l.payouts.rows, p'.id ≠ p.id := by
    intro p' member same
    have taken := Table.mem_rows_iff.mp member
    rw [key_referralPayoutRequest, same, fresh] at taken
    cases taken
  -- no earning is linked to the new number yet
  have unused : ∀ e ∈ l.earnings.rows, linkedTo p.id e = false := by
    intro e member
    by_contra claimed
    have toNew : e.payoutRequestId = some p.id := by simpa [linkedTo] using claimed
    obtain ⟨p', present, same, -, -⟩ := sound.linked e member _ toNew
    exact otherId p' present same
  have others : ∀ p' ∈ l.payouts.rows, p'.status = .pending → p'.userId ≠ p.userId := by
    intro p' member waiting same
    have none := List.any_eq_false.mp first p' member
    simp [payoutOf, same, waiting] at none
  refine ⟨fun e member => ?_, fun p' member => ?_, fun e member payoutId linked => ?_,
    fun p' member live => ?_, fun p' member p'' member' waiting waiting' same => ?_⟩
  · obtain ⟨old, present, id, -, -⟩ := mem_relink member
    exact id ▸ sound.earningSeq old present
  · rcases (rows p').mp member with old | rfl
    · exact (sound.payoutSeq p' old).trans_le grown
    · exact below
  · obtain ⟨old, present, -, referrer, link⟩ := mem_relink member
    rw [link] at linked
    split at linked
    case isTrue chosen =>
      cases linked
      have free := unclaimed old present chosen
      have own : old.referrerId = p.userId := by
        simp only [unclaimedBy, earnedBy, Bool.and_eq_true, beq_iff_eq] at free
        exact free.1
      exact ⟨p, (rows p).mpr (Or.inr rfl), rfl, by rw [referrer, own], by simp [pending]⟩
    case isFalse =>
      obtain ⟨p', present', same, user, live⟩ := sound.linked old present payoutId linked
      exact ⟨p', (rows p').mpr (Or.inl present'), same, by rw [referrer, user], live⟩
  · rw [linkedAmount_relink]
    rcases (rows p').mp member with old | rfl
    · have sameRows : ∀ e ∈ l.earnings.rows,
          (if selected e then some p.id == some p'.id else linkedTo p'.id e) =
            linkedTo p'.id e := by
        intro e present
        by_cases chosen : selected e = true
        · have free := unclaimed e present chosen
          have unlinked : e.payoutRequestId = none := by
            simp only [unclaimedBy, Bool.and_eq_true, Option.isNone_iff_eq_none] at free
            exact free.2
          simp [chosen, linkedTo, unlinked, Ne.symm (otherId p' old)]
        · simp [chosen]
      exact (Table.sumWhere_congr _ sameRows _).trans (sound.amount p' old live)
    · have sameRows : ∀ e ∈ l.earnings.rows,
          (if selected e then some p'.id == some p'.id else linkedTo p'.id e) = selected e := by
        intro e present
        by_cases chosen : selected e = true
        · simp [chosen]
        · simp [chosen, unused e present]
      exact (Table.sumWhere_congr _ sameRows _).trans amount.symm
  · rcases (rows p').mp member with old | rfl
    · rcases (rows p'').mp member' with old' | rfl
      · exact sound.onePending p' old p'' old' waiting waiting' same
      · exact absurd same (others p' old waiting)
    · rcases (rows p'').mp member' with old' | rfl
      · exact absurd same.symm (others p'' old' waiting')
      · rfl

theorem mem_resolve {payoutId : Nat} {status : PayoutStatus} {note : Option String} {now : Time}
    {p : ReferralPayoutRequest} (member : p ∈ (l.resolve payoutId status note now).payouts.rows) :
    ∃ old ∈ l.payouts.rows, p.id = old.id ∧ p.userId = old.userId ∧
      p.amountUsd = old.amountUsd ∧ p.status = if old.id = payoutId then status else old.status := by
  obtain ⟨old, present, rfl⟩ := List.mem_map.mp member
  refine ⟨old, present, ?_⟩
  split <;> simp

theorem mem_resolve_of_mem {payoutId : Nat} {status : PayoutStatus} {note : Option String}
    {now : Time} {p : ReferralPayoutRequest} (member : p ∈ l.payouts.rows) :
    ∃ p' ∈ (l.resolve payoutId status note now).payouts.rows, p'.id = p.id ∧
      p'.userId = p.userId ∧ p'.status = if p.id = payoutId then status else p.status := by
  refine ⟨_, List.mem_map_of_mem member, ?_⟩
  split <;> simp

/-- A request that is resolved is no longer pending. -/
theorem Sound.onePending_resolve (sound : l.Sound) {payoutId : Nat} {status : PayoutStatus}
    {note : Option String} {now : Time} (resolved : status ≠ .pending) :
    ∀ p ∈ (l.resolve payoutId status note now).payouts.rows,
      ∀ p' ∈ (l.resolve payoutId status note now).payouts.rows,
        p.status = .pending → p'.status = .pending → p.userId = p'.userId → p.id = p'.id := by
  intro p member p' member' waiting waiting' same
  obtain ⟨old, present, id, user, -, from_⟩ := mem_resolve member
  obtain ⟨old', present', id', user', -, from_'⟩ := mem_resolve member'
  rw [from_] at waiting
  rw [from_'] at waiting'
  split at waiting
  · exact absurd waiting resolved
  split at waiting'
  · exact absurd waiting' resolved
  rw [id, id']
  exact sound.onePending old present old' present' waiting waiting' (by rw [← user, ← user', same])

/-- A pending request becomes a completed one. -/
theorem Sound.complete (sound : l.Sound) {p : ReferralPayoutRequest} (member : p ∈ l.payouts.rows)
    (pending : p.status = .pending) (note : Option String) (now : Time) :
    (l.resolve p.id .completed note now).Sound := by
  refine ⟨sound.earningSeq, fun p' member' => ?_, fun e present payoutId linked => ?_,
    fun p' member' live => ?_, sound.onePending_resolve (by decide)⟩
  · obtain ⟨old, present, id, -⟩ := mem_resolve member'
    exact id ▸ sound.payoutSeq old present
  · obtain ⟨old, present', id, user, live⟩ := sound.linked e present payoutId linked
    obtain ⟨p', member', id', user', status⟩ := mem_resolve_of_mem present'
    refine ⟨p', member', id'.trans id, user'.trans user, ?_⟩
    rw [status]
    split
    · simp
    · exact live
  · obtain ⟨old, present, id, -, amount, status⟩ := mem_resolve member'
    have oldLive : old.status ≠ .cancelled := by
      intro cancelled
      rw [status, cancelled] at live
      split at live
      case isTrue same =>
        rw [payout_unique present member same, pending] at cancelled
        cases cancelled
      case isFalse => exact live rfl
    rw [id, amount]
    exact sound.amount old present oldLive

/-- A request is cancelled and lets its earnings go. -/
theorem Sound.release (sound : l.Sound) (payoutId : Nat) (note : Option String) (now : Time) :
    ((l.resolve payoutId .cancelled note now).relink (linkedTo payoutId) none).Sound := by
  refine ⟨fun e member => ?_, fun p member => ?_, fun e member other linked => ?_,
    fun p member live => ?_, sound.onePending_resolve (by decide)⟩
  · obtain ⟨old, present, id, -, -⟩ := mem_relink member
    exact id ▸ sound.earningSeq old present
  · obtain ⟨old, present, id, -⟩ := mem_resolve member
    exact id ▸ sound.payoutSeq old present
  · obtain ⟨old, present, -, referrer, link⟩ := mem_relink member
    rw [link] at linked
    split at linked
    case isTrue => cases linked
    case isFalse elsewhere =>
      obtain ⟨p, present', id, user, live⟩ := sound.linked old present other linked
      obtain ⟨p', member', id', user', status⟩ := mem_resolve_of_mem present'
      have different : p.id ≠ payoutId := by
        intro same
        simp [linkedTo, linked, ← id, same] at elsewhere
      refine ⟨p', member', id'.trans id, by rw [user', user, referrer], ?_⟩
      rw [status, if_neg different]
      exact live
  · obtain ⟨old, present, id, -, amount, status⟩ := mem_resolve member
    have different : old.id ≠ payoutId := by
      intro same
      rw [status, if_pos same] at live
      exact live rfl
    rw [status, if_neg different] at live
    rw [linkedAmount_relink, id, amount]
    have sameRows : ∀ e ∈ l.earnings.rows,
        (if linkedTo payoutId e then none == some old.id else linkedTo old.id e) =
          linkedTo old.id e := by
      intro e _
      by_cases toThis : e.payoutRequestId = some payoutId
      · simp [linkedTo, toThis, Ne.symm different]
      · simp [linkedTo, toThis]
    exact (Table.sumWhere_congr _ sameRows _).trans (sound.amount old present live)

/-- An earning leaves its pending request, whose amount shrinks by it. -/
theorem Sound.adjust (sound : l.Sound) {e : ReferralEarning} {p : ReferralPayoutRequest}
    (present : e ∈ l.earnings.rows) (member : p ∈ l.payouts.rows)
    (linked : e.payoutRequestId = some p.id) :
    ((l.setAmount p.id (p.amountUsd - e.amountUsd)).relink (fun e' => e'.id == e.id) none).Sound := by
  have former : ∀ p' ∈ (l.setAmount p.id (p.amountUsd - e.amountUsd)).payouts.rows,
      ∃ old ∈ l.payouts.rows, p'.id = old.id ∧ p'.userId = old.userId ∧ p'.status = old.status ∧
        p'.amountUsd = if old.id = p.id then p.amountUsd - e.amountUsd else old.amountUsd := by
    intro p' member'
    obtain ⟨old, present', rfl⟩ := List.mem_map.mp member'
    refine ⟨old, present', ?_⟩
    split <;> simp
  refine ⟨fun e' member' => ?_, fun p' member' => ?_, fun e' member' other toOther => ?_,
    fun p' member' live => ?_, fun p' member' p'' member'' waiting waiting' same => ?_⟩
  · obtain ⟨old, present', id, -, -⟩ := mem_relink member'
    exact id ▸ sound.earningSeq old present'
  · obtain ⟨old, present', id, -⟩ := former p' member'
    exact id ▸ sound.payoutSeq old present'
  · obtain ⟨old, present', -, referrer, link⟩ := mem_relink member'
    rw [link] at toOther
    split at toOther
    case isTrue => cases toOther
    case isFalse =>
      obtain ⟨p', member'', id, user, live⟩ := sound.linked old present' other toOther
      refine ⟨_, List.mem_map_of_mem member'', ?_⟩
      split
      · exact ⟨id, by rw [referrer, ← user], live⟩
      · exact ⟨id, by rw [referrer, ← user], live⟩
  · obtain ⟨old, present', id, -, status, amount⟩ := former p' member'
    rw [status] at live
    rw [linkedAmount_relink, id, amount]
    have total := sound.amount old present' live
    have found : l.earnings.get? e.id = some e := Table.mem_rows_iff.mp present
    have split := Table.sumWhere_split found (linkedTo old.id) ReferralEarning.amountUsd
    have rest : ∀ e' ∈ l.earnings.rows,
        (if e'.id == e.id then none == some old.id else linkedTo old.id e') =
          (linkedTo old.id e' && key e' != e.id) := by
      intro e' _
      by_cases same : e'.id = e.id
      · simp [same]
      · simp [same]
    refine (Table.sumWhere_congr l.earnings rest _).trans ?_
    unfold linkedAmount at total
    rw [split] at total
    by_cases own : old.id = p.id
    · have counted : Table.share (linkedTo old.id) ReferralEarning.amountUsd e = e.amountUsd := by
        simp [Table.share, linkedTo, linked, own]
      have samePayout := payout_unique present' member own
      rw [if_pos own, ← samePayout]
      rw [counted] at total
      linarith
    · have uncounted : Table.share (linkedTo old.id) ReferralEarning.amountUsd e = 0 := by
        simp [Table.share, linkedTo, linked, Ne.symm own]
      rw [if_neg own]
      rw [uncounted] at total
      linarith
  · obtain ⟨old, present', id, user, status, -⟩ := former p' member'
    obtain ⟨old', present'', id', user', status', -⟩ := former p'' member''
    rw [id, id']
    exact sound.onePending old present' old' present'' (status ▸ waiting) (status' ▸ waiting')
      (by rw [← user, ← user', same])

end Ledger

end Avalant
