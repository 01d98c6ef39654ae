import Avalant.Referral.Credits

/-!
A reversal that is called again.

The stamp of the original earning says that it is reversed. Three of the four branches commit it
with the sibling; the branch that cancels the payout throws it away, so that the next call finds
the earning as it was and reverses it again.
-/

namespace Avalant

open Relational Transition

namespace Ledger

/-! ## Once, and at most one -/

/-- The negative siblings of an earning. -/
def siblingsOf (l : Ledger) (earningId : Nat) : Nat :=
  l.earnings.rows.countP fun e => e.reversalOfId == some earningId

/-- The same earnings, payout requests and balances. -/
structure SameBooks (l l' : Ledger) : Prop where
  earnings : l'.earnings = l.earnings
  payouts : l'.payouts = l.payouts
  balance : ∀ userId, l'.availableBalance userId = l.availableBalance userId

/-- After one call, another one changes nothing. -/
def ReversesOnce (l : Ledger) (paymentId : Nat) (minPayout : ℚ) : Prop :=
  ∀ reason now reason' minPayout' now',
    let once := (l.reverseCommission paymentId reason minPayout now).2
    once.SameBooks (once.reverseCommission paymentId reason' minPayout' now').2

/-- At most one sibling for each earning, over the histories under a condition. -/
def OneSibling (ok : Ledger → LedgerOp → Prop) : Prop :=
  ∀ l, Run Ledger.step ok {} l → ∀ earningId, l.siblingsOf earningId ≤ 1

/-- The earning is unreversed, and claimed by a pending payout that is below the floor without it. -/
def CancelsPayout (l : Ledger) (paymentId : Nat) (minPayout : ℚ) : Prop :=
  ∃ e p, l.reversedEarning paymentId = some e ∧ e.reversedAt = none ∧
    e.payoutRequestId = some p.id ∧ l.payouts.get? p.id = some p ∧ p.status = .pending ∧
      p.amountUsd - e.amountUsd < minPayout

/-- No payout is cancelled by a reversal. -/
def SparesPayouts (l : Ledger) : LedgerOp → Prop
  | .reverseCommission paymentId _ minPayout _ => ¬l.CancelsPayout paymentId minPayout
  | _ => True

variable {l l' : Ledger} {e : ReferralEarning} {action : ReversalAction} {paymentId : Nat}
  {reason : Option String} {minPayout : ℚ} {now : Time}

/-! ## The earning of a payment -/

/-- Rows that are rewritten: what they are about stays, and a stamp stays. -/
structure Rewrites (rows rows' : List ReferralEarning) (f : ReferralEarning → ReferralEarning) :
    Prop where
  rows : rows' = rows.map f
  core : ∀ e, (f e).core = e.core
  stamp : ∀ e, e.reversedAt.isSome = true → (f e).reversedAt.isSome = true

/-- The row with a stamp. -/
def stampRow (earningId : Nat) (text : String) (now : Time) (e : ReferralEarning) :
    ReferralEarning :=
  if e.id = earningId then { e with reversedAt := some now, reversalReason := some text } else e

theorem rewrites_stamp (l : Ledger) (earningId : Nat) (text : String) (now : Time) :
    Rewrites l.earnings.rows (l.stamp earningId text now).earnings.rows
      (stampRow earningId text now) := by
  refine ⟨rfl, fun e => ?_, fun e marked => ?_⟩
  · unfold stampRow
    split <;> rfl
  · unfold stampRow
    split
    · rfl
    · exact marked

theorem rewrites_relink (l : Ledger) (selected : ReferralEarning → Bool) (link : Option Nat) :
    Rewrites l.earnings.rows (l.relink selected link).earnings.rows fun e =>
      if selected e then { e with payoutRequestId := link } else e := by
  refine ⟨rfl, fun e => ?_, fun e marked => ?_⟩
  · split <;> rfl
  · split <;> exact marked

theorem Rewrites.trans {rows rows' rows'' : List ReferralEarning}
    {f g : ReferralEarning → ReferralEarning} (first : Rewrites rows rows' f)
    (second : Rewrites rows' rows'' g) : Rewrites rows rows'' (g ∘ f) := by
  refine ⟨?_, fun e => ?_, fun e marked => ?_⟩
  · rw [second.rows, first.rows, List.map_map]
  · exact (second.core (f e)).trans (first.core e)
  · exact second.stamp (f e) (first.stamp e marked)

theorem reversedEarning_of_rewrites {f : ReferralEarning → ReferralEarning}
    (rewrites : Rewrites l.earnings.rows l'.earnings.rows f) (paymentId : Nat) :
    l'.reversedEarning paymentId = (l.reversedEarning paymentId).map f := by
  have sameTest : ((fun e : ReferralEarning =>
      e.paymentId == some paymentId && e.reversalOfId.isNone) ∘ f) =
        fun e => e.paymentId == some paymentId && e.reversalOfId.isNone := by
    funext e
    have core := rewrites.core e
    have payment : (f e).paymentId = e.paymentId := congrArg EarningCore.paymentId core
    have original : (f e).reversalOfId = e.reversalOfId := congrArg EarningCore.reversalOfId core
    simp only [Function.comp_apply, payment, original]
  unfold reversedEarning
  rw [rewrites.rows, List.find?_map, sameTest]

theorem reversedEarning_insertEarning {row : Nat → ReferralEarning}
    (found : l.reversedEarning paymentId = some e) :
    (l.insertEarning row).reversedEarning paymentId = some e := by
  unfold reversedEarning at found ⊢
  unfold insertEarning Table.insert
  split
  · exact found
  · rw [List.find?_append, found]
    rfl

/-! ## One call -/

/-- The branch that cancels a payout is taken where the state says so. -/
theorem cancelsPayout_of_action {payoutId : Nat} {newAmount floor : ℚ}
    (found : l.reversedEarning paymentId = some e) (unstamped : e.reversedAt = none)
    (action : reversalAction e (e.payoutRequestId.bind l.payouts.get?) minPayout =
      .fromPendingCancelled payoutId newAmount floor) : l.CancelsPayout paymentId minPayout := by
  unfold reversalAction at action
  split at action
  · cases action
  · cases action
  case h_3 k p linked read =>
    have stored : l.payouts.get? k = some p := by
      rw [linked] at read
      exact read
    have keyed : p.id = k := Table.key_of_get? stored
    subst keyed
    split at action
    · cases action
    · cases action
    case h_3 status =>
      dsimp only at action
      split at action
      · cases action
      case isFalse below => exact ⟨e, p, found, unstamped, linked, stored, status, not_le.mp below⟩

/-- The other branches stamp the earning. -/
theorem rewrites_settleReversal (l : Ledger) (e : ReferralEarning) (action : ReversalAction)
    (paymentId : Nat) (reason : Option String) (now : Time)
    (spared : ∀ payoutId newAmount floor, action ≠ .fromPendingCancelled payoutId newAmount floor) :
    ∃ f, Rewrites l.earnings.rows
        (l.settleReversal e action paymentId reason now).earnings.rows f ∧
      (f e).reversedAt.isSome = true := by
  have stamped := rewrites_stamp l e.id (reversalReason reason) now
  have marked : (stampRow e.id (reversalReason reason) now e).reversedAt.isSome = true := by
    unfold stampRow
    rw [if_pos rfl]
    rfl
  have unlinked := rewrites_relink (l.stamp e.id (reversalReason reason) now)
    (fun e' => e'.id == e.id) none
  cases action with
  | fromUnclaimed => exact ⟨_, stamped, marked⟩
  | fromDangling => exact ⟨_, stamped.trans unlinked, unlinked.stamp _ marked⟩
  | fromCompletedLoggedOnly payoutId => exact ⟨_, stamped, marked⟩
  | fromPendingAdjusted payoutId newAmount =>
      exact ⟨_, stamped.trans unlinked, unlinked.stamp _ marked⟩
  | fromPendingCancelled payoutId newAmount floor => exact absurd rfl (spared _ _ _)

/-- The calls that find nothing to do. -/
theorem reverseCommission_again (done : ∀ e, l.reversedEarning paymentId = some e →
    e.reversedAt.isSome = true) (reason : Option String) (minPayout : ℚ) (now : Time) :
    (l.reverseCommission paymentId reason minPayout now).2 = l := by
  unfold reverseCommission
  cases found : l.reversedEarning paymentId with
  | none => rfl
  | some e =>
      dsimp only
      rw [if_pos (done e found)]

theorem sameBooks_refl (l : Ledger) : l.SameBooks l :=
  ⟨rfl, rfl, fun _ => rfl⟩

/-- A call that cancels no payout leaves a stamped earning. -/
theorem stamped_of_spared (spared : ¬l.CancelsPayout paymentId minPayout) (reason : Option String)
    (now : Time) {e' : ReferralEarning}
    (read : (l.reverseCommission paymentId reason minPayout now).2.reversedEarning paymentId =
      some e') : e'.reversedAt.isSome = true := by
  have idle : (∀ e, l.reversedEarning paymentId = some e → e.reversedAt.isSome = true) →
      e'.reversedAt.isSome = true := by
    intro done
    rw [reverseCommission_again done] at read
    exact done e' read
  cases found : l.reversedEarning paymentId with
  | none =>
      refine idle fun e present => ?_
      rw [found] at present
      cases present
  | some e =>
      by_cases stamped : e.reversedAt.isSome = true
      · refine idle fun e'' present => ?_
        rw [found] at present
        cases present
        exact stamped
      · have unstamped : e.reversedAt = none := by simpa using stamped
        have applied : (l.reverseCommission paymentId reason minPayout now).2 = l.applyReversal e
            (reversalAction e (e.payoutRequestId.bind l.payouts.get?) minPayout)
            paymentId reason now := by
          simp [reverseCommission, found, stamped]
        obtain ⟨f, rewrites, marked⟩ := rewrites_settleReversal l e
          (reversalAction e (e.payoutRequestId.bind l.payouts.get?) minPayout) paymentId reason
          now fun payoutId newAmount floor taken =>
            spared (cancelsPayout_of_action found unstamped taken)
        have settled := reversedEarning_of_rewrites rewrites paymentId
        rw [found] at settled
        have kept : (l.reverseCommission paymentId reason minPayout now).2.reversedEarning paymentId =
            some (f e) := by
          rw [applied]
          exact reversedEarning_insertEarning settled
        rw [kept] at read
        cases read
        exact marked

theorem reversesOnce_of_spared (spared : ¬l.CancelsPayout paymentId minPayout) :
    l.ReversesOnce paymentId minPayout := by
  intro reason now reason' minPayout' now' once
  have done : ∀ e, once.reversedEarning paymentId = some e → e.reversedAt.isSome = true :=
    fun _ read => stamped_of_spared spared reason now read
  rw [reverseCommission_again done]
  exact sameBooks_refl once

/-- A call that cancels the payout leaves the earning unlinked, and without a stamp. -/
theorem unstamped_of_cancels (cancels : l.CancelsPayout paymentId minPayout)
    (reason : Option String) (now : Time) :
    ∃ e, (l.reverseCommission paymentId reason minPayout now).2.reversedEarning paymentId = some e ∧
      e.reversedAt = none ∧ e.payoutRequestId = none := by
  obtain ⟨e, p, found, unstamped, linked, stored, pending, below⟩ := cancels
  have taken : reversalAction e (e.payoutRequestId.bind l.payouts.get?) minPayout =
      .fromPendingCancelled p.id (p.amountUsd - e.amountUsd) minPayout := by
    have read : e.payoutRequestId.bind l.payouts.get? = some p := by rw [linked]; exact stored
    unfold reversalAction
    rw [read, linked]
    simp only [pending, if_neg (not_le.mpr below)]
  have applied : (l.reverseCommission paymentId reason minPayout now).2 = l.applyReversal e
      (.fromPendingCancelled p.id (p.amountUsd - e.amountUsd) minPayout) paymentId reason now := by
    simp [reverseCommission, found, unstamped, taken]
  have relinked := reversedEarning_of_rewrites
    (rewrites_relink l (linkedTo p.id) none) paymentId
  rw [found] at relinked
  refine ⟨{ e with payoutRequestId := none }, ?_, unstamped, rfl⟩
  rw [applied]
  refine reversedEarning_insertEarning (relinked.trans ?_)
  simp [linkedTo, linked]

/-- The next call reverses the earning again. -/
theorem not_reversesOnce_of_cancels (cancels : l.CancelsPayout paymentId minPayout) :
    ¬l.ReversesOnce paymentId minPayout := by
  intro idempotent
  have same := (idempotent none 0 none minPayout 0).earnings
  obtain ⟨e, read, unstamped, unlinked⟩ := unstamped_of_cancels cancels none 0
  generalize (l.reverseCommission paymentId none minPayout 0).2 = once at same read
  have again : (once.reverseCommission paymentId none minPayout 0).2 =
      once.applyReversal e .fromUnclaimed paymentId none 0 := by
    simp [reverseCommission, read, unstamped, unlinked, reversalAction]
  have stamped := reversedEarning_of_rewrites
    (rewrites_stamp once e.id (reversalReason none) 0) paymentId
  rw [read] at stamped
  have marked : (once.applyReversal e .fromUnclaimed paymentId none 0).reversedEarning paymentId =
      _ := reversedEarning_insertEarning stamped
  have equal : (once.applyReversal e .fromUnclaimed paymentId none 0).reversedEarning paymentId =
      once.reversedEarning paymentId := by
    rw [← again]
    unfold reversedEarning
    rw [same]
  have clash := marked.symm.trans (equal.trans read)
  have marks : (stampRow e.id (reversalReason none) 0 e).reversedAt = none :=
    (congrArg ReferralEarning.reversedAt (Option.some.inj clash)).trans unstamped
  simp [stampRow] at marks

/-! ## Siblings over a history -/

/-- Who has a sibling is stamped, and has one. -/
structure SiblingSound (l : Ledger) : Prop where
  below : ∀ c ∈ l.cores, c.id < l.earningSeq
  stamped : ∀ c ∈ l.cores, ∀ id, c.reversalOfId = some id → id ∈ l.stamps
  once : ∀ earningId, l.siblingsOf earningId ≤ 1

theorem siblingsOf_eq (l : Ledger) (earningId : Nat) :
    l.siblingsOf earningId = l.cores.countP fun c => c.reversalOfId == some earningId := by
  unfold siblingsOf cores
  rw [List.countP_map]
  rfl

theorem siblingSound_empty : SiblingSound {} := by
  refine ⟨?_, ?_, fun _ => Nat.zero_le 1⟩
  · intro c member
    cases member
  · intro c member
    cases member

theorem SiblingSound.of_same (sound : l.SiblingSound) (same : l.SameCredits l') :
    l'.SiblingSound := by
  refine ⟨?_, ?_, fun earningId => ?_⟩
  · rw [same.cores, same.earningSeq]
    exact sound.below
  · rw [same.cores, same.stamps]
    exact sound.stamped
  · rw [siblingsOf_eq, same.cores, ← siblingsOf_eq]
    exact sound.once earningId

/-- A row that is no sibling is inserted. -/
theorem SiblingSound.insertOriginal (sound : l.SiblingSound) {row : Nat → ReferralEarning}
    (numbered : ∀ id, (row id).id = id) (unstamped : ∀ id, (row id).reversedAt = none)
    (original : ∀ id, (row id).reversalOfId = none) : (l.insertEarning row).SiblingSound := by
  have cores := cores_insertEarning numbered sound.below
  have stamps := stamps_insertEarning numbered unstamped sound.below
  have own : (row l.earningSeq).core.reversalOfId = none := original _
  refine ⟨fun c member => ?_, fun c member id reverses => ?_, fun earningId => ?_⟩
  · rw [cores] at member
    rcases List.mem_append.mp member with old | new
    · exact Nat.lt_succ_of_lt (sound.below c old)
    · rw [List.mem_singleton.mp new]
      exact Nat.lt_succ_of_le (numbered _).le
  · rw [cores] at member
    rw [stamps]
    rcases List.mem_append.mp member with old | new
    · exact sound.stamped c old id reverses
    · rw [List.mem_singleton.mp new, own] at reverses
      cases reverses
  · rw [siblingsOf_eq, cores, List.countP_append, List.countP_singleton, own, ← siblingsOf_eq]
    exact sound.once earningId

theorem Rewrites.stamps {f : ReferralEarning → ReferralEarning}
    (rewrites : Rewrites l.earnings.rows l'.earnings.rows f) {id : Nat} (stamped : id ∈ l.stamps) :
    id ∈ l'.stamps := by
  obtain ⟨e, member, rfl⟩ := List.mem_map.mp stamped
  obtain ⟨present, marked⟩ := List.mem_filter.mp member
  have core := rewrites.core e
  refine List.mem_map.mpr ⟨f e, List.mem_filter.mpr ⟨?_, rewrites.stamp e marked⟩,
    congrArg EarningCore.id core⟩
  rw [rewrites.rows]
  exact List.mem_map_of_mem present

/-- An earning without a stamp has no sibling. -/
theorem SiblingSound.siblingsOf_eq_zero (sound : l.SiblingSound) (present : e ∈ l.earnings.rows)
    (unstamped : e.reversedAt = none) : l.siblingsOf e.id = 0 := by
  refine List.countP_eq_zero.mpr fun sibling member reverses => ?_
  have stamped := sound.stamped sibling.core (List.mem_map_of_mem member)
    e.id (beq_iff_eq.mp reverses)
  obtain ⟨e', found, same⟩ := List.mem_map.mp stamped
  obtain ⟨present', marked⟩ := List.mem_filter.mp found
  rw [earning_unique present' present same, unstamped] at marked
  cases marked

/-- The sibling of an earning that has its stamp, and no sibling yet. -/
theorem SiblingSound.insertSibling (sound : l.SiblingSound) (stamped : e.id ∈ l.stamps)
    (first : l.siblingsOf e.id = 0) (reason : Option String) :
    (l.insertEarning (siblingOf e reason)).SiblingSound := by
  have cores : (l.insertEarning (siblingOf e reason)).cores = _ :=
    cores_insertEarning (fun _ => rfl) sound.below
  have stamps : (l.insertEarning (siblingOf e reason)).stamps = _ :=
    stamps_insertEarning (fun _ => rfl) (fun _ => rfl) sound.below
  refine ⟨fun c member => ?_, fun c member id reverses => ?_, fun earningId => ?_⟩
  · rw [cores] at member
    rcases List.mem_append.mp member with old | new
    · exact Nat.lt_succ_of_lt (sound.below c old)
    · rw [List.mem_singleton.mp new]
      exact Nat.lt_succ_self _
  · rw [cores] at member
    rw [stamps]
    rcases List.mem_append.mp member with old | new
    · exact sound.stamped c old id reverses
    · rw [List.mem_singleton.mp new] at reverses
      cases reverses
      exact stamped
  · rw [siblingsOf_eq, cores, List.countP_append, List.countP_singleton, ← siblingsOf_eq]
    split
    case isTrue own =>
      have same : e.id = earningId := by simpa [siblingOf, ReferralEarning.core] using own
      rw [← same, first]
    case isFalse => exact sound.once earningId

/-- A call that cancels no payout. -/
theorem SiblingSound.reverseCommission (sound : l.SiblingSound)
    (spared : ¬l.CancelsPayout paymentId minPayout) (reason : Option String) (now : Time) :
    (l.reverseCommission paymentId reason minPayout now).2.SiblingSound := by
  unfold Ledger.reverseCommission
  split
  · exact sound
  case h_2 e found =>
    split
    · exact sound
    case isFalse fresh =>
      have unstamped : e.reversedAt = none := by simpa using fresh
      have present := List.mem_of_find?_eq_some found
      generalize taken : reversalAction e (e.payoutRequestId.bind l.payouts.get?) minPayout = action
      obtain ⟨f, rewrites, marked⟩ := rewrites_settleReversal l e action paymentId reason now
        fun payoutId newAmount floor cancels =>
          spared (cancelsPayout_of_action found unstamped (taken.trans cancels))
      have cores := cores_settleReversal (l := l) e action paymentId reason now
      have frame := settleReversal_frame (l := l) e action paymentId reason now
      have settled : (l.settleReversal e action paymentId reason now).SiblingSound := by
        refine ⟨?_, ?_, fun earningId => ?_⟩
        · rw [cores, frame.1]
          exact sound.below
        · rw [cores]
          exact fun c member id reverses => rewrites.stamps (sound.stamped c member id reverses)
        · rw [siblingsOf_eq, cores, ← siblingsOf_eq]
          exact sound.once earningId
      have stamped : e.id ∈ (l.settleReversal e action paymentId reason now).stamps := by
        refine List.mem_map.mpr ⟨f e, List.mem_filter.mpr ⟨?_, marked⟩,
          congrArg EarningCore.id (rewrites.core e)⟩
        rw [rewrites.rows]
        exact List.mem_map_of_mem present
      have first : (l.settleReversal e action paymentId reason now).siblingsOf e.id = 0 := by
        rw [siblingsOf_eq, cores, ← siblingsOf_eq]
        exact sound.siblingsOf_eq_zero present unstamped
      exact settled.insertSibling stamped first reason

theorem SiblingSound.creditCommission (sound : l.SiblingSound) (referee : User) (paymentId : Nat)
    (amountUsd : Option ℚ) : (l.creditCommission referee paymentId amountUsd).2.SiblingSound := by
  unfold Ledger.creditCommission
  split
  case h_1 referrerId amount _ _ =>
    split
    · exact sound
    split
    · exact sound
    split
    · exact sound
    split
    · exact sound
    dsimp only
    split
    · exact sound
    · dsimp only
      exact sound.insertOriginal (fun _ => rfl) (fun _ => rfl) fun _ => rfl
  case h_2 => exact sound

theorem SiblingSound.creditSplitDiscount (sound : l.SiblingSound) (user : User)
    (payment : Payment) : (l.creditSplitDiscount user payment).SiblingSound := by
  unfold Ledger.creditSplitDiscount
  split
  · exact sound
  case h_2 usage earning rows =>
    split
    · have credits := creditsPayment_of_splitRows rows
      have used : (l.insertUsage usage).SiblingSound := sound.of_same ⟨rfl, rfl, rfl⟩
      exact used.insertOriginal credits.earningId credits.unstamped credits.original
    · exact sound

theorem preserves_siblingSound : Preserves Ledger.step SparesPayouts SiblingSound := by
  intro l op l' sound spared stepped
  cases op with
  | saveUser u =>
      cases stepped
      exact sound.of_same ⟨rfl, rfl, rfl⟩
  | saveCode code =>
      cases stepped
      exact sound.of_same ⟨rfl, rfl, rfl⟩
  | creditCommission refereeId paymentId amountUsd =>
      obtain ⟨referee, -, rfl⟩ := Option.map_eq_some_iff.mp stepped
      exact sound.creditCommission referee paymentId amountUsd
  | creditSplitDiscount refereeId payment =>
      obtain ⟨user, -, rfl⟩ := Option.map_eq_some_iff.mp stepped
      exact sound.creditSplitDiscount user payment
  | requestPayout userId address minPayout => exact sound.of_same (sameCredits_step rfl stepped).1
  | adminCompletePayout payoutId note now => exact sound.of_same (sameCredits_step rfl stepped).1
  | adminCancelPayout payoutId note now => exact sound.of_same (sameCredits_step rfl stepped).1
  | reverseCommission paymentId reason minPayout now =>
      cases stepped
      exact sound.reverseCommission spared reason now
  | reverseUsage paymentId reason now =>
      cases stepped
      exact sound.of_same ⟨rfl, rfl, rfl⟩

/-- A reversal is idempotent where it does not cancel the payout of its earning, and as long as
none does, an earning has one sibling at most. -/
theorem reversesOnce_iff_spared (l : Ledger) (paymentId : Nat) (minPayout : ℚ) :
    (l.ReversesOnce paymentId minPayout ↔ ¬l.CancelsPayout paymentId minPayout) ∧
      OneSibling SparesPayouts := by
  refine ⟨⟨fun idempotent cancels => ?_, reversesOnce_of_spared⟩, fun l' run => ?_⟩
  · exact not_reversesOnce_of_cancels cancels idempotent
  · exact (run.invariant preserves_siblingSound siblingSound_empty).once

/-- A payout that one commission of 200 makes up. -/
def claimedCommission : List LedgerOp :=
  [.saveUser { id := 1 }, .saveUser { id := 2, referredById := some 1 },
    .creditCommission 2 1 (some 1000),
    .requestPayout 1 "TAAAAAAAAAAAAAAAAAAAAAAAAAAAAAAAAA" 100]

/-- The first call cancels the payout, and the second adds a second sibling. -/
theorem reversesOnce_broken :
    (¬∀ l, Run Ledger.step (fun _ _ => True) {} l → ∀ paymentId minPayout,
      l.ReversesOnce paymentId minPayout) ∧ ¬OneSibling fun _ _ => True := by
  have siblings : (exec Ledger.step {} claimedCommission).map (fun l =>
      let once := (l.reverseCommission 1 none 100 0).2
      (once.siblingsOf 0, (once.reverseCommission 1 none 100 0).2.siblingsOf 0)) =
        some (1, 2) := by decide +kernel
  obtain ⟨l, reached, counted⟩ := Option.map_eq_some_iff.mp siblings
  obtain ⟨one, two⟩ := Prod.mk.inj counted
  have run := Run.of_exec reached
  refine ⟨fun idempotent => ?_, fun single => ?_⟩
  · have same := (idempotent l run 1 100 none 0 none 100 0).earnings
    unfold siblingsOf at one two
    rw [same, one] at two
    cases two
  · have again : Run Ledger.step (fun _ _ => True) {}
        ((l.reverseCommission 1 none 100 0).2.reverseCommission 1 none 100 0).2 :=
      (run.tail (a := .reverseCommission 1 none 100 0) trivial rfl).tail
        (a := .reverseCommission 1 none 100 0) trivial rfl
    have bound := single _ again 0
    rw [two] at bound
    exact absurd bound (by decide)

end Ledger

end Avalant
