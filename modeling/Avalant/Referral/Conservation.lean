import Avalant.Lib.Run
import Avalant.Referral.Invariant

/-!
Conservation over every history of the ledger.

The operations run one at a time, in any order and any number, from an empty
ledger; users and codes are saved in between as they please. One that raises
leaves nothing behind and is no step.
-/

namespace Avalant

open Relational Transition

inductive LedgerOp
  | saveUser (u : User)
  | saveCode (code : ReferralCode)
  | creditCommission (refereeId paymentId : Nat) (amountUsd : Option ℚ)
  | creditSplitDiscount (refereeId : Nat) (payment : Payment)
  | requestPayout (userId : Nat) (address : String) (minPayout : ℚ)
  | adminCompletePayout (payoutId : Nat) (note : Option String) (now : Time)
  | adminCancelPayout (payoutId : Nat) (note : Option String) (now : Time)
  | reverseCommission (paymentId : Nat) (reason : Option String) (minPayout : ℚ) (now : Time)
  | reverseUsage (paymentId : Nat) (reason : Option String) (now : Time)
  deriving DecidableEq, Repr

namespace Ledger

def step (l : Ledger) : LedgerOp → Option Ledger
  | .saveUser u => some { l with users := l.users.put u }
  | .saveCode code => some { l with codes := l.codes.put code }
  | .creditCommission refereeId paymentId amountUsd =>
      (l.users.get? refereeId).map fun referee => (l.creditCommission referee paymentId amountUsd).2
  | .creditSplitDiscount refereeId payment =>
      (l.users.get? refereeId).map fun user => l.creditSplitDiscount user payment
  | .requestPayout userId address minPayout =>
      (l.users.get? userId).bind fun user => (l.requestPayout user.id address minPayout).toOption
  | .adminCompletePayout payoutId note now => (l.adminCompletePayout payoutId note now).toOption
  | .adminCancelPayout payoutId note now => (l.adminCancelPayout payoutId note now).toOption
  | .reverseCommission paymentId reason minPayout now =>
      some (l.reverseCommission paymentId reason minPayout now).2
  | .reverseUsage paymentId reason now => some (l.reverseUsage paymentId reason now)

/-- The earnings a payout pays, without the stamp a later reversal puts on them. -/
def paidRows (l : Ledger) (payoutId : Nat) : List ReferralEarning :=
  (l.earningsForPayout payoutId).map fun e => { e with reversedAt := none, reversalReason := none }

/-- The money adds up: the balance, the links and the amounts of the live requests. -/
structure Balanced (l : Ledger) : Prop where
  balance : ∀ userId, l.availableBalance userId =
    l.totalEarned userId - l.totalPaid userId - l.totalPending userId
  linkedOnce : ∀ e ∈ l.earnings.rows, ∀ p ∈ l.payouts.rows, ∀ p' ∈ l.payouts.rows,
    linkedTo p.id e = true → linkedTo p'.id e = true → p = p'
  amounts : ∀ p ∈ l.payouts.rows, p.status = .pending ∨ p.status = .completed →
    p.amountUsd = l.linkedAmount p.id

/-- A payout and the earnings it pays are as they were. -/
def Paid (p : ReferralPayoutRequest) (rows : List ReferralEarning) (l : Ledger) : Prop :=
  l.payouts.get? p.id = some p ∧ l.paidRows p.id = rows

end Ledger

/-- Every reachable ledger is balanced, and no later operation touches a completed payout. -/
def LedgerConserved : Prop :=
  ∀ l, Run Ledger.step (fun _ _ => True) {} l →
    l.Balanced ∧ ∀ l', Run Ledger.step (fun _ _ => True) l l' →
      ∀ p ∈ l.payouts.rows, p.status = .completed → l'.Paid p (l.paidRows p.id)

namespace Ledger

variable {l l' : Ledger}

/-! ## What an operation writes -/

theorem ok_of_toOption {ε α : Type*} {x : Except ε α} {a : α} (done : x.toOption = some a) :
    x = .ok a := by
  cases x with
  | error e => cases done
  | ok b =>
      cases done
      rfl

/-- The earning a credit adds to the ledger is numbered and unclaimed. -/
def Inserts (l l' : Ledger) : Prop :=
  l' = l ∨ ∃ row : Nat → ReferralEarning, (∀ id, (row id).id = id) ∧
    (∀ id, (row id).payoutRequestId = none) ∧
    l'.earnings = (l.insertEarning row).earnings ∧ l'.earningSeq = l.earningSeq + 1 ∧
    l'.payouts = l.payouts ∧ l'.payoutSeq = l.payoutSeq

theorem creditCommission_inserts (l : Ledger) (referee : User) (paymentId : Nat)
    (amountUsd : Option ℚ) : l.Inserts (l.creditCommission referee paymentId amountUsd).2 := by
  unfold creditCommission
  split
  case h_1 referrerId amount _ _ =>
    split
    · exact Or.inl rfl
    split
    · exact Or.inl rfl
    split
    · exact Or.inl rfl
    split
    · exact Or.inl rfl
    dsimp only
    split
    · exact Or.inl rfl
    · exact Or.inr ⟨_, fun _ => rfl, fun _ => rfl, rfl, rfl, rfl, rfl⟩
  case h_2 => exact Or.inl rfl

theorem splitRows_row {user : User} {payment : Payment} {usage : Nat → ReferralCodeUsage}
    {row : Nat → ReferralEarning} (rows : l.splitRows user payment = some (usage, row)) :
    (∀ id, (row id).id = id) ∧ ∀ id, (row id).payoutRequestId = none := by
  unfold splitRows at rows
  split at rows
  · cases rows
  dsimp only at rows
  split at rows
  · cases rows
  · cases rows
    exact ⟨fun _ => rfl, fun _ => rfl⟩

theorem creditSplitDiscount_inserts (l : Ledger) (user : User) (payment : Payment) :
    l.Inserts (l.creditSplitDiscount user payment) := by
  unfold creditSplitDiscount
  split
  · exact Or.inl rfl
  case h_2 usage row rows =>
    split
    · obtain ⟨numbered, unlinked⟩ := splitRows_row rows
      exact Or.inr ⟨row, numbered, unlinked, rfl, rfl, rfl, rfl⟩
    · exact Or.inl rfl

theorem requestPayout_eq {userId : Nat} {address : String} {minPayout : ℚ}
    (done : l.requestPayout userId address minPayout = .ok l') :
    l.hasPendingPayout userId = false ∧
      l' = (({ (l.setPayoutAddress userId (Python.strip address)).insertPayout
          (newRequest l.payoutSeq userId (l.availableBalance userId) address) with
        payoutSeq := l.payoutSeq + 1 } : Ledger).relink (unclaimedBy userId)
          (some l.payoutSeq)) := by
  unfold requestPayout at done
  cases valid : verifyTrc20Address address with
  | false =>
      simp only [valid] at done
      cases done
  | true =>
      cases waiting : l.hasPendingPayout userId with
      | true =>
          simp only [valid, waiting] at done
          cases done
      | false =>
          simp only [valid, waiting] at done
          cases checked : checkBalance (l.availableBalance userId) minPayout with
          | error e =>
              rw [checked] at done
              cases done
          | ok _ =>
              rw [checked] at done
              cases done
              exact ⟨rfl, rfl⟩

theorem pendingPayout_eq {payoutId : Nat} {p : ReferralPayoutRequest}
    (found : l.pendingPayout payoutId = .ok p) :
    p ∈ l.payouts.rows ∧ p.status = .pending := by
  unfold pendingPayout at found
  split at found
  · cases found
  case h_2 p' stored =>
    split at found
    case isTrue pending =>
      cases found
      exact ⟨Table.mem_of_get? stored, pending⟩
    case isFalse => cases found

theorem adminCompletePayout_eq {payoutId : Nat} {note : Option String} {now : Time}
    (done : l.adminCompletePayout payoutId note now = .ok l') :
    ∃ p ∈ l.payouts.rows, p.status = .pending ∧ l' = l.resolve p.id .completed note now := by
  unfold adminCompletePayout at done
  cases found : l.pendingPayout payoutId with
  | error e =>
      rw [found] at done
      cases done
  | ok p =>
      rw [found] at done
      cases done
      obtain ⟨member, pending⟩ := pendingPayout_eq found
      exact ⟨p, member, pending, rfl⟩

theorem adminCancelPayout_eq {payoutId : Nat} {note : Option String} {now : Time}
    (done : l.adminCancelPayout payoutId note now = .ok l') :
    ∃ p ∈ l.payouts.rows, p.status = .pending ∧
      l' = (l.resolve p.id .cancelled note now).relink (linkedTo p.id) none := by
  unfold adminCancelPayout at done
  cases found : l.pendingPayout payoutId with
  | error e =>
      rw [found] at done
      cases done
  | ok p =>
      rw [found] at done
      cases done
      obtain ⟨member, pending⟩ := pendingPayout_eq found
      exact ⟨p, member, pending, rfl⟩

/-- The branches of a reversal in a sound ledger: the link of an earning leads to a live
request. -/
theorem Sound.settleReversal_cases (sound : l.Sound) {e : ReferralEarning}
    (present : e ∈ l.earnings.rows) (paymentId : Nat) (reason : Option String) (minPayout : ℚ)
    (now : Time) :
    let stamped := l.stamp e.id (reversalReason reason) now
    let settled := l.settleReversal e
      (reversalAction e (e.payoutRequestId.bind l.payouts.get?) minPayout) paymentId reason now
    settled = stamped ∨
      ∃ p ∈ l.payouts.rows, p.status = .pending ∧ e.payoutRequestId = some p.id ∧
        (settled = (stamped.setAmount p.id (p.amountUsd - e.amountUsd)).relink
            (fun e' => e'.id == e.id) none ∨
          ∃ note, settled = (l.resolve p.id .cancelled note now).relink (linkedTo p.id) none) := by
  dsimp only
  cases linked : e.payoutRequestId with
  | none =>
      refine Or.inl ?_
      simp only [reversalAction, linked]
      rfl
  | some payoutId =>
      obtain ⟨p, member, rfl, -, live⟩ := sound.linked e present payoutId linked
      have found : l.payouts.get? p.id = some p := Table.mem_rows_iff.mp member
      have read : (some p.id).bind l.payouts.get? = some p := found
      rw [read]
      cases status : p.status with
      | cancelled => exact absurd status live
      | completed =>
          refine Or.inl ?_
          simp only [reversalAction, linked, status]
          rfl
      | pending =>
          refine Or.inr ⟨p, member, status, rfl, ?_⟩
          simp only [reversalAction, linked, status]
          split
          · exact Or.inl rfl
          · exact Or.inr ⟨_, rfl⟩

/-! ## Every state is sound -/

theorem Sound.of_tables (sound : l.Sound) (earnings : l'.earnings = l.earnings)
    (earningSeq : l'.earningSeq = l.earningSeq) (payouts : l'.payouts = l.payouts)
    (payoutSeq : l'.payoutSeq = l.payoutSeq) : l'.Sound := by
  have sums : ∀ payoutId, l'.linkedAmount payoutId = l.linkedAmount payoutId := fun _ => by
    unfold linkedAmount
    rw [earnings]
  refine ⟨?_, ?_, ?_, ?_, ?_⟩
  · rw [earnings, earningSeq]
    exact sound.earningSeq
  · rw [payouts, payoutSeq]
    exact sound.payoutSeq
  · rw [earnings, payouts]
    exact sound.linked
  · intro p member live
    rw [payouts] at member
    rw [sums]
    exact sound.amount p member live
  · rw [payouts]
    exact sound.onePending

theorem Sound.inserts (sound : l.Sound) (inserts : l.Inserts l') : l'.Sound := by
  rcases inserts with rfl | ⟨row, numbered, unlinked, earnings, earningSeq, payouts, payoutSeq⟩
  · exact sound
  · exact (sound.insertEarning numbered unlinked).of_tables earnings earningSeq payouts payoutSeq

theorem Sound.settleReversal (sound : l.Sound) {e : ReferralEarning}
    (present : e ∈ l.earnings.rows) (paymentId : Nat) (reason : Option String) (minPayout : ℚ)
    (now : Time) : (l.settleReversal e
      (reversalAction e (e.payoutRequestId.bind l.payouts.get?) minPayout)
        paymentId reason now).Sound := by
  have stamped := sound.stamp e.id (reversalReason reason) now
  rcases sound.settleReversal_cases present paymentId reason minPayout now with
    settled | ⟨p, member, pending, linked, settled | ⟨note, settled⟩⟩
  · rw [settled]
    exact stamped
  · rw [settled]
    have adjusted := stamped.adjust (mem_stamp present (reversalReason reason) now) member linked
    exact adjusted
  · rw [settled]
    exact sound.release p.id note now

theorem applyReversal_inserts (l : Ledger) (e : ReferralEarning) (action : ReversalAction)
    (paymentId : Nat) (reason : Option String) (now : Time) :
    (l.settleReversal e action paymentId reason now).Inserts
      (l.applyReversal e action paymentId reason now) :=
  Or.inr ⟨siblingOf e reason, fun _ => rfl, fun _ => rfl, rfl, rfl, rfl, rfl⟩

theorem Sound.step {op : LedgerOp} (sound : l.Sound) (stepped : l.step op = some l') :
    l'.Sound := by
  cases op with
  | saveUser u =>
      cases stepped
      exact sound.of_tables rfl rfl rfl rfl
  | saveCode code =>
      cases stepped
      exact sound.of_tables rfl rfl rfl rfl
  | creditCommission refereeId paymentId amountUsd =>
      obtain ⟨referee, -, rfl⟩ := Option.map_eq_some_iff.mp stepped
      exact sound.inserts (l.creditCommission_inserts referee paymentId amountUsd)
  | creditSplitDiscount refereeId payment =>
      obtain ⟨user, -, rfl⟩ := Option.map_eq_some_iff.mp stepped
      exact sound.inserts (l.creditSplitDiscount_inserts user payment)
  | requestPayout userId address minPayout =>
      obtain ⟨user, -, done⟩ := Option.bind_eq_some_iff.mp stepped
      obtain ⟨first, rfl⟩ := requestPayout_eq (ok_of_toOption done)
      have addressed : (l.setPayoutAddress user.id (Python.strip address)).Sound :=
        sound.of_tables rfl rfl rfl rfl
      exact addressed.claim sound.payout_fresh (Nat.lt_succ_self _) (Nat.le_succ _) rfl first
        (fun _ _ => id) rfl
  | adminCompletePayout payoutId note now =>
      obtain ⟨p, member, pending, rfl⟩ :=
        adminCompletePayout_eq (ok_of_toOption stepped)
      exact sound.complete member pending note now
  | adminCancelPayout payoutId note now =>
      obtain ⟨p, -, -, rfl⟩ := adminCancelPayout_eq (ok_of_toOption stepped)
      exact sound.release p.id note now
  | reverseCommission paymentId reason minPayout now =>
      cases stepped
      unfold reverseCommission
      split
      · exact sound
      case h_2 e found =>
        split
        · exact sound
        · have settled := sound.settleReversal (List.mem_of_find?_eq_some found) paymentId reason
            minPayout now
          exact settled.inserts (l.applyReversal_inserts e _ paymentId reason now)
  | reverseUsage paymentId reason now =>
      cases stepped
      exact sound.of_tables rfl rfl rfl rfl

/-! ## A completed payout stays -/

theorem paidRows_insertEarning (fresh : l.earnings.get? l.earningSeq = none)
    {row : Nat → ReferralEarning} (numbered : ∀ id, (row id).id = id)
    (unlinked : ∀ id, (row id).payoutRequestId = none) (payoutId : Nat) :
    (l.insertEarning row).paidRows payoutId = l.paidRows payoutId := by
  have free : key (row l.earningSeq) ∉ l.earnings.rows.map key := by
    rw [key_referralEarning, numbered]
    exact Table.get?_eq_none_iff.mp fresh
  unfold paidRows earningsForPayout insertEarning Table.where_ Table.insert
  rw [dif_neg free]
  simp [linkedTo, unlinked]

theorem paidRows_stamp (earningId : Nat) (reason : String) (now : Time) (payoutId : Nat) :
    (l.stamp earningId reason now).paidRows payoutId = l.paidRows payoutId := by
  unfold paidRows earningsForPayout Ledger.stamp Table.where_ Table.map
  rw [List.filter_map, List.map_map]
  have sameLink : (linkedTo payoutId ∘ fun e : ReferralEarning =>
      if e.id = earningId then { e with reversedAt := some now, reversalReason := some reason }
      else e) = linkedTo payoutId := by
    funext e
    simp only [Function.comp_apply, linkedTo]
    split <;> rfl
  rw [sameLink]
  refine List.map_congr_left fun e _ => ?_
  simp only [Function.comp_apply]
  split <;> rfl

/-- An update of links that passes the payout by. -/
theorem paidRows_relink {selected : ReferralEarning → Bool} {link : Option Nat} {payoutId : Nat}
    (elsewhere : link ≠ some payoutId)
    (passed : ∀ e ∈ l.earnings.rows, linkedTo payoutId e = true → selected e = false) :
    (l.relink selected link).paidRows payoutId = l.paidRows payoutId := by
  unfold paidRows earningsForPayout relink Table.where_ Table.map
  rw [List.filter_map]
  have sameLink : ∀ e ∈ l.earnings.rows, (linkedTo payoutId ∘ fun e : ReferralEarning =>
      if selected e then { e with payoutRequestId := link } else e) e = linkedTo payoutId e := by
    intro e member
    simp only [Function.comp_apply]
    cases chosen : selected e with
    | false => rfl
    | true =>
        have unlinked : linkedTo payoutId e = false := by
          by_contra claimed
          rw [passed e member (by simpa using claimed)] at chosen
          cases chosen
        rw [unlinked]
        simpa [linkedTo] using elsewhere
  rw [List.filter_congr sameLink, List.map_map]
  refine List.map_congr_left fun e member => ?_
  obtain ⟨present, linked⟩ := List.mem_filter.mp member
  simp [Function.comp_apply, passed e present linked]

/-- Marking another request keeps this one. -/
theorem payout_resolve {p : ReferralPayoutRequest} (stored : l.payouts.get? p.id = some p)
    {payoutId : Nat} (other : p.id ≠ payoutId) (status : PayoutStatus) (note : Option String)
    (now : Time) : (l.resolve payoutId status note now).payouts.get? p.id = some p := by
  unfold resolve
  rw [Table.get?_map, stored]
  simp [other]

theorem Sound.paid_inserts {p : ReferralPayoutRequest} {rows : List ReferralEarning}
    (sound : l.Sound) (paid : l.Paid p rows) (inserts : l.Inserts l') : l'.Paid p rows := by
  obtain ⟨stored, paidRows⟩ := paid
  rcases inserts with rfl | ⟨row, numbered, unlinked, earnings, -, payouts, -⟩
  · exact ⟨stored, paidRows⟩
  · refine ⟨payouts ▸ stored, ?_⟩
    have kept := paidRows_insertEarning sound.earning_fresh numbered unlinked p.id
    unfold Ledger.paidRows earningsForPayout at kept ⊢
    rw [earnings, kept]
    exact paidRows

/-- Cancelling another request passes this one by. -/
theorem Paid.release {p p' : ReferralPayoutRequest} {rows : List ReferralEarning}
    (paid : l.Paid p rows) (different : p.id ≠ p'.id) (note : Option String) (now : Time) :
    ((l.resolve p'.id .cancelled note now).relink (linkedTo p'.id) none).Paid p rows := by
  refine ⟨payout_resolve paid.1 different _ _ _, (paidRows_relink (by simp) ?_).trans paid.2⟩
  intro e _ linked
  have link : e.payoutRequestId = some p.id := by simpa [linkedTo] using linked
  simp [linkedTo, link, different]

/-- Taking an earning out of another request passes this one by. -/
theorem Paid.adjust {p p' : ReferralPayoutRequest} {rows : List ReferralEarning}
    {e : ReferralEarning} (paid : l.Paid p rows) (present : e ∈ l.earnings.rows)
    (linked : e.payoutRequestId = some p'.id) (different : p.id ≠ p'.id) (amount : ℚ) :
    ((l.setAmount p'.id amount).relink (fun e' => e'.id == e.id) none).Paid p rows := by
  refine ⟨?_, (paidRows_relink (by simp) ?_).trans paid.2⟩
  · change (l.setAmount p'.id amount).payouts.get? p.id = some p
    unfold setAmount
    rw [Table.get?_map, paid.1]
    simp [different]
  · intro e' present' linked'
    have link' : e'.payoutRequestId = some p.id := by simpa [linkedTo] using linked'
    have elsewhere : e'.id ≠ e.id := by
      intro same
      rw [earning_unique present' present same, linked] at link'
      exact different (Option.some.inj link').symm
    simpa using elsewhere

theorem Sound.paid_step {op : LedgerOp} {p : ReferralPayoutRequest}
    {rows : List ReferralEarning} (sound : l.Sound) (completed : p.status = .completed)
    (paid : l.Paid p rows) (stepped : l.step op = some l') : l'.Paid p rows := by
  obtain ⟨stored, paidRows⟩ := paid
  -- pending requests are others
  have other : ∀ p' ∈ l.payouts.rows, p'.status = .pending → p.id ≠ p'.id := by
    intro p' member pending same
    rw [← payout_unique (Table.mem_of_get? stored) member same, completed] at pending
    cases pending
  cases op with
  | saveUser u =>
      cases stepped
      exact ⟨stored, paidRows⟩
  | saveCode code =>
      cases stepped
      exact ⟨stored, paidRows⟩
  | creditCommission refereeId paymentId amountUsd =>
      obtain ⟨referee, -, rfl⟩ := Option.map_eq_some_iff.mp stepped
      exact sound.paid_inserts ⟨stored, paidRows⟩ (l.creditCommission_inserts referee paymentId amountUsd)
  | creditSplitDiscount refereeId payment =>
      obtain ⟨user, -, rfl⟩ := Option.map_eq_some_iff.mp stepped
      exact sound.paid_inserts ⟨stored, paidRows⟩ (l.creditSplitDiscount_inserts user payment)
  | requestPayout userId address minPayout =>
      obtain ⟨user, -, done⟩ := Option.bind_eq_some_iff.mp stepped
      obtain ⟨-, rfl⟩ := requestPayout_eq (ok_of_toOption done)
      have below := sound.payoutSeq p (Table.mem_of_get? stored)
      refine ⟨?_, (paidRows_relink ?_ ?_).trans paidRows⟩
      · change (l.payouts.insert _).get? p.id = some p
        rw [Table.get?_insert, stored]
        rfl
      · intro same
        have reached := Option.some.inj same
        omega
      · intro e _ linked
        have link : e.payoutRequestId = some p.id := by simpa [linkedTo] using linked
        simp [unclaimedBy, link]
  | adminCompletePayout payoutId note now =>
      obtain ⟨p', member, pending, rfl⟩ := adminCompletePayout_eq (ok_of_toOption stepped)
      exact ⟨payout_resolve stored (other p' member pending) _ _ _, paidRows⟩
  | adminCancelPayout payoutId note now =>
      obtain ⟨p', member, pending, rfl⟩ := adminCancelPayout_eq (ok_of_toOption stepped)
      exact Paid.release ⟨stored, paidRows⟩ (other p' member pending) note now
  | reverseCommission paymentId reason minPayout now =>
      cases stepped
      unfold reverseCommission
      split
      · exact ⟨stored, paidRows⟩
      case h_2 e found =>
        split
        · exact ⟨stored, paidRows⟩
        have present := List.mem_of_find?_eq_some found
        have settledSound := sound.settleReversal present paymentId reason minPayout now
        refine settledSound.paid_inserts ?_ (l.applyReversal_inserts e _ paymentId reason now)
        have stamped : (l.stamp e.id (reversalReason reason) now).Paid p rows :=
          ⟨stored, (paidRows_stamp _ _ _ _).trans paidRows⟩
        rcases sound.settleReversal_cases present paymentId reason minPayout now with
          settled | ⟨p', member, pending, linked, settled | ⟨note, settled⟩⟩
        · rw [settled]
          exact stamped
        · rw [settled]
          have adjusted := stamped.adjust (mem_stamp present (reversalReason reason) now) linked
            (other p' member pending) (p'.amountUsd - e.amountUsd)
          exact adjusted
        · rw [settled]
          exact Paid.release ⟨stored, paidRows⟩ (other p' member pending) note now
  | reverseUsage paymentId reason now =>
      cases stepped
      exact ⟨stored, paidRows⟩

end Ledger

/-- The ledger conserves money over every history. -/
theorem ledgerConserved : LedgerConserved := by
  intro l run
  have preserved : Preserves Ledger.step (fun _ _ => True) Ledger.Sound :=
    fun _ _ _ sound _ stepped => sound.step stepped
  have sound := run.invariant preserved Ledger.sound_empty
  refine ⟨⟨fun userId => ?_, fun e _ p member p' member' linked linked' => ?_,
    fun p member live => ?_⟩, fun l' later p member completed => ?_⟩
  · have total := sound.totalEarned_eq userId
    linarith
  · have link : e.payoutRequestId = some p.id := by simpa [linkedTo] using linked
    have link' : e.payoutRequestId = some p'.id := by simpa [linkedTo] using linked'
    exact Ledger.payout_unique member member' (Option.some.inj (link.symm.trans link'))
  · refine (sound.amount p member ?_).symm
    intro cancelled
    rw [cancelled] at live
    rcases live with pending | completed
    · cases pending
    · cases completed
  · exact later.stable preserved
      (fun _ _ _ sound paid _ stepped => sound.paid_step completed paid stepped) sound
      ⟨Table.mem_rows_iff.mp member, rfl⟩

namespace Ledger

/-- A commission of 200 is credited, requested, and paid out. -/
def paidOut : List LedgerOp :=
  [.saveUser { id := 1 }, .saveUser { id := 2, referredById := some 1 },
    .creditCommission 2 1 (some 1000),
    .requestPayout 1 "TAAAAAAAAAAAAAAAAAAAAAAAAAAAAAAAAA" 100, .adminCompletePayout 0 none 0]

/-- A commission paid out and then reversed is a debt. -/
example : (exec step {} (paidOut ++ [.reverseCommission 1 (some "refund") 100 1])).map
    (fun l => l.availableBalance 1) = some (-200) := by
  decide +kernel

end Ledger

/-- The stamp is a change of the row: a refund after the payout puts it on the row that was paid. -/
theorem paidRow_stamped : ¬ ∀ l, Run Ledger.step (fun _ _ => True) {} l →
    l.Balanced ∧ ∀ l', Run Ledger.step (fun _ _ => True) l l' →
      ∀ p ∈ l.payouts.rows, p.status = .completed → l'.payouts.get? p.id = some p ∧
        l'.earningsForPayout p.id = l.earningsForPayout p.id := by
  intro untouched
  obtain ⟨l, paid⟩ : ∃ l, exec Ledger.step {} Ledger.paidOut = some l :=
    Option.isSome_iff_exists.mp (by decide +kernel)
  have l_eq : l = (exec Ledger.step {} Ledger.paidOut).get (by decide +kernel) := by
    simp [paid]
  obtain ⟨l', reversed⟩ :
      ∃ l', exec Ledger.step l [.reverseCommission 1 (some "refund") 100 1] = some l' :=
    ⟨_, rfl⟩
  have completed : ∃ p ∈ l.payouts.rows, p.status = .completed ∧ p.id = 0 := by
    rw [l_eq]
    decide +kernel
  obtain ⟨p, member, status, number⟩ := completed
  have kept := ((untouched l (Run.of_exec paid)).2 l' (Run.of_exec reversed) p member status).2
  have l'_eq : l' = (l.reverseCommission 1 (some "refund") 100 1).2 :=
    (Option.some.inj reversed).symm
  rw [number, l'_eq, l_eq] at kept
  revert kept
  decide +kernel

end Avalant
