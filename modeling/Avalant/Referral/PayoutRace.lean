import Avalant.Referral.PayoutTxns

/-!
A payout claims what it pays, unless something lands in between.

The balance is one statement and the claim another. A credit or a reversal that
commits between the two changes what is claimed and not what is paid. A
reversal has a window of its own, from its reads to its commit.
-/

namespace Avalant

open Relational Transition

/-- Each request that is not cancelled is worth the earnings it claims, a cancelled one claims
none, and no earning is claimed twice. -/
structure Ledger.ClaimsWhatItPays (l : Ledger) : Prop where
  amounts : ∀ p ∈ l.payouts.rows, p.status ≠ .cancelled → p.amountUsd = l.linkedAmount p.id
  cancelled : ∀ p ∈ l.payouts.rows, p.status = .cancelled → l.earningsForPayout p.id = []
  claimedOnce : ∀ e ∈ l.earnings.rows, ∀ p ∈ l.payouts.rows, ∀ p' ∈ l.payouts.rows,
    linkedTo p.id e = true → linkedTo p'.id e = true → p = p'

/-- From any reachable ledger, whatever one user's transactions do in between each other. -/
def PayoutsHonest (userId : Nat) (ok : PayoutSys → PayoutAction → Prop) : Prop :=
  ∀ l, Run Ledger.step (fun _ _ => True) {} l →
    ∀ s, Run (PayoutSys.step userId) ok { ledger := l } s → s.ledger.ClaimsWhatItPays

namespace PayoutSys

/-- No request of the user is between its balance and its claim. -/
def NoWindow (s : PayoutSys) : Prop :=
  ∀ txn ∈ s.txns.rows, txn.task.inWindow = false

instance (s : PayoutSys) : Decidable s.NoWindow :=
  inferInstanceAs (Decidable (∀ _ ∈ _, _))

/-- A request in its window cannot insert: another one is pending, or has claimed. -/
def Doomed (userId : Nat) (s : PayoutSys) : Prop :=
  s.ledger.hasPendingPayout userId = true ∨ ∃ txn ∈ s.txns.rows, txn.task.committing = true

instance (userId : Nat) (s : PayoutSys) : Decidable (s.Doomed userId) :=
  inferInstanceAs (Decidable (_ ∨ ∃ _ ∈ _, _))

/-- What a reversal has read of the link and the payout it writes is what is there, or the
payout has been cancelled in between and nothing has claimed the earning since. -/
def Fresh (l : Ledger) (earning : ReferralEarning) : ReversalAction → Prop
  | .fromDangling =>
      ∀ e ∈ l.earnings.rows, e.id = earning.id → e.payoutRequestId = none
  | .fromPendingAdjusted payoutId newAmount =>
      ((∀ e ∈ l.earnings.rows, e.id = earning.id → e.payoutRequestId = some payoutId) ∧
        ∀ p ∈ l.payouts.rows, p.id = payoutId →
          p.status = .pending ∧ p.amountUsd - earning.amountUsd = newAmount) ∨
      ((∀ e ∈ l.earnings.rows, e.id = earning.id → e.payoutRequestId = none) ∧
        ∀ p ∈ l.payouts.rows, p.id = payoutId → p.status = .cancelled)
  | _ => True

instance (l : Ledger) (earning : ReferralEarning) :
    (action : ReversalAction) → Decidable (Fresh l earning action)
  | .fromDangling => inferInstanceAs (Decidable (∀ _ ∈ _, _))
  | .fromPendingAdjusted _ _ =>
      inferInstanceAs (Decidable (((∀ _ ∈ _, _) ∧ ∀ _ ∈ _, _) ∨ (∀ _ ∈ _, _) ∧ ∀ _ ∈ _, _))
  | .fromUnclaimed | .fromCompletedLoggedOnly _ | .fromPendingCancelled _ _ _ =>
      inferInstanceAs (Decidable True)

/-- Whether the reversal cancels a request. -/
def cancels : ReversalAction → Bool
  | .fromPendingCancelled _ _ _ => true
  | _ => false

/-- A credit or a reversal commits only while no request that can still insert is between its
balance and its claim, and a reversal only on what it has read. -/
def TaskUndisturbed (userId : Nat) (s : PayoutSys) : PayoutTask → Prop
  | .commitCredit _ _ _ => s.NoWindow ∨ s.Doomed userId
  | .commitReversal _ _ earning action =>
      (s.NoWindow ∨ (s.Doomed userId ∧ cancels action = false)) ∧ Fresh s.ledger earning action
  | _ => True

instance (userId : Nat) (s : PayoutSys) :
    (task : PayoutTask) → Decidable (s.TaskUndisturbed userId task)
  | .commitCredit _ _ _ => inferInstanceAs (Decidable (_ ∨ _))
  | .commitReversal _ _ _ _ => inferInstanceAs (Decidable ((_ ∨ _ ∧ _) ∧ _))
  | .checkPending _ | .readBalance _ | .insertRequest _ _ | .claimRows _ | .commitRequest _ _
  | .readEarning _ _ | .readPayout _ _ _ => inferInstanceAs (Decidable True)

def Undisturbed (userId : Nat) (s : PayoutSys) : PayoutAction → Prop
  | .advance k _ _ => ∀ txn ∈ s.txns.rows, txn.id = k → s.TaskUndisturbed userId txn.task
  | _ => True

instance (userId : Nat) (s : PayoutSys) : (a : PayoutAction) → Decidable (s.Undisturbed userId a)
  | .advance _ _ _ => inferInstanceAs (Decidable (∀ _ ∈ _, _))
  | .request _ _ | .credit _ _ _ | .reverse _ _ _ => inferInstanceAs (Decidable True)

end PayoutSys

/-! ## Facts that credits and reversals keep -/

namespace Ledger

variable {l l' : Ledger} {userId : Nat}

/-- Facts that survive each statement of a credit and of a reversal. -/
structure Survives (P : Ledger → Prop) : Prop where
  usage : ∀ {l : Ledger} row, P l → P (l.insertUsage row)
  insert : ∀ {l : Ledger} row, l.Sound → (∀ id, (row id).id = id) → P l → P (l.insertEarning row)
  stamp : ∀ {l : Ledger} id reason now, P l → P (l.stamp id reason now)
  unlink : ∀ {l : Ledger} selected, P l → P (l.relink selected none)
  setAmount : ∀ {l : Ledger} id amount, P l → P (l.setAmount id amount)
  cancel : ∀ {l : Ledger} id note now, P l → P (l.resolve id .cancelled note now)

theorem Survives.settleReversal {P : Ledger → Prop} (survives : Survives P) (holds : P l)
    (e : ReferralEarning) (action : ReversalAction) (paymentId : Nat) (reason : Option String)
    (now : Time) : P (l.settleReversal e action paymentId reason now) := by
  have stamped := survives.stamp e.id (reversalReason reason) now holds
  cases action with
  | fromUnclaimed => exact stamped
  | fromDangling => exact survives.unlink _ stamped
  | fromCompletedLoggedOnly payoutId => exact stamped
  | fromPendingAdjusted payoutId newAmount =>
      exact survives.unlink _ (survives.setAmount payoutId newAmount stamped)
  | fromPendingCancelled payoutId newAmount floor =>
      exact survives.cancel payoutId _ now (survives.unlink _ holds)

/-- An earning is there with its amount. -/
def Knows (l : Ledger) (e : ReferralEarning) : Prop :=
  ∃ row ∈ l.earnings.rows, row.id = e.id ∧ row.amountUsd = e.amountUsd

theorem survives_knows (e : ReferralEarning) : Survives fun l => l.Knows e where
  usage _ known := known
  insert row sound numbered := by
    intro known
    rcases known with ⟨old, member, same⟩
    have fresh : _ = none := sound.earning_fresh
    refine ⟨old, (Table.mem_rows_insert ?_).mpr (Or.inl member), same⟩
    rw [key_referralEarning, numbered]
    exact fresh
  stamp id reason now := by
    intro known
    rcases known with ⟨old, member, same⟩
    refine ⟨_, List.mem_map_of_mem member, ?_⟩
    split
    · exact same
    · exact same
  unlink selected := by
    intro known
    rcases known with ⟨old, member, same⟩
    refine ⟨_, List.mem_map_of_mem member, ?_⟩
    split
    · exact same
    · exact same
  setAmount _ _ known := known
  cancel _ _ _ known := known

/-- A request that is inserted and not committed: its number is free, and its user has no
pending request. -/
structure Awaits (userId : Nat) (req : ReferralPayoutRequest) (l : Ledger) : Prop where
  status : req.status = .pending
  user : req.userId = userId
  fresh : l.payouts.get? req.id = none
  below : req.id < l.payoutSeq
  first : l.hasPendingPayout userId = false

theorem hasPendingPayout_map {u : ReferralPayoutRequest → ReferralPayoutRequest}
    (payouts : l'.payouts.rows = l.payouts.rows.map u)
    (none : l.hasPendingPayout userId = false)
    (never : ∀ p, payoutOf userId .pending (u p) = true → payoutOf userId .pending p = true) :
    l'.hasPendingPayout userId = false := by
  unfold hasPendingPayout at none ⊢
  rw [payouts]
  refine List.any_eq_false.mpr fun p member waiting => ?_
  obtain ⟨old, present, rfl⟩ := List.mem_map.mp member
  exact List.any_eq_false.mp none old present (never old waiting)

theorem survives_awaits (userId : Nat) (req : ReferralPayoutRequest) :
    Survives (Awaits userId req) where
  usage _ awaits := ⟨awaits.status, awaits.user, awaits.fresh, awaits.below, awaits.first⟩
  insert _ _ _ awaits := ⟨awaits.status, awaits.user, awaits.fresh, awaits.below, awaits.first⟩
  stamp _ _ _ awaits := ⟨awaits.status, awaits.user, awaits.fresh, awaits.below, awaits.first⟩
  unlink _ awaits := ⟨awaits.status, awaits.user, awaits.fresh, awaits.below, awaits.first⟩
  setAmount id amount awaits := by
    refine ⟨awaits.status, awaits.user, ?_, awaits.below,
      hasPendingPayout_map rfl awaits.first fun p waiting => ?_⟩
    · unfold setAmount
      rw [Table.get?_map, awaits.fresh]
      rfl
    · split at waiting
      · exact waiting
      · exact waiting
  cancel id note now awaits := by
    refine ⟨awaits.status, awaits.user, ?_, awaits.below,
      hasPendingPayout_map rfl awaits.first fun p waiting => ?_⟩
    · unfold resolve
      rw [Table.get?_map, awaits.fresh]
      rfl
    · split at waiting
      · simp [payoutOf] at waiting
      · exact waiting

/-- The earnings an `UPDATE` has claimed and not committed: they are still unclaimed, and
their amounts add up. -/
structure Holds (userId : Nat) (claimed : List Nat) (amount : ℚ) (l : Ledger) : Prop where
  known : ∀ id ∈ claimed, id < l.earningSeq
  unclaimed : ∀ e ∈ l.earnings.rows, claimed.contains e.id = true → unclaimedBy userId e = true
  sum : l.earnings.sumWhere (fun e => claimed.contains e.id) ReferralEarning.amountUsd = amount

theorem survives_holds (userId : Nat) (claimed : List Nat) (amount : ℚ) :
    Survives (Holds userId claimed amount) where
  usage _ holds := ⟨holds.known, holds.unclaimed, holds.sum⟩
  insert {l} row sound numbered holds := by
    have fresh : l.earnings.get? (key (row l.earningSeq)) = none := by
      rw [key_referralEarning, numbered]
      exact sound.earning_fresh
    -- the new row's number is past those of the claimed ones
    have notClaimed : claimed.contains (row l.earningSeq).id = false := by
      rw [numbered]
      by_contra present
      have below := holds.known l.earningSeq (by simpa using present)
      omega
    refine ⟨fun id member => Nat.lt_succ_of_lt (holds.known id member), fun e member claims => ?_, ?_⟩
    · rcases (Table.mem_rows_insert fresh).mp member with old | rfl
      · exact holds.unclaimed e old claims
      · rw [notClaimed] at claims
        cases claims
    · unfold Ledger.insertEarning
      rw [Table.sumWhere_insert fresh, holds.sum]
      simp only [Table.share, notClaimed]
      simp
  stamp id reason now holds := by
    refine ⟨holds.known, fun e member claims => ?_, ?_⟩
    · obtain ⟨old, present, rfl⟩ := List.mem_map.mp member
      split at claims
      case isTrue same => simpa [same, unclaimedBy, earnedBy] using holds.unclaimed old present claims
      case isFalse different =>
        rw [if_neg different]
        exact holds.unclaimed old present claims
    · refine (Table.sumWhere_map _ _ (fun e => by split <;> rfl) fun e _ => ?_).trans holds.sum
      split <;> rfl
  unlink selected holds := by
    refine ⟨holds.known, fun e member claims => ?_, ?_⟩
    · obtain ⟨old, present, id, referrer, link⟩ := mem_relink member
      have free := holds.unclaimed old present (id ▸ claims)
      simp only [unclaimedBy, earnedBy, Bool.and_eq_true, beq_iff_eq,
        Option.isNone_iff_eq_none] at free ⊢
      rw [referrer, link, free.2]
      exact ⟨free.1, by split <;> rfl⟩
    · refine (Table.sumWhere_map _ _ (fun e => by split <;> rfl) fun e _ => ?_).trans holds.sum
      split <;> rfl
  setAmount _ _ holds := ⟨holds.known, holds.unclaimed, holds.sum⟩
  cancel _ _ _ holds := ⟨holds.known, holds.unclaimed, holds.sum⟩

/-! ## Stale writes that change nothing -/

/-- Unlinking earnings that have no link. -/
theorem Sound.unlink_unlinked (sound : l.Sound) {selected : ReferralEarning → Bool}
    (unlinked : ∀ e ∈ l.earnings.rows, selected e = true → e.payoutRequestId = none) :
    (l.relink selected none).Sound := by
  have link : ∀ e ∈ (l.relink selected none).earnings.rows, ∃ old ∈ l.earnings.rows,
      e.id = old.id ∧ e.referrerId = old.referrerId ∧ e.payoutRequestId = old.payoutRequestId := by
    intro e member
    obtain ⟨old, present, id, referrer, link⟩ := mem_relink member
    refine ⟨old, present, id, referrer, ?_⟩
    rw [link]
    split
    case isTrue chosen => exact (unlinked old present chosen).symm
    case isFalse => rfl
  refine ⟨fun e member => ?_, sound.payoutSeq, fun e member payoutId linked => ?_,
    fun p member live => ?_, sound.onePending⟩
  · obtain ⟨old, present, id, -, -⟩ := link e member
    exact id ▸ sound.earningSeq old present
  · obtain ⟨old, present, -, referrer, same⟩ := link e member
    rw [referrer]
    exact sound.linked old present payoutId (same ▸ linked)
  · rw [linkedAmount_relink]
    have sameRows : ∀ e ∈ l.earnings.rows,
        (if selected e then none == some p.id else linkedTo p.id e) = linkedTo p.id e := by
      intro e present
      by_cases chosen : selected e = true
      · simp [chosen, linkedTo, unlinked e present chosen]
      · simp [chosen]
    exact (Table.sumWhere_congr _ sameRows _).trans (sound.amount p member live)

/-- A new amount of a cancelled request. -/
theorem Sound.setAmount_cancelled (sound : l.Sound) {payoutId : Nat} (amount : ℚ)
    (cancelled : ∀ p ∈ l.payouts.rows, p.id = payoutId → p.status = .cancelled) :
    (l.setAmount payoutId amount).Sound := by
  have former : ∀ p ∈ (l.setAmount payoutId amount).payouts.rows, ∃ old ∈ l.payouts.rows,
      p.id = old.id ∧ p.userId = old.userId ∧ p.status = old.status ∧
        (p.status ≠ .cancelled → p.amountUsd = old.amountUsd) := by
    intro p member
    obtain ⟨old, present, rfl⟩ := List.mem_map.mp member
    refine ⟨old, present, ?_⟩
    split
    case isTrue same => exact ⟨rfl, rfl, rfl, fun live => absurd (cancelled old present same) live⟩
    case isFalse => exact ⟨rfl, rfl, rfl, fun _ => rfl⟩
  refine ⟨sound.earningSeq, fun p member => ?_, fun e present other linked => ?_,
    fun p member live => ?_, fun p member p' member' waiting waiting' same => ?_⟩
  · obtain ⟨old, present, id, -⟩ := former p member
    exact id ▸ sound.payoutSeq old present
  · obtain ⟨p, member, id, user, live⟩ := sound.linked e present other linked
    refine ⟨_, List.mem_map_of_mem member, ?_⟩
    split
    · exact ⟨id, user, live⟩
    · exact ⟨id, user, live⟩
  · obtain ⟨old, present, id, -, status, same⟩ := former p member
    rw [same live, id]
    exact sound.amount old present (status ▸ live)
  · obtain ⟨old, present, id, user, status, -⟩ := former p member
    obtain ⟨old', present', id', user', status', -⟩ := former p' member'
    rw [id, id']
    exact sound.onePending old present old' present' (status ▸ waiting) (status' ▸ waiting')
      (by rw [← user, ← user', same])

/-- A reversal on what it has read leaves the ledger sound. -/
theorem Sound.settle_fresh (sound : l.Sound) {e : ReferralEarning} {action : ReversalAction}
    (known : l.Knows e) (fresh : PayoutSys.Fresh l e action) (paymentId : Nat)
    (reason : Option String) (now : Time) :
    (l.settleReversal e action paymentId reason now).Sound := by
  have stamped := sound.stamp e.id (reversalReason reason) now
  -- links and numbers after the stamp are those before it
  have former : ∀ e' ∈ (l.stamp e.id (reversalReason reason) now).earnings.rows,
      ∃ old ∈ l.earnings.rows, e'.id = old.id ∧ e'.payoutRequestId = old.payoutRequestId := by
    intro e' member
    obtain ⟨old, present, rfl⟩ := List.mem_map.mp member
    refine ⟨old, present, ?_⟩
    split <;> simp
  have unlinked : (∀ e' ∈ l.earnings.rows, e'.id = e.id → e'.payoutRequestId = none) →
      ∀ e' ∈ (l.stamp e.id (reversalReason reason) now).earnings.rows,
        (e'.id == e.id) = true → e'.payoutRequestId = none := by
    intro free e' member same
    obtain ⟨old, present, id, link⟩ := former e' member
    rw [link]
    exact free old present (id ▸ beq_iff_eq.mp same)
  cases action with
  | fromUnclaimed => exact stamped
  | fromDangling => exact stamped.unlink_unlinked (unlinked fresh)
  | fromCompletedLoggedOnly payoutId => exact stamped
  | fromPendingAdjusted payoutId newAmount =>
      rcases fresh with ⟨linked, amounts⟩ | ⟨free, cancelled⟩
      · obtain ⟨row, present, id, amount⟩ := known
        have link := linked row present id
        obtain ⟨p, member, rfl, -, -⟩ := sound.linked row present payoutId link
        obtain ⟨-, rfl⟩ := amounts p member rfl
        change (((l.stamp e.id (reversalReason reason) now).setAmount p.id
          (p.amountUsd - e.amountUsd)).relink (fun e' => e'.id == e.id) none).Sound
        rw [← id, ← amount]
        have adjusted := (sound.stamp row.id (reversalReason reason) now).adjust
          (mem_stamp present (reversalReason reason) now) member link
        exact adjusted
      · exact (stamped.setAmount_cancelled newAmount cancelled).unlink_unlinked (unlinked free)
  | fromPendingCancelled payoutId newAmount floor => exact sound.release payoutId _ now

end Ledger

/-! ## The transactions -/

namespace PayoutSys

variable {userId : Nat} {s s' : PayoutSys}

/-- What the reads of a task still say. `doomed` is about the other transactions. -/
def TaskSound (userId : Nat) (l : Ledger) (doomed : Prop) : PayoutTask → Prop
  | .insertRequest _ amount => l.availableBalance userId = amount ∨ doomed
  | .claimRows req => l.Awaits userId req ∧ l.availableBalance userId = req.amountUsd
  | .commitRequest req claimed => l.Awaits userId req ∧ l.Holds userId claimed req.amountUsd
  | .commitCredit _ _ earning =>
      (∀ id, (earning id).id = id) ∧ ∀ id, (earning id).payoutRequestId = none
  | .readPayout _ _ earning => l.Knows earning
  | .commitReversal _ _ earning _ => l.Knows earning
  | .checkPending _ | .readBalance _ | .readEarning _ _ => True

structure Sound (userId : Nat) (s : PayoutSys) : Prop where
  ledger : s.ledger.Sound
  tasks : ∀ txn ∈ s.txns.rows, TaskSound userId s.ledger (s.Doomed userId) txn.task
  oneInserted : ∀ txn ∈ s.txns.rows, ∀ txn' ∈ s.txns.rows, txn.task.inserted.isSome = true →
    txn'.task.inserted.isSome = true → txn.id = txn'.id

theorem sound_start {l : Ledger} (sound : l.Sound) : Sound userId { ledger := l } where
  ledger := sound
  tasks txn member := by cases member
  oneInserted txn member := by cases member

theorem TaskSound.mono {l : Ledger} {doomed doomed' : Prop} {task : PayoutTask}
    (weaker : doomed → doomed') (sound : TaskSound userId l doomed task) :
    TaskSound userId l doomed' task := by
  cases task with
  | insertRequest address amount =>
      rcases sound with balance | doomed
      · exact Or.inl balance
      · exact Or.inr (weaker doomed)
  | checkPending _ | readBalance _ | claimRows _ | commitRequest _ _ | commitCredit _ _ _
  | readEarning _ _ | readPayout _ _ _ | commitReversal _ _ _ _ => exact sound

/-- A transaction begins. -/
theorem Sound.spawn {k : Nat} (task : PayoutTask) (sound : s.Sound userId)
    (begins : ∀ doomed, TaskSound userId s.ledger doomed task) (first : task.inserted = none)
    (spawned : s.spawn k task = some s') : s'.Sound userId := by
  simp only [PayoutSys.spawn, Option.ite_none_left_eq_some, Option.some.injEq, Bool.not_eq_true,
    Option.isSome_eq_false_iff, Option.isNone_iff_eq_none] at spawned
  obtain ⟨free, rfl⟩ := spawned
  have rows : ∀ txn, txn ∈ (s.txns.insert ⟨k, task⟩).rows ↔ txn ∈ s.txns.rows ∨ txn = ⟨k, task⟩ :=
    fun _ => Table.mem_rows_insert free
  refine ⟨sound.ledger, fun txn member => ?_, fun txn member txn' member' inserted inserted' => ?_⟩
  · rcases (rows txn).mp member with old | rfl
    · refine (sound.tasks txn old).mono fun doomed => ?_
      rcases doomed with pending | ⟨other, present, committing⟩
      · exact Or.inl pending
      · exact Or.inr ⟨other, (rows other).mpr (Or.inl present), committing⟩
    · exact begins _
  · rcases (rows txn).mp member with old | rfl
    · rcases (rows txn').mp member' with old' | rfl
      · exact sound.oneInserted txn old txn' old' inserted inserted'
      · simp [first] at inserted'
    · simp [first] at inserted

/-- A transaction ends, and the facts of the others hold of the ledger it leaves. -/
theorem Sound.finish {k : Nat} {l : Ledger} (sound : s.Sound userId) (ledger : l.Sound)
    (others : ∀ txn ∈ s.txns.rows, txn.id ≠ k →
      TaskSound userId l ((s.finish k l).Doomed userId) txn.task) :
    (s.finish k l).Sound userId where
  ledger := ledger
  tasks txn member := by
    obtain ⟨present, other⟩ := Table.mem_rows_erase.mp member
    exact others txn present other
  oneInserted txn member txn' member' :=
    sound.oneInserted txn (Table.mem_rows_erase.mp member).1 txn' (Table.mem_rows_erase.mp member').1

/-- Ending a transaction that has claimed nothing leaves the doomed ones doomed. -/
theorem Doomed.finish {k : Nat} {l : Ledger} {txn : PayoutTxn} (stored : s.txns.get? k = some txn)
    (idle : txn.task.committing = false)
    (pending : s.ledger.hasPendingPayout userId = true → l.hasPendingPayout userId = true)
    (doomed : s.Doomed userId) : (s.finish k l).Doomed userId := by
  rcases doomed with waiting | ⟨other, present, committing⟩
  · exact Or.inl (pending waiting)
  · refine Or.inr ⟨other, Table.mem_rows_erase.mpr ⟨present, ?_⟩, committing⟩
    intro same
    have itself := Table.get?_eq_some_iff.mpr ⟨present, same⟩
    rw [stored, Option.some.injEq] at itself
    rw [itself, committing] at idle
    cases idle

/-- A transaction that ends without writing. -/
theorem Sound.drop {k : Nat} {txn : PayoutTxn} (sound : s.Sound userId)
    (stored : s.txns.get? k = some txn) (idle : txn.task.committing = false) :
    (s.finish k s.ledger).Sound userId :=
  sound.finish sound.ledger fun other present _ =>
    (sound.tasks other present).mono (Doomed.finish stored idle id)

/-- A transaction goes on. -/
theorem Sound.goOn {k : Nat} {txn : PayoutTxn} {task : PayoutTask} (sound : s.Sound userId)
    (stored : s.txns.get? k = some txn) (idle : txn.task.committing = false)
    (next : TaskSound userId s.ledger (s.Doomed userId) task)
    (inserted : task.inserted.isSome = true → txn.task.inserted.isSome = true ∨
      s.insertPending = false) : (s.goOn k task).Sound userId := by
  have rows : ∀ other, other ∈ (s.txns.put ⟨k, task⟩).rows ↔
      other = ⟨k, task⟩ ∨ (other ∈ s.txns.rows ∧ other.id ≠ k) := fun _ => Table.mem_rows_put
  have weaker : s.Doomed userId → (s.goOn k task).Doomed userId := by
    intro either
    rcases either with waiting | ⟨other, present, committing⟩
    · exact Or.inl waiting
    · refine Or.inr ⟨other, (rows other).mpr (Or.inr ⟨present, ?_⟩), committing⟩
      intro same
      have itself := Table.get?_eq_some_iff.mpr ⟨present, same⟩
      rw [stored, Option.some.injEq] at itself
      rw [itself, committing] at idle
      cases idle
  -- of a transaction that has inserted, this one is it or there is none yet
  have alone : task.inserted.isSome = true → ∀ other ∈ s.txns.rows,
      other.task.inserted.isSome = true → other.id = k := by
    intro first other present has
    rcases inserted first with itself | none
    · exact (sound.oneInserted other present txn (Table.mem_of_get? stored) has itself).trans
        (Table.key_of_get? stored)
    · have not := List.any_eq_false.mp none other present
      exact absurd has not
  refine ⟨sound.ledger, fun other member => ?_, fun other member other' member' has has' => ?_⟩
  · rcases (rows other).mp member with rfl | ⟨present, -⟩
    · exact next.mono weaker
    · exact (sound.tasks other present).mono weaker
  · rcases (rows other).mp member with rfl | ⟨present, different⟩
    · rcases (rows other').mp member' with rfl | ⟨present', different'⟩
      · rfl
      · exact absurd (alone has other' present' has') different'
    · rcases (rows other').mp member' with rfl | ⟨present', -⟩
      · exact absurd (alone has' other present has) different
      · exact sound.oneInserted other present other' present' has has'

theorem inserted_of_committing {txn : PayoutTxn}
    (committing : txn.task.committing = true) : txn.task.inserted.isSome = true := by
  cases task : txn.task with
  | commitRequest _ _ => rfl
  | checkPending _ | readBalance _ | insertRequest _ _ | claimRows _ | commitCredit _ _ _
  | readEarning _ _ | readPayout _ _ _ | commitReversal _ _ _ _ =>
      rw [task] at committing
      cases committing

/-- The unique index lets a request in: nobody else has one, so the balance it has read is
still there to claim. -/
theorem Sound.insertRequest {k : Nat} {address : String} {amount : ℚ} (sound : s.Sound userId)
    (stored : s.txns.get? k = some ⟨k, .insertRequest address amount⟩)
    (none : s.ledger.hasPendingPayout userId = false) (alone : s.insertPending = false) :
    (({ s with ledger := { s.ledger with payoutSeq := s.ledger.payoutSeq + 1 } } : PayoutSys).goOn k
      (.claimRows (newRequest s.ledger.payoutSeq userId amount address))).Sound userId := by
  have balance : s.ledger.availableBalance userId = amount := by
    rcases sound.tasks _ (Table.mem_of_get? stored) with balance | waiting | ⟨txn, present, claims⟩
    · exact balance
    · rw [none] at waiting
      cases waiting
    · exact absurd (inserted_of_committing claims)
        (List.any_eq_false.mp alone txn present)
  have numbered : ({ s with
      ledger := { s.ledger with payoutSeq := s.ledger.payoutSeq + 1 } } : PayoutSys).Sound userId := by
    refine ⟨⟨sound.ledger.earningSeq, fun p member => Nat.lt_succ_of_lt
      (sound.ledger.payoutSeq p member), sound.ledger.linked, sound.ledger.amount,
      sound.ledger.onePending⟩, fun txn present => ?_, sound.oneInserted⟩
    have facts := sound.tasks txn present
    have noneInserted := List.any_eq_false.mp alone txn present
    cases task : txn.task with
    | claimRows _ | commitRequest _ _ =>
        rw [task] at noneInserted
        exact absurd rfl noneInserted
    | checkPending _ | readBalance _ | insertRequest _ _ | commitCredit _ _ _ | readEarning _ _
    | readPayout _ _ _ | commitReversal _ _ _ _ =>
        rw [task] at facts
        exact facts
  exact numbered.goOn stored rfl ⟨⟨rfl, rfl, sound.ledger.payout_fresh, Nat.lt_succ_self _, none⟩,
    balance⟩ fun _ => Or.inr alone

/-- The claim takes the earnings that make up the balance. -/
theorem Sound.claimRows {k : Nat} {req : ReferralPayoutRequest} (sound : s.Sound userId)
    (stored : s.txns.get? k = some ⟨k, .claimRows req⟩) :
    (s.goOn k (.commitRequest req
      ((s.ledger.earnings.where_ (unclaimedBy userId)).map ReferralEarning.id))).Sound userId := by
  obtain ⟨awaits, balance⟩ := sound.tasks _ (Table.mem_of_get? stored)
  have claims : ∀ e ∈ s.ledger.earnings.rows,
      ((s.ledger.earnings.where_ (unclaimedBy userId)).map ReferralEarning.id).contains e.id =
        unclaimedBy userId e := by
    intro e present
    cases free : unclaimedBy userId e with
    | true =>
        have member : e ∈ s.ledger.earnings.where_ (unclaimedBy userId) :=
          List.mem_filter.mpr ⟨present, free⟩
        simpa using ⟨e, member, rfl⟩
    | false =>
        by_contra claimed
        obtain ⟨other, member, same⟩ : ∃ other ∈ s.ledger.earnings.where_ (unclaimedBy userId),
            other.id = e.id := by simpa using claimed
        obtain ⟨present', free'⟩ := List.mem_filter.mp member
        rw [Ledger.earning_unique present' present same, free] at free'
        cases free'
  refine sound.goOn stored rfl ⟨awaits, ⟨fun id member => ?_, fun e present claimed => ?_, ?_⟩⟩
    fun _ => Or.inl rfl
  · obtain ⟨e, free, rfl⟩ := List.mem_map.mp member
    exact sound.ledger.earningSeq e (List.mem_filter.mp free).1
  · exact claims e present ▸ claimed
  · exact (Table.sumWhere_congr _ claims _).trans balance

/-- What a request does at its commit. -/
theorem Sound.commitRequest {k : Nat} {req : ReferralPayoutRequest} {claimed : List Nat}
    (sound : s.Sound userId) (stored : s.txns.get? k = some ⟨k, .commitRequest req claimed⟩) :
    (s.finish k (((s.ledger.setPayoutAddress userId req.address).insertPayout req).relink
      (fun e => claimed.contains e.id) (some req.id))).Sound userId := by
  obtain ⟨awaits, holds⟩ := sound.tasks _ (Table.mem_of_get? stored)
  have user := awaits.user
  have addressed : (s.ledger.setPayoutAddress userId req.address).Sound :=
    sound.ledger.of_tables rfl rfl rfl rfl
  have committed := addressed.claim awaits.fresh awaits.below le_rfl awaits.status
    (user ▸ awaits.first) (user ▸ holds.unclaimed) holds.sum.symm
  refine sound.finish committed fun txn present other => ?_
  -- the committed request is pending, so every waiting one is doomed
  have pending : (s.finish k (((s.ledger.setPayoutAddress userId req.address).insertPayout
      req).relink (fun e => claimed.contains e.id) (some req.id))).Doomed userId := by
    refine Or.inl (List.any_eq_true.mpr ⟨req, (Table.mem_rows_insert awaits.fresh).mpr
      (Or.inr rfl), ?_⟩)
    simp [payoutOf, user, awaits.status]
  have notInserted : txn.task.inserted.isSome = false := by
    cases has : txn.task.inserted.isSome with
    | false => rfl
    | true => exact absurd (sound.oneInserted txn present _ (Table.mem_of_get? stored) has rfl) other
  have facts := sound.tasks txn present
  have knows : ∀ e, s.ledger.Knows e →
      (((s.ledger.setPayoutAddress userId req.address).insertPayout req).relink
        (fun e => claimed.contains e.id) (some req.id)).Knows e := by
    intro e known
    rcases known with ⟨row, member, same⟩
    refine ⟨_, List.mem_map_of_mem member, ?_⟩
    split
    · exact same
    · exact same
  cases task : txn.task with
  | insertRequest address amount => exact Or.inr pending
  | claimRows req' =>
      rw [task] at notInserted
      cases notInserted
  | commitRequest req' claimed' =>
      rw [task] at notInserted
      cases notInserted
  | commitCredit paymentId usage earning =>
      rw [task] at facts
      exact facts
  | readPayout paymentId reason earning =>
      rw [task] at facts
      exact knows earning facts
  | commitReversal paymentId reason earning action =>
      rw [task] at facts
      exact knows earning facts
  | checkPending _ | readBalance _ | readEarning _ _ => trivial

/-- What the other transactions know after a credit or a reversal commits. -/
theorem Sound.others {k : Nat} {l : Ledger} {txn : PayoutTxn} (sound : s.Sound userId)
    (stored : s.txns.get? k = some txn) (idle : txn.task.committing = false)
    (survives : ∀ P : Ledger → Prop, Ledger.Survives P → P s.ledger → P l)
    (quiet : s.NoWindow ∨ (s.Doomed userId ∧ (s.ledger.hasPendingPayout userId = true →
      l.hasPendingPayout userId = true))) :
    ∀ other ∈ s.txns.rows, other.id ≠ k →
      TaskSound userId l ((s.finish k l).Doomed userId) other.task := by
  intro other present _
  have facts := sound.tasks other present
  have window : ∀ task, other.task = task → task.inWindow = true → s.Doomed userId ∧
      (s.ledger.hasPendingPayout userId = true → l.hasPendingPayout userId = true) := by
    intro task same waits
    rcases quiet with none | doomed
    · have not := none other present
      rw [same, waits] at not
      cases not
    · exact doomed
  cases task : other.task with
  | insertRequest address amount =>
      obtain ⟨doomed, pending⟩ := window _ task rfl
      exact Or.inr (Doomed.finish stored idle pending doomed)
  | claimRows req =>
      rw [task] at facts
      -- its user has no pending request, and no other one has claimed
      obtain ⟨doomed, -⟩ := window _ task rfl
      rcases doomed with waiting | ⟨third, present', committing⟩
      · rw [facts.1.first] at waiting
        cases waiting
      · have has := inserted_of_committing committing
        have same := sound.oneInserted third present' other present has (by rw [task]; rfl)
        have row := List.inj_on_of_nodup_map s.txns.nodup present' present same
        rw [row, task] at committing
        cases committing
  | commitRequest req claimed =>
      rw [task] at facts
      exact ⟨survives _ (Ledger.survives_awaits userId req) facts.1,
        survives _ (Ledger.survives_holds userId claimed req.amountUsd) facts.2⟩
  | commitCredit paymentId usage earning =>
      rw [task] at facts
      exact facts
  | readPayout paymentId reason earning =>
      rw [task] at facts
      exact survives _ (Ledger.survives_knows earning) facts
  | commitReversal paymentId reason earning action =>
      rw [task] at facts
      exact survives _ (Ledger.survives_knows earning) facts
  | checkPending _ | readBalance _ | readEarning _ _ => trivial

/-- A reversal that cancels nothing leaves the pending requests pending. -/
theorem hasPendingPayout_applyReversal {l : Ledger} {e : ReferralEarning}
    {action : ReversalAction} (keeps : cancels action = false) (paymentId : Nat)
    (reason : Option String) (now : Time) (pending : l.hasPendingPayout userId = true) :
    (l.applyReversal e action paymentId reason now).hasPendingPayout userId = true := by
  cases action with
  | fromPendingAdjusted payoutId newAmount =>
      obtain ⟨p, member, waiting⟩ := List.any_eq_true.mp pending
      refine List.any_eq_true.mpr ⟨_, List.mem_map_of_mem member, ?_⟩
      split
      · exact waiting
      · exact waiting
  | fromPendingCancelled payoutId newAmount floor => cases keeps
  | fromUnclaimed | fromDangling | fromCompletedLoggedOnly _ => exact pending

theorem Sound.runTask {k : Nat} {minPayout : ℚ} {now : Time} {txn : PayoutTxn}
    (sound : s.Sound userId) (stored : s.txns.get? k = some txn)
    (clear : s.TaskUndisturbed userId txn.task)
    (done : s.runTask userId k minPayout now txn.task = some s') : s'.Sound userId := by
  have facts := sound.tasks txn (Table.mem_of_get? stored)
  have keyed : txn.id = k := Table.key_of_get? stored
  rcases txn with ⟨id, task⟩
  obtain rfl : id = k := keyed
  cases task with
  | checkPending address =>
      simp only [PayoutSys.runTask] at done
      split at done
      · cases done
        exact sound.drop stored rfl
      · cases done
        exact sound.goOn stored rfl trivial (by simp [PayoutTask.inserted])
  | readBalance address =>
      simp only [PayoutSys.runTask] at done
      split at done
      · cases done
        exact sound.drop stored rfl
      · cases done
        exact sound.goOn stored rfl (Or.inl rfl) (by simp [PayoutTask.inserted])
  | insertRequest address amount =>
      simp only [PayoutSys.runTask] at done
      split at done
      · cases done
        exact sound.drop stored rfl
      case isFalse nonePending =>
        split at done
        · cases done
        case isFalse noneInserted =>
          cases done
          exact sound.insertRequest stored (by simpa using nonePending) (by simpa using noneInserted)
  | claimRows req =>
      cases done
      exact sound.claimRows stored
  | commitRequest req claimed =>
      cases done
      exact sound.commitRequest stored
  | commitCredit paymentId usage earning =>
      simp only [PayoutSys.runTask] at done
      split at done
      · cases done
        obtain ⟨numbered, unlinked⟩ := facts
        have used : (s.ledger.insertUsage usage).Sound := sound.ledger.of_tables rfl rfl rfl rfl
        refine sound.finish (used.insertEarning numbered unlinked) (sound.others stored rfl ?_ ?_)
        · exact fun P survives holds =>
            survives.insert earning used numbered (survives.usage usage holds)
        · exact clear.imp_right fun doomed => ⟨doomed, fun pending => pending⟩
      · cases done
        exact sound.drop stored rfl
  | readEarning paymentId reason =>
      simp only [PayoutSys.runTask] at done
      split at done
      · cases done
        exact sound.drop stored rfl
      case h_2 earning found =>
        have known : s.ledger.Knows earning :=
          ⟨earning, List.mem_of_find?_eq_some found, rfl, rfl⟩
        split at done
        · cases done
        split at done
        · cases done
          exact sound.drop stored rfl
        split at done
        · cases done
          exact sound.goOn stored rfl known (by simp [PayoutTask.inserted])
        · cases done
          exact sound.goOn stored rfl known (by simp [PayoutTask.inserted])
  | readPayout paymentId reason earning =>
      cases done
      exact sound.goOn stored rfl facts (by simp [PayoutTask.inserted])
  | commitReversal paymentId reason earning action =>
      cases done
      obtain ⟨quiet, fresh⟩ := clear
      have settled := sound.ledger.settle_fresh facts fresh paymentId reason now
      refine sound.finish (settled.inserts (Ledger.applyReversal_inserts _ _ _ _ _ _))
        (sound.others stored rfl ?_ ?_)
      · exact fun P survives holds => survives.insert _ settled (fun _ => rfl)
          (survives.settleReversal holds earning action paymentId reason now)
      · exact quiet.imp_right fun ⟨doomed, keeps⟩ =>
          ⟨doomed, hasPendingPayout_applyReversal keeps paymentId reason now⟩

theorem Sound.step {a : PayoutAction} (sound : s.Sound userId)
    (clear : s.Undisturbed userId a) (stepped : s.step userId a = some s') : s'.Sound userId := by
  cases a with
  | request k address =>
      simp only [PayoutSys.step, Option.ite_none_right_eq_some] at stepped
      exact sound.spawn (.checkPending address) (fun _ => trivial) rfl stepped.2
  | credit k refereeId payment =>
      simp only [PayoutSys.step] at stepped
      split at stepped
      · cases stepped
      case h_2 usage earning rows =>
        simp only [Option.ite_none_right_eq_some] at stepped
        obtain ⟨user, -, added⟩ := Option.bind_eq_some_iff.mp rows
        exact sound.spawn (.commitCredit payment.id usage earning)
          (fun _ => Ledger.splitRows_row added) rfl stepped.2
  | reverse k paymentId reason =>
      exact sound.spawn (.readEarning paymentId reason) (fun _ => trivial) rfl stepped
  | advance k minPayout now =>
      obtain ⟨txn, stored, done⟩ := Option.bind_eq_some_iff.mp stepped
      exact sound.runTask stored
        (clear txn (Table.mem_of_get? stored) (Table.key_of_get? stored)) done

end PayoutSys

/-- In every run that nothing disturbs, payouts claim what they pay. -/
theorem payoutsHonest_of_undisturbed (userId : Nat) :
    PayoutsHonest userId (PayoutSys.Undisturbed userId) := by
  intro l reachable s run
  have ledgers : Preserves Ledger.step (fun _ _ => True) Ledger.Sound :=
    fun _ _ _ sound _ stepped => sound.step stepped
  have start : PayoutSys.Sound userId { ledger := l } :=
    PayoutSys.sound_start (reachable.invariant ledgers Ledger.sound_empty)
  have preserved : Preserves (PayoutSys.step userId) (PayoutSys.Undisturbed userId)
      (PayoutSys.Sound userId) := fun _ _ _ sound clear stepped => sound.step clear stepped
  have sound := (run.invariant preserved start).ledger
  refine ⟨fun p member live => (sound.amount p member live).symm, fun p member cancelled => ?_,
    fun e _ p member p' member' linked linked' => ?_⟩
  · refine List.filter_eq_nil_iff.mpr fun e present linked => ?_
    have link : e.payoutRequestId = some p.id := by simpa [linkedTo] using linked
    obtain ⟨p', present', id, -, live⟩ := sound.linked e present p.id link
    rw [Ledger.payout_unique present' member id] at live
    exact live cancelled
  · have link : e.payoutRequestId = some p.id := by simpa [linkedTo] using linked
    have link' : e.payoutRequestId = some p'.id := by simpa [linkedTo] using linked'
    exact Ledger.payout_unique member member' (Option.some.inj (link.symm.trans link'))

/-! ## A credit between the balance and the claim -/

/-- User 1 owns the code users 2 and 3 signed up with, and has earned 200 by payment 1. -/
def earnedOnce : List LedgerOp :=
  [.saveUser { id := 1 }, .saveCode ⟨1, 1, 20, 5⟩, .saveUser { id := 2, signupCodeId := some 1 },
    .saveUser { id := 3, signupCodeId := some 1 }, .creditSplitDiscount 2 ⟨1, some 1000, some 1000⟩]

/-- The request reads 200, payment 2 credits another 200, and the claim takes both. -/
def creditInBetween : List PayoutAction :=
  [.request 0 "TAAAAAAAAAAAAAAAAAAAAAAAAAAAAAAAAA", .advance 0 100 0, .advance 0 100 0,
    .credit 1 3 ⟨2, some 1000, some 1000⟩, .advance 1 100 0, .advance 0 100 0, .advance 0 100 0,
    .advance 0 100 0]

/-- Two requests, a credit and a reversal, each in its turn. -/
example : ((exec Ledger.step {} earnedOnce).bind fun l =>
    execGuarded (PayoutSys.step 1) (PayoutSys.Undisturbed 1) { ledger := l }
      [.request 0 "TAAAAAAAAAAAAAAAAAAAAAAAAAAAAAAAAA", .advance 0 100 0,
        .request 1 "TAAAAAAAAAAAAAAAAAAAAAAAAAAAAAAAAA", .advance 1 100 0, .advance 1 100 0,
        .advance 0 100 0, .advance 0 100 0, .advance 0 100 0, .advance 0 100 0, .advance 1 100 0,
        .credit 2 3 ⟨2, some 1000, some 1000⟩, .advance 2 100 0, .reverse 3 1 none,
        .advance 3 100 1, .advance 3 100 1, .advance 3 100 1]).map
      (fun s => s.ledger.availableBalance 1) = some 200 := by
  decide +kernel

/-- A request of 200 claims earnings worth 400. -/
theorem payoutsHonest_broken_by_credit :
    ¬ PayoutsHonest 1 (fun _ _ => True) ∧
      ((exec Ledger.step {} earnedOnce).bind fun l =>
        (exec (PayoutSys.step 1) { ledger := l } creditInBetween).map fun s =>
          s.ledger.payouts.rows.map fun p => (p.amountUsd, s.ledger.linkedAmount p.id)) =
        some [(200, 400)] := by
  have result : ((exec Ledger.step {} earnedOnce).bind fun l =>
      (exec (PayoutSys.step 1) { ledger := l } creditInBetween).map fun s =>
        s.ledger.payouts.rows.map fun p => (p.amountUsd, s.ledger.linkedAmount p.id)) =
      some [(200, 400)] := by decide +kernel
  refine ⟨fun honest => ?_, result⟩
  obtain ⟨l, reached, raced⟩ := Option.bind_eq_some_iff.mp result
  obtain ⟨s, ran, rows⟩ := Option.map_eq_some_iff.mp raced
  have claims := honest l (Run.of_exec reached) s (Run.of_exec ran)
  have both : ((200 : ℚ), (400 : ℚ)) ∈
      s.ledger.payouts.rows.map fun p => (p.amountUsd, s.ledger.linkedAmount p.id) := by
    rw [rows]
    exact List.mem_singleton.mpr rfl
  obtain ⟨p, member, amounts⟩ := List.mem_map.mp both
  obtain ⟨paid, claimed⟩ := Prod.mk.inj amounts
  have live : p.status ≠ .cancelled := by
    intro cancelled
    have none := claims.cancelled p member cancelled
    have zero : s.ledger.linkedAmount p.id = 0 := by
      unfold Ledger.linkedAmount Table.sumWhere
      unfold Ledger.earningsForPayout at none
      rw [none]
      rfl
    rw [zero] at claimed
    norm_num at claimed
  have equal := claims.amounts p member live
  rw [paid, claimed] at equal
  norm_num at equal

end Avalant
