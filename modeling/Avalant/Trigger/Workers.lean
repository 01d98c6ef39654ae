import Avalant.Trigger.Steps

/-!
What each writer can do to a trigger row, and the exclusiveness of workers.

A row changes only through the commit of a task, a promotion or a claim. Its
identity columns (kind, parent) never change. Its status changes by the worker
that holds it; every other writer moves a pending or scheduled row, except the
two unguarded ones: the reconciler's cancel, which also takes `firing` rows, and
a user's cancel, which takes the children of the row whatever their status.

A trigger a worker holds is never pending or scheduled, so it is not claimed a
second time: this holds of every run, whatever the other writers do.
-/

namespace Avalant

open Relational Transition

variable {s s' : Sys} {k tid : Nat} {row : ArbTriggerOrder}

/-! ## Statements of a worker -/

/-- A worker's statement changes nothing but the status. -/
theorem WorkerStmt.run_frame (self : Nat) (row : ArbTriggerOrder) (stmt : WorkerStmt) :
    stmt.run self row = { row with status := (stmt.run self row).status } := by
  cases stmt <;> simp only [run] <;> split <;> rfl

theorem WorkerStmt.run_of_not_editable (self : Nat) (stmt : WorkerStmt)
    (fixed : row.status.editable = false) : stmt.run self row = row := by
  cases stmt with
  | promoteChildren =>
      refine if_neg fun hit => ?_
      rw [hit.2] at fixed
      cases fixed
  | cancelSiblings pid =>
      refine if_neg fun hit => ?_
      rw [fixed] at hit
      cases hit.2.1
  | cancelOpens pid =>
      refine if_neg fun hit => ?_
      rw [hit.2.2] at fixed
      cases fixed

theorem runStmts_frame (self : Nat) (stmts : List WorkerStmt) (row : ArbTriggerOrder) :
    runStmts self stmts row = { row with status := (runStmts self stmts row).status } := by
  induction stmts generalizing row with
  | nil => rfl
  | cons stmt stmts ih =>
      have first := stmt.run_frame self row
      have rest := ih (stmt.run self row)
      change runStmts self stmts (stmt.run self row) =
        { row with status := (runStmts self stmts (stmt.run self row)).status }
      rw [rest]
      exact congrArg (fun r : ArbTriggerOrder =>
        { r with status := (runStmts self stmts (stmt.run self row)).status }) first

theorem runStmts_of_not_editable (self : Nat) (stmts : List WorkerStmt)
    (fixed : row.status.editable = false) : runStmts self stmts row = row := by
  induction stmts with
  | nil => rfl
  | cons stmt stmts ih =>
      change runStmts self stmts (stmt.run self row) = row
      rw [stmt.run_of_not_editable self fixed]
      exact ih

/-! ## Commits -/

/-- A transaction that keeps the identity columns of trigger rows. -/
def Txn.KeepsIdentity (x : Txn) : Prop :=
  ∀ row, (x.orders.run row).kind = row.kind ∧
    (x.orders.run row).parentTriggerId = row.parentTriggerId ∧
    (x.orders.run row).arbPositionId = row.arbPositionId

theorem promoteTxn_keepsIdentity (now : Time) : (promoteTxn now).KeepsIdentity := by
  intro row
  change (promoteRow now row).kind = _ ∧ (promoteRow now row).parentTriggerId = _ ∧
    (promoteRow now row).arbPositionId = _
  unfold promoteRow
  split <;> exact ⟨rfl, rfl, rfl⟩

theorem claimTxn_keepsIdentity (tid : Nat) : (claimTxn tid).KeepsIdentity := by
  intro row
  change (claimRow tid row).kind = _ ∧ (claimRow tid row).parentTriggerId = _ ∧
    (claimRow tid row).arbPositionId = _
  unfold claimRow
  split <;> exact ⟨rfl, rfl, rfl⟩

/-- A row keeps its link to a position that existed before the transaction. -/
theorem Txn.KeepsIdentity.link {x : Txn} (keeps : x.KeepsIdentity) {seq pid : Nat}
    (link : (x.order seq row).arbPositionId = some pid) (old : pid < seq) :
    row.arbPositionId = some pid := by
  rcases linked_eq_some link with ⟨fresh, -⟩ | same
  · omega
  · rw [← (keeps row).2.2]
    exact same

theorem Task.txn_keepsIdentity {task next x} (writes : Task.txn task = some (x, next)) :
    x.KeepsIdentity := by
  intro row
  cases task with
  | claimed | openLegs | closeLegs | reconcileNext => cases writes
  | closing | reconcileTrades | attaching =>
      cases writes
      exact ⟨rfl, rfl, rfl⟩
  | finishing self w =>
      cases writes
      change (w.runOrder self row).kind = _ ∧ (w.runOrder self row).parentTriggerId = _ ∧
        (w.runOrder self row).arbPositionId = _
      have frame := runStmts_frame self w.stmts row
      unfold WorkerWrite.runOrder
      rw [frame]
      split <;> exact ⟨rfl, rfl, rfl⟩
  | reconcileArbs w =>
      cases writes
      change (cancelLinked w.cancels row).kind = _ ∧ (cancelLinked w.cancels row).parentTriggerId =
        _ ∧ (cancelLinked w.cancels row).arbPositionId = _
      unfold cancelLinked
      split <;> exact ⟨rfl, rfl, rfl⟩
  | cancelling tid =>
      cases writes
      change (cancelRow tid row).kind = _ ∧ (cancelRow tid row).parentTriggerId = _ ∧
        (cancelRow tid row).arbPositionId = _
      unfold cancelRow
      split <;> exact ⟨rfl, rfl, rfl⟩
  | patching tid set =>
      cases writes
      simp only [PatchSet.txn, setClauses]
      split <;> exact ⟨rfl, rfl, rfl⟩

theorem insertTxn_keepsIdentity (rows : List ArbTriggerOrder) :
    Txn.KeepsIdentity { newOrders := rows } :=
  fun _ => ⟨rfl, rfl, rfl⟩

/-- The writers that may move a row which is neither pending nor scheduled: its own worker,
the reconciler's cancel of an active linked row, and a user's cancel of the row or of its
parent. -/
inductive Task.Overrides (row : ArbTriggerOrder) : Task → Prop
  | own (w : WorkerWrite) : Overrides row (.finishing row.id w)
  | reconcile {w : ArbWrites} (pid : Nat) (linked : row.arbPositionId = some pid)
      (listed : pid ∈ w.cancels) (active : row.status.active = true) :
      Overrides row (.reconcileArbs w)
  | cancel (tid : Nat) (covered : row.parentTriggerId = some tid ∨ row.id = tid) :
      Overrides row (.cancelling tid)

/-- A commit that moves a row which is neither pending nor scheduled is by its own worker,
or cancels it. -/
theorem Task.status_of_not_editable {task next x} (writes : Task.txn task = some (x, next))
    (fixed : row.status.editable = false) :
    (x.orders.run row).status = row.status ∨
      (task.Overrides row ∧
        ((∃ w, task = .finishing row.id w) ∨ (x.orders.run row).status = .cancelled)) := by
  cases task with
  | claimed | openLegs | closeLegs | reconcileNext => cases writes
  | closing | reconcileTrades | attaching =>
      cases writes
      exact Or.inl rfl
  | finishing self w =>
      cases writes
      change (w.runOrder self row).status = _ ∨ _
      unfold WorkerWrite.runOrder
      rw [runStmts_of_not_editable self w.stmts fixed]
      split
      case isTrue own =>
        subst own
        exact Or.inr ⟨.own w, Or.inl ⟨w, rfl⟩⟩
      case isFalse => exact Or.inl rfl
  | reconcileArbs w =>
      cases writes
      change (cancelLinked w.cancels row).status = _ ∨ _ ∧ (_ ∨ (cancelLinked w.cancels row).status = _)
      unfold cancelLinked
      split
      case isTrue hit =>
        simp only [Bool.and_eq_true, List.any_eq_true, beq_iff_eq] at hit
        obtain ⟨⟨pid, listed, linked⟩, active⟩ := hit
        exact Or.inr ⟨.reconcile pid linked listed active, Or.inr rfl⟩
      case isFalse => exact Or.inl rfl
  | cancelling tid =>
      cases writes
      change (cancelRow tid row).status = _ ∨ _ ∧ (_ ∨ (cancelRow tid row).status = _)
      unfold cancelRow
      split
      case isTrue covered => exact Or.inr ⟨.cancel tid covered, Or.inr rfl⟩
      case isFalse => exact Or.inl rfl
  | patching tid set =>
      cases writes
      refine Or.inl ?_
      simp only [PatchSet.txn, setClauses]
      split <;> rfl

/-- Only the worker of a trigger can make it pending again. -/
theorem Task.editable_only_by_own {task next x} (writes : Task.txn task = some (x, next))
    (fixed : row.status.editable = false) (rearmed : (x.orders.run row).status.editable = true) :
    ∃ w, task = .finishing row.id w := by
  rcases Task.status_of_not_editable writes fixed with kept | ⟨-, own | cancelled⟩
  · rw [kept, fixed] at rearmed
    cases rearmed
  · exact own
  · rw [cancelled] at rearmed
    cases rearmed

theorem promoteRow_of_not_editable (now : Time) (fixed : row.status.editable = false) :
    promoteRow now row = row := by
  refine if_neg fun hit => ?_
  rw [hit.1] at fixed
  cases fixed

theorem claimRow_other {seen : Nat} (other : row.id ≠ seen) : claimRow seen row = row :=
  if_neg fun hit => other hit.1

/-! ## Exclusive workers -/

/-- Task `k` is a worker holding trigger `tid`. -/
def Sys.Holds (s : Sys) (k tid : Nat) : Prop :=
  ∃ task, s.task? k = some task ∧ task.worker = some tid

theorem Sys.Holds.held (holds : s.Holds k tid) : s.Held tid := by
  obtain ⟨task, at_k, worker⟩ := holds
  obtain ⟨taskRow, found, rfl⟩ := Option.map_eq_some_iff.mp at_k
  exact ⟨taskRow, Table.mem_of_get? found, worker⟩

/-- A held trigger has one worker, and is neither pending nor scheduled. -/
structure WorkerExclusive (s : Sys) : Prop where
  unique : ∀ ⦃j k tid⦄, s.Holds j tid → s.Holds k tid → j = k
  held : ∀ ⦃k tid⦄, s.Holds k tid →
    ∃ row, s.db.triggers.get? tid = some row ∧ row.status.editable = false

/-- A loaded task holds what its predecessor held. -/
theorem Sys.Loads.holds {task : Task} {portions : List Portion} (loads : s.Loads k task portions)
    (worker : task.worker = some tid) : s.Holds k tid := by
  cases loads with
  | refused holding | closing holding | openLegs holding | openReturn holding
  | closeReturn holding =>
      cases worker
      exact ⟨_, holding, rfl⟩
  | raised holding held =>
      cases worker
      exact ⟨_, holding, held⟩
  | reconcile | reconcileNext | cancel | patch | attach => cases worker

/-- What a committed task goes on as holds what it held. -/
theorem Task.txn_worker {task next' x} (writes : Task.txn task = some (x, some next'))
    (worker : next'.worker = some tid) : task.worker = some tid := by
  cases task <;> cases writes <;> exact worker

theorem Sys.sequenced_step {a : Action} (sequenced : s.db.Sequenced)
    (stepped : s.step a = some s') : s'.db.Sequenced := by
  cases Sys.shape stepped with
  | promote now => exact sequenced.commit (promoteTxn now)
  | @claim _ seen => exact sequenced.commit (claimTxn seen.id)
  | @commit _ _ x => exact sequenced.commit x
  | @create _ _ _ rows => exact sequenced.commit { newOrders := rows }
  | load | drop | idle => exact sequenced

theorem Sys.sequenced_init (wallets : Table Wallet) (tradeOrders : Table TradeOrder)
    (tradePositions : Table TradePosition) (seq : Nat) :
    (Sys.init wallets tradeOrders tradePositions seq).db.Sequenced where
  position pid row found := by cases found
  order tid row found := by cases found

/-- Every holder after a step held before it, except the worker of a claim. -/
theorem Sys.Shape.holds {a : Action} (shape : s.Shape a s') {j : Nat}
    (holds : s'.Holds j tid) :
    s.Holds j tid ∨
      ∃ seen seenPos books now row, a = .claim j seen seenPos books now ∧ seen.id = tid ∧
        s.db.triggers.get? tid = some row ∧ row.status = .pending := by
  obtain ⟨task, at_j, worker⟩ := holds
  rcases shape.origin at_j with before | ⟨seen, seenPos, books, now, row, step, rfl, found, pending,
    -, -⟩ | ⟨_, loads⟩ | ⟨task', _, holding, writes⟩
  · exact Or.inl ⟨task, before, worker⟩
  · cases worker
    exact Or.inr ⟨seen, seenPos, books, now, row, step, rfl, found, pending⟩
  · exact Or.inl (loads.holds worker)
  · exact Or.inl ⟨task', holding, Task.txn_worker writes worker⟩

/-- The status of an existing row after a step: its own worker committed it, it was claimed,
it was editable, or an unguarded cancel took it; else it is unchanged. -/
theorem Sys.Shape.status_of_not_editable {a : Action} (shape : s.Shape a s')
    (found : s.db.triggers.get? tid = some row) (fixed : row.status.editable = false) :
    ∃ row', s'.db.triggers.get? tid = some row' ∧
      (row'.status = row.status ∨
        ∃ k task, a = .commit k ∧ s.task? k = some task ∧ task.Overrides row ∧
          ((∃ w, task = .finishing row.id w) ∨ row'.status = .cancelled)) := by
  cases shape with
  | promote now =>
      refine ⟨_, Db.order_commit_of_some found, Or.inl ?_⟩
      exact congrArg ArbTriggerOrder.status (promoteRow_of_not_editable now fixed)
  | @claim _ seen _ _ _ row' selected unused foundSeen pending =>
      refine ⟨_, Db.order_commit_of_some found, Or.inl ?_⟩
      have other : row.id ≠ seen.id := by
        intro same
        rw [Table.key_of_get? found |>.symm.trans same] at found
        rw [foundSeen] at found
        cases found
        rw [pending] at fixed
        cases fixed
      exact congrArg ArbTriggerOrder.status (claimRow_other other)
  | load loads => exact ⟨row, found, Or.inl rfl⟩
  | @commit k task x next holding writes =>
      refine ⟨_, Db.order_commit_of_some found, ?_⟩
      rcases Task.status_of_not_editable writes fixed with kept | ⟨overrides, outcome⟩
      · exact Or.inl kept
      · exact Or.inr ⟨k, task, rfl, holding, overrides, outcome⟩
  | create accepted => exact ⟨_, Db.order_commit_of_some found, Or.inl rfl⟩
  | drop k => exact ⟨row, found, Or.inl rfl⟩
  | idle => exact ⟨row, found, Or.inl rfl⟩

/-- A trigger's worker is gone once it committed its outcome. -/
theorem Sys.Shape.released {k : Nat} (shape : s.Shape (.commit k) s') {w : WorkerWrite}
    (holding : s.task? k = some (.finishing tid w)) : s'.task? k = none := by
  cases shape with
  | load loads isLoad => cases isLoad
  | commit holding' writes =>
      rw [holding] at holding'
      cases holding'
      cases writes
      simp

/-- Exclusiveness is kept by every step of every party. -/
theorem WorkerExclusive.step {a : Action} (exclusive : WorkerExclusive s)
    (stepped : s.step a = some s') : WorkerExclusive s' := by
  have shape := Sys.shape stepped
  constructor
  · intro j k tid holdsJ holdsK
    rcases shape.holds holdsJ with beforeJ | ⟨seen, pos, books, now, row, claimJ, -, found, pending⟩
    · rcases shape.holds holdsK with beforeK | ⟨_, _, _, _, row, -, -, found, pending⟩
      · exact exclusive.unique beforeJ beforeK
      · obtain ⟨held, foundHeld, fixed⟩ := exclusive.held beforeJ
        rw [found] at foundHeld
        cases foundHeld
        rw [pending] at fixed
        cases fixed
    · rcases shape.holds holdsK with beforeK | ⟨_, _, _, _, _, claimK, -, -, -⟩
      · obtain ⟨held, foundHeld, fixed⟩ := exclusive.held beforeK
        rw [found] at foundHeld
        cases foundHeld
        rw [pending] at fixed
        cases fixed
      · rw [claimJ] at claimK
        cases claimK
        rfl
  · intro k tid holds
    rcases shape.holds holds with before | ⟨seen, pos, books, now, row, rfl, rfl, found, pending⟩
    · obtain ⟨row, found, fixed⟩ := exclusive.held before
      obtain ⟨row', found', moved⟩ := shape.status_of_not_editable found fixed
      refine ⟨row', found', ?_⟩
      rcases moved with kept | ⟨k', task, rfl, holding, -, own | cancelled⟩
      · rw [kept]
        exact fixed
      · obtain ⟨w, rfl⟩ := own
        have keyed : row.id = tid := Table.key_of_get? found
        have same : k = k' := exclusive.unique before ⟨_, holding, congrArg some keyed⟩
        subst same
        obtain ⟨task, after, -⟩ := holds
        rw [shape.released holding] at after
        cases after
      · rw [cancelled]
        rfl
    · cases shape with
      | load loads isLoad => cases isLoad
      | claim selected unused found' pending' =>
          refine ⟨_, Db.order_commit_of_some found, ?_⟩
          have keyed : row.id = seen.id := Table.key_of_get? found
          change (claimRow seen.id row).status.editable = false
          rw [claimRow, if_pos ⟨keyed, pending⟩]
          rfl

theorem WorkerExclusive.init (wallets : Table Wallet) (tradeOrders : Table TradeOrder)
    (tradePositions : Table TradePosition) (seq : Nat) :
    WorkerExclusive (Sys.init wallets tradeOrders tradePositions seq) where
  unique := by
    intro j k tid given
    rcases given with ⟨task, at_j, -⟩
    cases at_j
  held := by
    intro k tid given
    rcases given with ⟨task, at_k, -⟩
    cases at_k

/-! ## A deployment to run on -/

/-- One user with a trading wallet on each of two venues. -/
def twoWallets : Table Wallet :=
  Table.insertAll Table.empty
    [⟨1, 9, .exchange, "bybit", .screener, false⟩, ⟨2, 9, .exchange, "okx", .screener, false⟩]

def freshSys : Sys :=
  Sys.init twoWallets Table.empty Table.empty 1

/-- Deep books with a 2 % entry spread. -/
def deepBooks : Books where
  flat :=
    [("bybit:BTC", { asks := [(100, 1000)], bids := [(99, 1000)], ts := some 1000 }),
     ("okx:BTC", { asks := [(103, 1000)], bids := [(102, 1000)], ts := some 1000 })]

/-- A market open trigger of `total` in portions of `portion`. -/
def openRequest (total portion : ℚ) : ArbOrderCreate where
  kind := .open_
  longExchange := "bybit"
  longSymbol := "BTC"
  longWalletId := 1
  shortExchange := "okx"
  shortSymbol := "BTC"
  shortWalletId := 2
  totalQtyToken := total
  portionSizeToken := some portion

/-- The row of trigger 1 as a tick loads it right after its creation. -/
def openedRow (total portion : ℚ) : ArbTriggerOrder :=
  { (openRequest total portion).order 9 1000 with id := 1 }

/-- Both legs filled in full at the given prices. -/
def filledAt (price : ℚ) : LegResult :=
  .ok { avgFillPrice := some price }

/-- One portion of trigger 1 by task `k`, up to the venue orders. -/
def beginPortion (k : Nat) (total portion : ℚ) : List Action :=
  [.claim k (openedRow total portion) none deepBooks 1000, .start k]

/-- The legs return filled and the outcome is committed. -/
def endPortion (k : Nat) : List Action :=
  [.openReturn k (filledAt 100) (filledAt 102) 1001, .commit k]

/-- A whole reconcile pass that sees no live position. -/
def emptyReconcile (k : Nat) : List Action :=
  [.reconcile k 9 [] 1002, .commit k, .reconcileNext k 1002, .commit k]

/-- The second of three portions is in flight when a reconcile pass sees the position gone
from the venues: the position is closed and its trigger cancelled. -/
def closedInFlight : List Action :=
  .create 9 (openRequest 3 1) 1000 :: beginPortion 1 3 1 ++ endPortion 1 ++
    beginPortion 2 3 1 ++ emptyReconcile 3

/-- The row of trigger `tid` after a list of actions on the fresh deployment. -/
def triggerAfter (actions : List Action) (tid : Nat) : Option ArbTriggerOrder :=
  (exec Sys.step freshSys actions).bind fun s => s.db.triggers.get? tid

/-- The row of position `pid` after a list of actions on the fresh deployment. -/
def positionAfter (actions : List Action) (pid : Nat) : Option ArbPosition :=
  (exec Sys.step freshSys actions).bind fun s => s.db.arbPositions.get? pid

/-- A trigger of two portions fires after the second. -/
example :
    (triggerAfter (.create 9 (openRequest 2 1) 1000 :: beginPortion 1 2 1 ++ endPortion 1 ++
      beginPortion 2 2 1 ++ endPortion 2) 1).map ArbTriggerOrder.status = some .fired := by
  decide +kernel

end Avalant
