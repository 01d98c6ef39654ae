import Avalant.Reconcile.Fuse
import Avalant.Trigger.Closing

/-!
Terminal position states.

A closed position is final as long as no other party is engaged with it when the
close commits: a portion still in flight folds its fill into the closed row and
re-opens it, a second closer or a reconcile pass that loaded the row earlier
writes over it. `Sys.CloseClear` excludes exactly these commits, and the opening
trigger created against a position that is closed already (`create_arb_order`
does not look at the position it links).
-/

namespace Avalant

open Relational Transition

/-- In every run whose steps `ok` admits, a position that is closed or cancelled keeps its
status, its quantities and its entry prices. -/
def PositionTerminal (ok : Sys → Action → Prop) : Prop :=
  ∀ ⦃wallets tradeOrders tradePositions seq s s'⦄,
    Run Sys.step ok (Sys.init wallets tradeOrders tradePositions seq) s →
    Run Sys.step ok s s' →
    ∀ ⦃pid row⦄, s.db.arbPositions.get? pid = some row → row.status.Terminal →
      ∃ row', s'.db.arbPositions.get? pid = some row' ∧ row'.status = row.status ∧
        row'.longQty = row.longQty ∧ row'.shortQty = row.shortQty ∧
        row'.longEntryPrice = row.longEntryPrice ∧ row'.shortEntryPrice = row.shortEntryPrice

/-! ## The condition -/

/-- A commit that closes a position is the only party engaged with it, and an opening trigger
is created against no closed position. -/
def Sys.CloseClear (s : Sys) : Action → Prop
  | .commit k =>
      ∀ committing ∈ s.tasks.rows, committing.id = k → ∀ pid ∈ committing.task.closes,
        ∀ other ∈ s.tasks.rows, other.id ≠ k → ¬ other.task.Engages s.db pid
  | .create _ body _ =>
      body.kind = .open_ → ∀ row ∈ s.db.arbPositions.rows,
        body.arbPositionId = some row.id → ¬ row.status.Terminal
  | _ => True

instance (s : Sys) : (a : Action) → Decidable (s.CloseClear a)
  | .commit k =>
      inferInstanceAs (Decidable (∀ committing ∈ s.tasks.rows, committing.id = k →
        ∀ pid ∈ committing.task.closes, ∀ other ∈ s.tasks.rows, other.id ≠ k →
          ¬ other.task.Engages s.db pid))
  | .create _ body _ =>
      inferInstanceAs (Decidable (body.kind = .open_ → ∀ row ∈ s.db.arbPositions.rows,
        body.arbPositionId = some row.id → ¬ row.status.Terminal))
  | .promote .. | .claim .. | .start .. | .openReturn .. | .closeReturn .. | .raised ..
  | .drop .. | .reconcile .. | .reconcileNext .. | .cancel .. | .patch .. | .attach ..
  | .manualClose .. => inferInstanceAs (Decidable True)

variable {s s' : Sys} {k tid pid : Nat}

theorem Sys.mem_of_task? {task : Task} (at_k : s.task? k = some task) :
    (⟨k, task⟩ : TaskRow) ∈ s.tasks.rows := by
  obtain ⟨row, found, rfl⟩ := Option.map_eq_some_iff.mp at_k
  have keyed : row.id = k := Table.key_of_get? found
  subst keyed
  exact Table.mem_of_get? found

/-- The condition at a commit, read by task number. -/
theorem Sys.CloseClear.commit (clear : s.CloseClear (.commit k)) {task : Task}
    (holding : s.task? k = some task) (closes : pid ∈ task.closes) {j : Nat} {other : Task}
    (at_j : s.task? j = some other) (different : j ≠ k) : ¬ other.Engages s.db pid :=
  clear _ (Sys.mem_of_task? holding) rfl pid closes _ (Sys.mem_of_task? at_j) different

/-! ## Tasks close cleanly -/

/-- What a task writes besides a terminal status: its triggers are cancelled with it, and no
position is inserted closed. -/
def Task.ClosesClean : Task → Prop
  | .closing _ _ set => ∀ status, set.status = some status → ¬ status.Terminal
  | .finishing _ w =>
      (∀ pid set status, w.position = some (pid, set) → set.status = some status →
          status.Terminal → .cancelSiblings pid ∈ w.stmts ∧ w.order.status = some .fired) ∧
        ∀ row, w.newPosition = some row → ¬ row.status.Terminal
  | .reconcileArbs w =>
      (∀ pid set status, (pid, set) ∈ w.sets → set.status = some status → status.Terminal →
          pid ∈ w.cancels) ∧
        ∀ insert ∈ w.inserts, ¬ insert.row.status.Terminal
  | _ => True

theorem WorkerWrite.FoldsInto.closesClean {w : WorkerWrite} {link : Option Nat}
    (folds : w.FoldsInto link) : (Task.finishing tid w).ClosesClean :=
  ⟨fun _ _ _ written setStatus terminal =>
      absurd terminal ((folds.position written).2 _ setStatus),
    fun _ written => folds.newPosition written⟩

theorem finishClose_closesClean (long short : LegResult) (now : Time) :
    (Task.finishing tid (finishClose pid long short now)).ClosesClean := by
  unfold finishClose
  split
  case h_1 =>
    refine ⟨?_, fun row written => by cases written⟩
    intro pid' set status written setStatus terminal
    cases written
    exact ⟨by simp, rfl⟩
  all_goals
    refine ⟨?_, fun row written => by cases written⟩
    intro pid' set status written setStatus terminal
    cases written
    cases setStatus
    rcases terminal with closed | cancelled
    · cases closed
    · cases cancelled

theorem Db.reconcileArbs_closesClean (d : Db) (userId : Nat) (live : List LiveRow)
    (now : Time) : (Task.reconcileArbs (d.reconcileArbs userId live now)).ClosesClean := by
  constructor
  · intro pid set status member written terminal
    obtain ⟨ap, walked, entry⟩ := List.mem_map.mp member
    cases entry
    obtain ⟨changed, rfl⟩ := Python.dirty_eq_some_iff.mp written
    rw [ArbPosition.reconcile_status] at terminal changed
    have alive : ¬ ap.status.Terminal := by
      have selected := (Table.mem_where.mp walked).2
      simp only [Bool.and_eq_true] at selected
      exact PositionStatus.not_terminal_of_live selected.2
    by_cases gone : ap.AllGone live
    · exact List.mem_map.mpr ⟨ap, List.mem_filter.mpr ⟨walked, (ap.finalised_iff live).mpr gone⟩,
        rfl⟩
    · rw [if_neg gone] at terminal
      by_cases leg : ap.LegGone live
      · rw [if_pos leg] at terminal
        exact absurd terminal (by decide)
      · rw [if_neg leg] at terminal
        exact absurd terminal alive
  · intro insert member
    obtain ⟨symbol, -, inBucket⟩ := List.mem_flatMap.mp member
    rw [(mem_pairBucket inBucket).1]
    decide

theorem Sys.Loads.closesClean {task : Task} {portions : List Portion}
    (loads : s.Loads k task portions) : task.ClosesClean := by
  cases loads with
  | refused holding found started =>
      obtain ⟨kind, message, rfl⟩ := Db.startPortion_refused started
      exact (failedWrite_foldsInto kind message none).closesClean
  | closing holding found started =>
      obtain ⟨-, rfl, -⟩ := Db.startPortion_closing started
      intro status written
      cases written
      decide
  | openReturn holding found => exact (Db.finishOpen_foldsInto _ _ _ _ _ _).closesClean
  | closeReturn holding => exact finishClose_closesClean _ _ _
  | raised holding held => exact (failedWrite_foldsInto _ _ none).closesClean
  | reconcileNext holding => exact Db.reconcileArbs_closesClean _ _ _ _
  | openLegs | reconcile | cancel | patch | attach => trivial

/-- Every task of the system closes cleanly. -/
def TasksCloseClean (s : Sys) : Prop :=
  ∀ ⦃k task⦄, s.task? k = some task → task.ClosesClean

theorem TasksCloseClean.step {a : Action} (clean : TasksCloseClean s)
    (stepped : s.step a = some s') : TasksCloseClean s' := by
  intro j task at_j
  cases Sys.shape stepped with
  | promote now | create accepted | idle => exact clean at_j
  | claim =>
      rw [Sys.task?_setTask] at at_j
      split at at_j
      · cases at_j
        trivial
      · exact clean at_j
  | load loads =>
      rw [Sys.task?_setTask] at at_j
      split at at_j
      · cases at_j
        exact loads.closesClean
      · exact clean at_j
  | @commit _ old _ _ holding writes =>
      rw [Sys.task?_goOn] at at_j
      split at at_j
      · cases at_j
        cases old <;> cases writes <;> trivial
      · exact clean at_j
  | drop k =>
      rw [Sys.task?_erase] at at_j
      split at at_j
      · cases at_j
      · exact clean at_j

/-! ## Closed positions are quiet -/

/-- Nobody is engaged with a closed position, and no opening trigger linked to it can be
claimed again. -/
structure ClosedQuiet (s : Sys) : Prop where
  free : ∀ ⦃pid row⦄, s.db.arbPositions.get? pid = some row → row.status.Terminal →
    ∀ ⦃k task⦄, s.task? k = some task → ¬ task.Engages s.db pid
  disarmed : ∀ ⦃pid row⦄, s.db.arbPositions.get? pid = some row → row.status.Terminal →
    ∀ ⦃tid t⦄, s.db.triggers.get? tid = some t → t.arbPositionId = some pid →
      t.kind = .open_ → t.status.editable = false

/-- A load engages with a position its predecessor was engaged with, or one it reads as live. -/
theorem Sys.Loads.engages {task : Task} {portions : List Portion}
    (loads : s.Loads k task portions) (engages : task.Engages s.db pid) :
    (∃ old, s.task? k = some old ∧ old.Engages s.db pid) ∨
      ∃ row, s.db.arbPositions.get? pid = some row ∧ ¬ row.status.Terminal := by
  -- an opening worker keeps folding into the same linked position
  have opening : ∀ {old : Task} {tid row}, s.task? k = some old → old.worker = some tid →
      s.db.triggers.get? tid = some row → (row.kind = .open_ ∨ old.awaitsOpening = true) →
      row.arbPositionId = some pid → ∃ old, s.task? k = some old ∧ old.Engages s.db pid :=
    fun holding worker found kind link =>
      ⟨_, holding, Or.inr (Task.folds_eq_some.mpr ⟨_, _, worker, found, kind, link⟩)⟩
  rcases engages with writes | folds
  · cases loads with
    | refused holding found started =>
        obtain ⟨kind, message, rfl⟩ := Db.startPortion_refused started
        cases writes
    | @closing tid claim order pid' set holding found started =>
        obtain ⟨-, rfl, pos, stored, closable⟩ := Db.startPortion_closing started
        have same : pid = pid' := by simpa [Task.writes, Task.sets] using writes
        subst same
        exact Or.inr ⟨pos, stored,
          PositionStatus.not_terminal_of_live (PositionStatus.live_of_closable closable)⟩
    | @openReturn tid qty order long short now holding found =>
        have folds := Db.finishOpen_foldsInto s.db order qty long short now
        simp only [Task.writes, Task.sets, List.append_nil, List.mem_map, List.mem_filter,
          Option.mem_toList] at writes
        obtain ⟨entry, ⟨position, -⟩, rfl⟩ := writes
        exact Or.inl (opening holding rfl found (Or.inr rfl) (folds.position position).1)
    | @closeReturn tid pid' long short now holding =>
        refine Or.inl ⟨_, holding, Or.inl ?_⟩
        simp only [Task.writes, Task.sets, List.append_nil, List.mem_map, List.mem_filter,
          Option.mem_toList] at writes
        obtain ⟨entry, ⟨position, -⟩, rfl⟩ := writes
        have same : entry.1 = pid' := by
          unfold finishClose at position
          split at position <;> cases position <;> rfl
        simp [Task.writes, same]
    | @reconcileNext userId live now holding =>
        simp only [Task.writes, Task.sets, List.append_nil, List.mem_map, List.mem_filter] at writes
        obtain ⟨entry, ⟨member, -⟩, rfl⟩ := writes
        obtain ⟨ap, walked, rfl⟩ := List.mem_map.mp member
        obtain ⟨stored, selected⟩ := Table.mem_where.mp walked
        simp only [Bool.and_eq_true] at selected
        exact Or.inr ⟨ap, stored, PositionStatus.not_terminal_of_live selected.2⟩
    | raised | openLegs | reconcile | cancel | patch | attach => cases writes
  · obtain ⟨tid, row, worker, found, kind, link⟩ := Task.folds_eq_some.mp folds
    cases loads with
    | refused holding | openReturn holding | closeReturn holding =>
        cases worker
        rcases kind with isOpen | impossible
        · exact Or.inl (opening holding rfl found (Or.inl isOpen) link)
        · cases impossible
    | closing holding foundOrder started =>
        cases worker
        rw [found] at foundOrder
        cases foundOrder
        rcases kind with isOpen | impossible
        · exact absurd isOpen (Db.startPortion_closing started).1
        · cases impossible
    | openLegs holding foundOrder started =>
        cases worker
        rw [found] at foundOrder
        cases foundOrder
        exact Or.inl (opening holding rfl found
          (Or.inl (Db.startPortion_openLegs started).1) link)
    | raised holding held =>
        cases worker
        rcases kind with isOpen | impossible
        · exact Or.inl (opening holding held found (Or.inl isOpen) link)
        · cases impossible
    | reconcile | reconcileNext | cancel | patch | attach => cases worker

/-- A commit engages a waiting task with no old position it was not engaged with. -/
theorem Task.Engages.of_commit {x : Txn} {task : Task} (keeps : x.KeepsIdentity)
    (exclusive : WorkerExclusive s) (at_k : s.task? k = some task)
    (old : pid < s.db.arbPositionSeq) (engages : task.Engages (s.db.commit x) pid) :
    task.Engages s.db pid := by
  rcases engages with writes | folds
  · exact Or.inl writes
  · obtain ⟨tid, row', worker, found', kind, link⟩ := Task.folds_eq_some.mp folds
    obtain ⟨row, found, -⟩ := exclusive.held ⟨task, at_k, worker⟩
    rw [Db.order_commit_of_some found] at found'
    cases found'
    refine Or.inr (Task.folds_eq_some.mpr ⟨tid, row, worker, found, ?_, keeps.link link old⟩)
    exact kind.imp_left fun isOpen => (keeps row).1.symm.trans isOpen

theorem ClosedQuiet.setTask {task : Task} {portions : List Portion} {claims : Nat}
    (quiet : ClosedQuiet s)
    (idle : ∀ ⦃pid row⦄, s.db.arbPositions.get? pid = some row → row.status.Terminal →
      ¬ task.Engages s.db pid) :
    ClosedQuiet { s with tasks := s.setTask k task, portions, claims } where
  free pid row found terminal j other at_j := by
    rw [Sys.task?_setTask] at at_j
    split at at_j
    · cases at_j
      exact idle found terminal
    · exact quiet.free found terminal at_j
  disarmed := quiet.disarmed

/-- A transaction on triggers alone keeps closed positions quiet if it re-arms nothing and
inserts no opening trigger linked to a closed position. -/
theorem ClosedQuiet.commitOrders {x : Txn} (quiet : ClosedQuiet s)
    (exclusive : WorkerExclusive s) (sequenced : s.db.Sequenced) (keeps : x.KeepsIdentity)
    (noWrites : x.positions = Rewrite.id _) (noInserts : x.newPositions = [])
    (rearms : ∀ ⦃row : ArbTriggerOrder⦄, row.status.editable = false →
      (x.orders.run row).status.editable = false)
    (inserted : ∀ row ∈ x.newOrders, row.kind = .open_ → ∀ pid pos,
      row.arbPositionId = some pid → s.db.arbPositions.get? pid = some pos →
      ¬ pos.status.Terminal) :
    ClosedQuiet { s with db := s.db.commit x } where
  free pid row found terminal j task at_j engages := by
    rw [Db.position_commit_id noWrites noInserts] at found
    exact quiet.free found terminal at_j
      (engages.of_commit keeps exclusive at_j (sequenced.position found))
  disarmed pid row found terminal tid t foundT link isOpen := by
    rw [Db.position_commit_id noWrites noInserts] at found
    rcases Db.order_commit foundT with ⟨old, foundOld, rfl⟩ | ⟨-, -, -, new, member, rfl⟩
    · exact rearms (quiet.disarmed found terminal foundOld
        (keeps.link link (sequenced.position found)) ((keeps old).1.symm.trans isOpen))
    · exact absurd terminal (inserted new member isOpen pid row link found)

theorem ClosedQuiet.claim {seen : Nat} {row : ArbTriggerOrder} {claims : Nat}
    (quiet : ClosedQuiet s)
    (exclusive : WorkerExclusive s) (sequenced : s.db.Sequenced)
    (found : s.db.triggers.get? seen = some row) (pending : row.status = .pending) :
    ClosedQuiet
      { s with
        db := s.db.commit (claimTxn seen)
        tasks := s.setTask k (.claimed seen s.claims)
        claims } := by
  have written : ClosedQuiet { s with db := s.db.commit (claimTxn seen) } := by
    refine quiet.commitOrders exclusive sequenced (claimTxn_keepsIdentity seen) rfl rfl ?_
      (fun _ member => by cases member)
    intro row fixed
    change (claimRow seen row).status.editable = false
    unfold claimRow
    split
    · rfl
    · exact fixed
  refine written.setTask ?_
  intro pid pos foundPos terminal engages
  have stored : s.db.arbPositions.get? pid = some pos :=
    (Db.position_commit_id (x := claimTxn seen) rfl rfl pid).symm.trans foundPos
  rcases engages with writes | folds
  · cases writes
  · obtain ⟨tid, row', worker, found', kind, link⟩ := Task.folds_eq_some.mp folds
    cases worker
    rw [Db.order_commit_of_some found] at found'
    cases found'
    have isOpen : row.kind = .open_ := by
      rcases kind with isOpen | impossible
      · exact (claimTxn_keepsIdentity seen row).1.symm.trans isOpen
      · cases impossible
    have fixed := quiet.disarmed stored terminal found
      ((claimTxn_keepsIdentity seen).link link (sequenced.position stored)) isOpen
    rw [pending] at fixed
    cases fixed

/-- The sibling cancel leaves no linked row of another trigger editable. -/
theorem runStmts_cancelSiblings {self : Nat} {stmts : List WorkerStmt} {row : ArbTriggerOrder}
    (member : .cancelSiblings pid ∈ stmts) (link : row.arbPositionId = some pid)
    (other : row.id ≠ self) : (runStmts self stmts row).status.editable = false := by
  induction stmts generalizing row with
  | nil => cases member
  | cons stmt stmts ih =>
      change (runStmts self stmts (stmt.run self row)).status.editable = false
      rcases List.mem_cons.mp member with rfl | later
      · have settled : ((WorkerStmt.cancelSiblings pid).run self row).status.editable = false := by
          rw [WorkerStmt.run]
          by_cases editable : row.status.editable = true
          · rw [if_pos ⟨link, editable, other⟩]
            rfl
          · rw [if_neg fun hit => editable hit.2.1]
            simpa using editable
        rw [runStmts_of_not_editable self stmts settled]
        exact settled
      · refine ih later ?_ ?_
        · rw [stmt.run_frame]
          exact link
        · rw [stmt.run_id]
          exact other

/-- A commit that closes a position settles every opening trigger linked to it. -/
theorem Task.ClosesClean.disarms {task next x} {t : ArbTriggerOrder} {set : PositionSet}
    {status : PositionStatus} (clean : Task.ClosesClean task)
    (writes : Task.txn task = some (x, next)) (member : (pid, set) ∈ task.sets)
    (written : set.status = some status) (terminal : status.Terminal)
    (link : t.arbPositionId = some pid) : (x.orders.run t).status.editable = false := by
  cases task with
  | claimed | openLegs | closeLegs | reconcileNext | reconcileTrades | cancelling | patching
  | attaching => cases member
  | closing tid pid' set' =>
      cases List.mem_singleton.mp member
      exact absurd terminal (clean status written)
  | finishing tid w =>
      cases writes
      obtain ⟨siblings, fired⟩ :=
        clean.1 pid set status (Option.mem_toList.mp member) written terminal
      change (w.runOrder tid t).status.editable = false
      unfold WorkerWrite.runOrder
      split
      case isTrue own =>
        simp only [OrderSet.apply, fired, Option.getD_some]
        rfl
      case isFalse other => exact runStmts_cancelSiblings siblings link other
  | reconcileArbs w =>
      cases writes
      have listed := clean.1 pid set status member written terminal
      change (cancelLinked w.cancels t).status.editable = false
      unfold cancelLinked
      split
      case isTrue => rfl
      case isFalse spared =>
        have hit : (w.cancels.any fun pid' => t.arbPositionId == some pid') = true :=
          List.any_eq_true.mpr ⟨pid, listed, by simp [link]⟩
        rw [hit, Bool.true_and] at spared
        by_contra editable
        exact spared (TriggerStatus.active_of_editable (by simpa using editable))

/-- Inserted positions are alive. -/
theorem Task.ClosesClean.inserts {task next x} (clean : Task.ClosesClean task)
    (writes : Task.txn task = some (x, next)) {insert : PositionInsert}
    (member : insert ∈ x.newPositions) : ¬ insert.row.status.Terminal := by
  cases task with
  | claimed | openLegs | closeLegs | reconcileNext => cases writes
  | closing | reconcileTrades | cancelling | patching | attaching =>
      cases writes
      cases member
  | finishing tid w =>
      cases writes
      obtain ⟨row, isNew, rfl⟩ := List.mem_map.mp member
      exact clean.2 row (Option.mem_toList.mp isNew)
  | reconcileArbs w =>
      cases writes
      exact clean.2 insert member

/-- What a committed task goes on as is engaged with what it was engaged with. -/
theorem Task.txn_engages {task next' x} (writes : Task.txn task = some (x, some next'))
    (engages : next'.Engages s.db pid) : task.Engages s.db pid := by
  cases task with
  | claimed | openLegs | closeLegs | reconcileNext | reconcileArbs | cancelling | patching
  | attaching | finishing => cases writes
  | reconcileTrades userId live w =>
      cases writes
      rcases engages with impossible | impossible <;> cases impossible
  | closing tid pid' set =>
      cases writes
      rcases engages with same | folds
      · have same : pid = pid' := by simpa [Task.writes, Task.sets] using same
        exact Or.inl (by simp [Task.writes, same])
      · obtain ⟨tid', row, worker, found, kind, link⟩ := Task.folds_eq_some.mp folds
        exact Or.inr (Task.folds_eq_some.mpr ⟨tid', row, worker, found, kind, link⟩)

/-- The commit of a task keeps closed positions quiet, those it closes included. -/
theorem ClosedQuiet.commit {task : Task} {x : Txn} {next : Option Task} (quiet : ClosedQuiet s)
    (exclusive : WorkerExclusive s) (sequenced : s.db.Sequenced) (clean : TasksCloseClean s)
    (holding : s.task? k = some task) (writes : task.txn = some (x, next))
    (clear : s.CloseClear (.commit k)) :
    ClosedQuiet { s with db := s.db.commit x, tasks := s.goOn k next } := by
  have keeps := Task.txn_keepsIdentity writes
  -- a closed position after the commit is an old row: closed before, or closed by this task
  have origin : ∀ {pid row}, (s.db.commit x).arbPositions.get? pid = some row →
      row.status.Terminal → ∃ old, s.db.arbPositions.get? pid = some old ∧
        (old.status.Terminal ∨ ∃ set status, (pid, set) ∈ task.sets ∧
          set.status = some status ∧ status.Terminal) := by
    intro pid row found terminal
    rcases Db.position_commit found with ⟨old, foundOld, rfl⟩ | ⟨-, -, -, new, member, rfl⟩
    · refine ⟨old, foundOld, ?_⟩
      by_cases before : old.status.Terminal
      · exact Or.inl before
      · have keyed : old.id = pid := Table.key_of_get? foundOld
        exact Or.inr (keyed ▸ Task.closes_of_terminal writes before terminal)
    · exact absurd terminal ((clean holding).inserts writes member)
  constructor
  · intro pid row found terminal j other at_j engages
    obtain ⟨old, foundOld, closed⟩ := origin found terminal
    have below := sequenced.position foundOld
    rw [Sys.task?_goOn] at at_j
    split at at_j
    case isTrue same =>
      subst same at_j
      have engagedAfter : task.Engages (s.db.commit x) pid :=
        Task.txn_engages (s := { s with db := s.db.commit x }) writes engages
      have engaged := engagedAfter.of_commit keeps exclusive holding below
      rcases closed with before | ⟨set, status, member, written, isTerminal⟩
      · exact quiet.free foundOld before holding engaged
      · cases task <;> cases writes
        · exact (clean holding) status (by cases List.mem_singleton.mp member; exact written)
            isTerminal
        · cases member
    case isFalse different =>
      have engaged := engages.of_commit keeps exclusive at_j below
      rcases closed with before | ⟨set, status, member, written, isTerminal⟩
      · exact quiet.free foundOld before at_j engaged
      · exact clear.commit holding (Task.mem_closes member written isTerminal) at_j different
          engaged
  · intro pid row found terminal tid t foundT link isOpen
    obtain ⟨old, foundOld, closed⟩ := origin found terminal
    have below := sequenced.position foundOld
    rcases Db.order_commit foundT with ⟨oldT, foundOldT, rfl⟩ | ⟨-, -, -, new, member, rfl⟩
    · have oldLink := keeps.link link below
      have oldOpen := (keeps oldT).1.symm.trans isOpen
      rcases closed with before | ⟨set, status, member, written, isTerminal⟩
      · by_contra rearmed
        obtain ⟨w, rfl⟩ := Task.editable_only_by_own writes
          (quiet.disarmed foundOld before foundOldT oldLink oldOpen) (by simpa using rearmed)
        have keyed : oldT.id = tid := Table.key_of_get? foundOldT
        exact quiet.free foundOld before holding (Or.inr (Task.folds_eq_some.mpr
          ⟨oldT.id, oldT, rfl, keyed ▸ foundOldT, Or.inl oldOpen, oldLink⟩))
      · exact (clean holding).disarms writes member written isTerminal oldLink
    · cases task with
      | claimed | openLegs | closeLegs | reconcileNext => cases writes
      | closing | reconcileTrades | cancelling | patching | finishing | reconcileArbs =>
          cases writes
          cases member
      | attaching pos body =>
          cases writes
          rcases (AttachTpSl.mem_rows member).1 with kind | kind <;> rw [kind] at isOpen <;>
            cases isOpen

theorem ClosedQuiet.step {a : Action} (quiet : ClosedQuiet s) (exclusive : WorkerExclusive s)
    (sequenced : s.db.Sequenced) (clean : TasksCloseClean s) (clear : s.CloseClear a)
    (stepped : s.step a = some s') : ClosedQuiet s' := by
  cases Sys.shape stepped with
  | promote now =>
      refine quiet.commitOrders exclusive sequenced (promoteTxn_keepsIdentity now) rfl rfl ?_
        (fun _ member => by cases member)
      intro row fixed
      change (promoteRow now row).status.editable = false
      rw [promoteRow_of_not_editable now fixed]
      exact fixed
  | claim selected unused found pending => exact quiet.claim exclusive sequenced found pending
  | load loads =>
      refine quiet.setTask ?_
      intro pid row found terminal engages
      rcases loads.engages engages with ⟨old, holding, engaged⟩ | ⟨row', found', alive⟩
      · exact quiet.free found terminal holding engaged
      · rw [found] at found'
        cases found'
        exact alive terminal
  | commit holding writes =>
      exact quiet.commit exclusive sequenced clean holding writes clear
  | create accepted =>
      refine quiet.commitOrders exclusive sequenced (insertTxn_keepsIdentity _) rfl rfl
        (fun _ fixed => fixed) ?_
      intro row member isOpen pid pos link found
      rcases Db.mem_createArbOrder accepted member with rfl | ⟨-, -, unlinked⟩
      · have keyed : pos.id = pid := Table.key_of_get? found
        exact clear (CreateKind.trigger_eq_open.mp isOpen) pos (Table.mem_of_get? found)
          (link.trans (congrArg some keyed.symm))
      · rw [unlinked] at link
        cases link
  | drop k =>
      constructor
      · intro pid row found terminal j task at_j
        rw [Sys.task?_erase] at at_j
        split at at_j
        · cases at_j
        · exact quiet.free found terminal at_j
      · exact quiet.disarmed
  | idle => exact quiet

/-- Under the condition one step leaves a closed position as it is. -/
theorem Sys.closed_step {a : Action} {row : ArbPosition} (quiet : ClosedQuiet s)
    (stepped : s.step a = some s') (found : s.db.arbPositions.get? pid = some row)
    (terminal : row.status.Terminal) : s'.db.arbPositions.get? pid = some row := by
  cases Sys.shape stepped with
  | promote now => exact (Db.position_commit_id rfl rfl pid).trans found
  | claim => exact (Db.position_commit_id rfl rfl pid).trans found
  | create accepted => exact (Db.position_commit_id rfl rfl pid).trans found
  | load | drop | idle => exact found
  | @commit k task x next holding writes =>
      have keyed : row.id = pid := Table.key_of_get? found
      have untouched : row.id ∉ task.writes := fun member =>
        quiet.free found terminal holding (Or.inl (keyed ▸ member))
      refine (Db.position_commit_of_some found).trans ?_
      rw [Task.txn_position_of_not_writes writes untouched]

/-! ## Runs -/

/-- What a run under the condition keeps. -/
structure ClosedInvariant (s : Sys) : Prop where
  exclusive : WorkerExclusive s
  sequenced : s.db.Sequenced
  clean : TasksCloseClean s
  quiet : ClosedQuiet s

theorem ClosedInvariant.preserved : Preserves Sys.step Sys.CloseClear ClosedInvariant :=
  fun _ _ _ inv clear stepped =>
    { exclusive := inv.exclusive.step stepped
      sequenced := Sys.sequenced_step inv.sequenced stepped
      clean := inv.clean.step stepped
      quiet := inv.quiet.step inv.exclusive inv.sequenced inv.clean clear stepped }

theorem ClosedInvariant.init (wallets : Table Wallet) (tradeOrders : Table TradeOrder)
    (tradePositions : Table TradePosition) (seq : Nat) :
    ClosedInvariant (Sys.init wallets tradeOrders tradePositions seq) where
  exclusive := WorkerExclusive.init wallets tradeOrders tradePositions seq
  sequenced := Sys.sequenced_init wallets tradeOrders tradePositions seq
  clean := by
    intro k task at_k
    cases at_k
  quiet :=
    { free := by
        intro pid row found
        cases found
      disarmed := by
        intro pid row found
        cases found }

/-- If every close commits with nobody else engaged with the position, and no opening trigger
is created against a closed one, closed positions are final in every interleaving. -/
theorem positionTerminal_of_closeClear {ok : Sys → Action → Prop}
    (within : ∀ s a, ok s a → s.CloseClear a) : PositionTerminal ok := by
  intro wallets tradeOrders tradePositions seq s s' reached later pid row found terminal
  have now := (reached.mono within).invariant ClosedInvariant.preserved
    (ClosedInvariant.init wallets tradeOrders tradePositions seq)
  have kept := (later.mono within).stable (P := fun s => s.db.arbPositions.get? pid = some row)
    ClosedInvariant.preserved
    (fun _ _ _ inv found _ stepped => Sys.closed_step inv.quiet stepped found terminal)
    now found
  exact ⟨row, kept, rfl, rfl, rfl, rfl, rfl⟩

theorem positionTerminal_closeClear : PositionTerminal Sys.CloseClear :=
  positionTerminal_of_closeClear fun _ _ clear => clear

/-- A position is opened by two portions and closed by a reconcile pass under the condition. -/
example :
    (execGuarded Sys.step Sys.CloseClear freshSys (.create 9 (openRequest 2 1) 1000 ::
      beginPortion 1 2 1 ++ endPortion 1 ++ beginPortion 2 2 1 ++ endPortion 2 ++
      emptyReconcile 3)).isSome = true := by
  decide +kernel

/-! ## Without the condition -/

/-- The portion returns, folds its fill into the closed position and re-opens it. -/
theorem positionTerminal_broken_by_portion :
    ¬ PositionTerminal (fun _ _ => True) ∧
      (positionAfter closedInFlight 1).map (fun p => (p.status, p.longQty)) =
        some (.closed, 1) ∧
      (positionAfter (closedInFlight ++ endPortion 2) 1).map (fun p => (p.status, p.longQty)) =
        some (.open_, 2) := by
  have closed : (positionAfter closedInFlight 1).map (fun p => (p.status, p.longQty)) =
      some (.closed, 1) := by decide +kernel
  have reopened : (positionAfter (closedInFlight ++ endPortion 2) 1).map
      (fun p => (p.status, p.longQty)) = some (.open_, 2) := by decide +kernel
  refine ⟨fun always => ?_, closed, reopened⟩
  obtain ⟨row', foundAfter, isOpen⟩ := Option.map_eq_some_iff.mp reopened
  obtain ⟨middle, last, first, -, reached, later, readLast⟩ := Run.split_exec foundAfter
  obtain ⟨row, foundBefore, isClosed⟩ := Option.map_eq_some_iff.mp closed
  have readMiddle : middle.db.arbPositions.get? 1 = some row := by
    simpa [positionAfter, first] using foundBefore
  obtain ⟨row'', found, same, -⟩ :=
    always reached later readMiddle (Or.inl (congrArg Prod.fst isClosed))
  rw [readLast] at found
  cases found
  rw [show row'.status = .open_ from congrArg Prod.fst isOpen,
    show row.status = .closed from congrArg Prod.fst isClosed] at same
  cases same

end Avalant
