import Avalant.Trigger.Workers

/-!
The writers of arbitrage positions: which position a task writes, which it
closes, and which it is about to fold a fill into.

A task is engaged with a position from the moment it has read that position as
live (or holds an opening trigger linked to it) to its last commit. What the
load functions put into a task is collected in `Task.ClosesClean`: a position is
closed only together with the cancel of its triggers, and a new position is
never inserted closed.
-/

namespace Avalant

open Relational Transition

variable {s s' : Sys} {d : Db} {k tid pid : Nat}

/-! ## Writes of a task -/

/-- The SET clauses on positions a task is about to commit. -/
def Task.sets : Task → List (Nat × PositionSet)
  | .closing _ pid set => [(pid, set)]
  | .finishing _ w => w.position.toList
  | .reconcileArbs w => w.sets
  | _ => []

/-- The positions a task writes now or at its next commit. -/
def Task.writes (task : Task) : List Nat :=
  ((task.sets.filter fun entry => entry.2 != {}).map Prod.fst) ++
    match task with
    | .closing _ pid _ | .closeLegs _ pid => [pid]
    | _ => []

/-- The positions a task is about to give a terminal status. -/
def Task.closes (task : Task) : List Nat :=
  (task.sets.filter fun entry => entry.2.status.any fun status => decide status.Terminal).map
    Prod.fst

def Task.awaitsOpening : Task → Bool
  | .openLegs _ _ => true
  | _ => false

/-- The position an opening worker folds its fill into. -/
def Task.folds (d : Db) (task : Task) : Option Nat :=
  match task.worker.bind d.triggers.get? with
  | some row => if row.kind = .open_ ∨ task.awaitsOpening = true then row.arbPositionId else none
  | none => none

/-- The task has read the position as live and will still write it. -/
def Task.Engages (d : Db) (pid : Nat) (task : Task) : Prop :=
  pid ∈ task.writes ∨ task.folds d = some pid

instance (d : Db) (pid : Nat) (task : Task) : Decidable (task.Engages d pid) :=
  inferInstanceAs (Decidable (_ ∨ _))

theorem Task.folds_eq_some {task : Task} :
    task.folds d = some pid ↔ ∃ tid row, task.worker = some tid ∧
      d.triggers.get? tid = some row ∧ (row.kind = .open_ ∨ task.awaitsOpening = true) ∧
      row.arbPositionId = some pid := by
  unfold folds
  constructor
  · intro folds
    split at folds
    case h_1 row found =>
      obtain ⟨tid, worker, found⟩ := Option.bind_eq_some_iff.mp found
      split at folds
      case isTrue opening => exact ⟨tid, row, worker, found, opening, folds⟩
      case isFalse => cases folds
    case h_2 => cases folds
  · intro given
    rcases given with ⟨tid, row, worker, found, opening, link⟩
    rw [worker, Option.bind_some, found]
    exact (if_pos opening).trans link

/-- A commit rewrites positions by the SET clauses of its task. -/
theorem Task.txn_positions {task next x} (writes : Task.txn task = some (x, next)) :
    x.positions.run = (setClauses task.sets PositionSet.apply PositionSet.apply_id).run := by
  cases task <;> cases writes <;> rfl

@[simp] theorem PositionSet.apply_empty (row : ArbPosition) : PositionSet.apply {} row = row :=
  rfl

/-- A commit leaves a position it does not write as it is. -/
theorem Task.txn_position_of_not_writes {task next x} {row : ArbPosition}
    (writes : Task.txn task = some (x, next)) (untouched : row.id ∉ task.writes) :
    x.positions.run row = row := by
  rw [Task.txn_positions writes]
  simp only [setClauses, key_arbPosition]
  split
  case h_1 set found =>
    obtain ⟨before, after, split, -⟩ := List.lookup_eq_some_iff.mp found
    by_cases empty : set = {}
    · rw [empty]
      exact PositionSet.apply_empty row
    · have member : (row.id, set) ∈ task.sets := by simp [split]
      refine absurd (List.mem_append_left _ ?_) untouched
      exact List.mem_map.mpr ⟨(row.id, set), List.mem_filter.mpr ⟨member, by simpa using empty⟩, rfl⟩
  case h_2 => rfl

/-- A commit that makes a position terminal closes it. -/
theorem Task.closes_of_terminal {task next x} {row : ArbPosition}
    (writes : Task.txn task = some (x, next)) (alive : ¬ row.status.Terminal)
    (terminal : (x.positions.run row).status.Terminal) :
    ∃ set status, (row.id, set) ∈ task.sets ∧ set.status = some status ∧ status.Terminal := by
  rw [Task.txn_positions writes] at terminal
  simp only [setClauses, key_arbPosition] at terminal
  split at terminal
  case h_1 set found =>
    obtain ⟨before, after, split, -⟩ := List.lookup_eq_some_iff.mp found
    cases written : set.status with
    | none =>
        rw [PositionSet.apply_status, written] at terminal
        exact absurd terminal alive
    | some status =>
        rw [PositionSet.apply_status, written] at terminal
        exact ⟨set, status, by simp [split], written, terminal⟩
  case h_2 => exact absurd terminal alive

theorem Task.mem_closes {task : Task} {set : PositionSet} {status : PositionStatus}
    (member : (pid, set) ∈ task.sets) (written : set.status = some status)
    (terminal : status.Terminal) : pid ∈ task.closes :=
  List.mem_map.mpr ⟨(pid, set), List.mem_filter.mpr ⟨member, by simp [written, terminal]⟩, rfl⟩

/-! ## What the loads leave -/

/-- Auto-paired positions are inserted open, for no trigger. -/
theorem mem_pairBucket {userId : Nat} {legs : List TradePosition} {paired : List Nat}
    {insert : PositionInsert} (member : insert ∈ pairBucket userId legs paired) :
    insert.row.status = .open_ ∧ insert.linkTrigger = none := by
  induction legs generalizing paired with
  | nil => cases member
  | cons a rest ih =>
      rw [pairBucket] at member
      split at member
      · exact ih member
      · split at member
        · rcases List.mem_cons.mp member with rfl | later
          · unfold pairedPosition
            split
            exact ⟨rfl, rfl⟩
          · exact ih later
        · exact ih member

/-- A refusal only marks the trigger failed. -/
theorem Db.startPortion_refused {order : ArbTriggerOrder} {w : WorkerWrite}
    (started : d.startPortion order = .refused w) : ∃ kind message, w = failedWrite kind message := by
  unfold startPortion startOpen startClose at started
  repeat' split at started
  all_goals cases started
  all_goals exact ⟨_, _, rfl⟩

/-- A close starts on a position read as open or partial. -/
theorem Db.startPortion_closing {order : ArbTriggerOrder} {set : PositionSet}
    (started : d.startPortion order = .closing pid set) :
    order.kind ≠ .open_ ∧ set = { status := some .closing } ∧
      ∃ pos, d.arbPositions.get? pid = some pos ∧ pos.status.closable = true := by
  have closes : order.kind ≠ .open_ ∧ d.startClose order = .closing pid set := by
    unfold startPortion at started
    split at started
    case h_1 =>
      unfold startOpen at started
      repeat' split at started
      all_goals cases started
    case h_2 isClose | h_3 isClose | h_4 isClose => exact ⟨by simp [isClose], started⟩
  refine ⟨closes.1, ?_⟩
  have starting := closes.2
  unfold startClose at starting
  split at starting
  case h_1 => cases starting
  case h_2 pos found =>
    split at starting
    case isTrue closable =>
      split at starting
      case isTrue =>
        cases starting
        obtain ⟨link, -, stored⟩ := Option.bind_eq_some_iff.mp found
        have keyed := Table.key_of_get? stored
        exact ⟨rfl, pos, by rw [← keyed] at stored; exact stored, closable⟩
      case isFalse => cases starting
    case isFalse => cases starting

/-- Orders are opened for an opening trigger with a quantity. -/
theorem Db.startPortion_openLegs {order : ArbTriggerOrder} {qty : ℚ}
    (started : d.startPortion order = .openLegs qty) :
    order.kind = .open_ ∧ order.portionQty = some qty ∧ qty ≠ 0 := by
  unfold startPortion at started
  split at started
  case h_1 isOpen =>
    unfold startOpen at started
    split at started
    case isTrue hasQty =>
      split at started
      case isTrue =>
        cases started
        cases size : order.portionQty with
        | none => simp [size] at hasQty
        | some qty =>
            rw [size] at hasQty
            exact ⟨isOpen, rfl, (Python.truthy_some qty).mp hasQty⟩
      case isFalse => cases started
    case isFalse => cases started
  all_goals
    unfold startClose at started
    repeat' split at started
    all_goals cases started

/-- The accumulated fill goes to the position the trigger is linked to, or to a new one, with
the status the caller leaves. -/
theorem Db.accumulatePosition_cases (d : Db) (trigger : ArbTriggerOrder) (long short : Fill)
    (status : PositionStatus) (now : Time) (w : WorkerWrite) :
    (∃ pos, trigger.arbPositionId = some pos.id ∧ d.arbPositions.get? pos.id = some pos ∧
        d.accumulatePosition trigger long short status now w =
          { w with
            position := some (pos.id,
              PositionSet.diff pos { pos.accumulate long short now with status }) }) ∨
      d.accumulatePosition trigger long short status now w =
        { w with
          newPosition :=
            some { (trigger.newPosition now).accumulate long short now with status } } := by
  unfold accumulatePosition
  cases found : trigger.arbPositionId.bind d.arbPositions.get? with
  | none => exact Or.inr rfl
  | some pos =>
      obtain ⟨link, linked, stored⟩ := Option.bind_eq_some_iff.mp found
      have keyed : pos.id = link := Table.key_of_get? stored
      subst keyed
      exact Or.inl ⟨pos, linked, stored, rfl⟩

/-- The position writes of a finished portion: the linked position or a new one, left open or
partial. -/
structure WorkerWrite.FoldsInto (w : WorkerWrite) (link : Option Nat) : Prop where
  position : ∀ ⦃pid set⦄, w.position = some (pid, set) →
    link = some pid ∧ ∀ status, set.status = some status → ¬ status.Terminal
  newPosition : ∀ ⦃row⦄, w.newPosition = some row → ¬ row.status.Terminal

theorem failedWrite_foldsInto (kind : ErrorKind) (message : String) (link : Option Nat) :
    (failedWrite kind message).FoldsInto link where
  position := by
    intro pid set written
    cases written
  newPosition := by
    intro row written
    cases written

theorem Db.accumulatePosition_foldsInto {w : WorkerWrite} {status : PositionStatus} (d : Db)
    (trigger : ArbTriggerOrder) (long short : Fill) (now : Time)
    (noPosition : w.position = none) (noNew : w.newPosition = none)
    (alive : ¬ status.Terminal) :
    (d.accumulatePosition trigger long short status now w).FoldsInto trigger.arbPositionId := by
  rcases d.accumulatePosition_cases trigger long short status now w with
    ⟨pos, linked, -, same⟩ | same
  · rw [same]
    constructor
    · intro pid set written
      cases written
      refine ⟨linked, fun status' written terminal => alive ?_⟩
      rw [(Python.dirty_eq_some_iff.mp written).2] at terminal
      exact terminal
    · intro row written
      rw [noNew] at written
      cases written
  · rw [same]
    constructor
    · intro pid set written
      rw [noPosition] at written
      cases written
    · intro row written
      cases written
      exact alive

theorem Db.finishOpen_foldsInto (d : Db) (order : ArbTriggerOrder) (qty : ℚ)
    (long short : LegResult) (now : Time) :
    (d.finishOpen order qty long short now).FoldsInto order.arbPositionId := by
  unfold finishOpen
  split
  case h_1 =>
    exact d.accumulatePosition_foldsInto order _ _ now rfl rfl (by decide)
  case h_2 =>
    exact d.accumulatePosition_foldsInto order _ _ now rfl rfl (by decide)
  case h_3 =>
    exact d.accumulatePosition_foldsInto order _ _ now rfl rfl (by decide)
  case h_4 => exact failedWrite_foldsInto _ _ _

end Avalant
