import Avalant.Trigger.System

/-!
What one step of the trigger system can do.

`Sys.shape` inverts `Sys.step` once: a step is a claim, the commit of a task, a
single-statement write, a load that moves one task, or the end of a task. Every
invariant below is proved from these shapes; no later proof unfolds the step
function.
-/

namespace Avalant

open Relational

variable {s s' : Sys} {k j tid : Nat}

/-! ## Task table -/

@[simp] theorem Sys.task?_setTask (s : Sys) (k j : Nat) (task : Task) (db : Db)
    (portions : List Portion) (claims : Nat) :
    Sys.task? { db, tasks := s.setTask k task, portions, claims } j =
      if j = k then some task else s.task? j := by
  unfold task? setTask
  rw [Table.get?_put, key_taskRow]
  split <;> rfl

@[simp] theorem Sys.task?_erase (s : Sys) (k j : Nat) (db : Db) (portions : List Portion)
    (claims : Nat) :
    Sys.task? { db, tasks := s.tasks.erase k, portions, claims } j =
      if j = k then none else s.task? j := by
  unfold task?
  rw [Table.get?_erase]
  split <;> rfl

@[simp] theorem Sys.task?_tasks (s : Sys) (j : Nat) (db : Db) (portions : List Portion)
    (claims : Nat) :
    Sys.task? { db, tasks := s.tasks, portions, claims } j = s.task? j := rfl

/-! ## Conditions on commits -/

/-- The task an action commits. -/
def Sys.committing (s : Sys) : Action → Option Task
  | .commit k => s.task? k
  | _ => none

/-- A condition on the task an action commits, if it commits one. -/
def Sys.OnCommit (s : Sys) (a : Action) (P : Task → Prop) : Prop :=
  ∀ task, s.committing a = some task → P task

instance (s : Sys) (a : Action) (P : Task → Prop) [DecidablePred P] :
    Decidable (s.OnCommit a P) :=
  match committed : s.committing a with
  | none => isTrue fun task found => by rw [committed] at found; cases found
  | some task =>
      decidable_of_iff (P task)
        ⟨fun holds task' found => by
          rw [committed] at found
          cases found
          exact holds, fun all => all task committed⟩

/-- Some worker holds the trigger. -/
def Sys.Held (s : Sys) (tid : Nat) : Prop :=
  ∃ row ∈ s.tasks.rows, row.task.worker = some tid

instance (s : Sys) (tid : Nat) : Decidable (s.Held tid) :=
  inferInstanceAs (Decidable (∃ row ∈ _, _))

/-! ## Shapes -/

/-- The tasks a load can leave at `k`, with the portions ordered in the same step. -/
inductive Sys.Loads (s : Sys) (k : Nat) : Task → List Portion → Prop
  | refused {tid claim order w} (holding : s.task? k = some (.claimed tid claim))
      (found : s.db.triggers.get? tid = some order)
      (started : s.db.startPortion order = .refused w) :
      Loads s k (.finishing tid w) s.portions
  | closing {tid claim order pid set} (holding : s.task? k = some (.claimed tid claim))
      (found : s.db.triggers.get? tid = some order)
      (started : s.db.startPortion order = .closing pid set) :
      Loads s k (.closing tid pid set) s.portions
  | openLegs {tid claim order qty} (holding : s.task? k = some (.claimed tid claim))
      (found : s.db.triggers.get? tid = some order)
      (started : s.db.startPortion order = .openLegs qty) :
      Loads s k (.openLegs tid qty)
        (⟨tid, claim, qty, order.totalQtyToken, order.infiniteFill⟩ :: s.portions)
  | openReturn {tid qty order long short now}
      (holding : s.task? k = some (.openLegs tid qty))
      (found : s.db.triggers.get? tid = some order) :
      Loads s k (.finishing tid (s.db.finishOpen order qty long short now)) s.portions
  | closeReturn {tid pid long short now} (holding : s.task? k = some (.closeLegs tid pid)) :
      Loads s k (.finishing tid (finishClose pid long short now)) s.portions
  | raised {task tid message} (holding : s.task? k = some task)
      (held : task.worker = some tid) :
      Loads s k (.finishing tid (failedWrite .internal message)) s.portions
  | reconcile {userId live now} (unused : s.task? k = none) :
      Loads s k (.reconcileTrades userId live (s.db.reconcileTrades userId live now)) s.portions
  | reconcileNext {userId live now}
      (holding : s.task? k = some (.reconcileNext userId live)) :
      Loads s k (.reconcileArbs (s.db.reconcileArbs userId live now)) s.portions
  | cancel {userId tid} (unused : s.task? k = none)
      (accepted : s.db.cancelOrder userId tid = .ok ()) :
      Loads s k (.cancelling tid) s.portions
  | patch {userId tid body set} (unused : s.task? k = none)
      (accepted : s.db.patchOrder userId tid body = .ok set) :
      Loads s k (.patching tid set) s.portions
  | attach {userId pid body pos} (unused : s.task? k = none)
      (accepted : s.db.attachTpSl userId pid body = .ok pos) :
      Loads s k (.attaching pos body) s.portions

@[simp] theorem Sys.task?_goOn (s : Sys) (k j : Nat) (next : Option Task) (db : Db)
    (portions : List Portion) (claims : Nat) :
    Sys.task? { db, tasks := s.goOn k next, portions, claims } j =
      if j = k then next else s.task? j := by
  cases next with
  | none => exact Sys.task?_erase s k j db portions claims
  | some task => exact Sys.task?_setTask s k j task db portions claims

/-- Actions that only load: the database stays as it is. -/
def Action.isLoad : Action → Bool
  | .start _ | .openReturn .. | .closeReturn .. | .raised .. | .reconcile .. | .reconcileNext ..
  | .cancel .. | .patch .. | .attach .. => true
  | .promote _ | .claim .. | .commit _ | .drop _ | .create .. | .manualClose .. => false

/-- What one step does. -/
inductive Sys.Shape (s : Sys) : Action → Sys → Prop
  | promote (now : Time) :
      Shape s (.promote now) { s with db := s.db.commit (promoteTxn now) }
  | claim {k seen seenPos books now row}
      (selected : tickFires books seen seenPos now = true) (unused : s.task? k = none)
      (found : s.db.triggers.get? seen.id = some row) (pending : row.status = .pending) :
      Shape s (.claim k seen seenPos books now)
        { s with
          db := s.db.commit (claimTxn seen.id)
          tasks := s.setTask k (.claimed seen.id s.claims)
          claims := s.claims + 1 }
  | load {a k task portions} (loads : s.Loads k task portions) (isLoad : a.isLoad = true) :
      Shape s a { s with tasks := s.setTask k task, portions }
  | commit {k task x next} (holding : s.task? k = some task)
      (writes : task.txn = some (x, next)) :
      Shape s (.commit k) { s with db := s.db.commit x, tasks := s.goOn k next }
  | create {userId body now rows} (accepted : s.db.createArbOrder userId body now = .ok rows) :
      Shape s (.create userId body now) { s with db := s.db.commit { newOrders := rows } }
  | drop (k : Nat) : Shape s (.drop k) { s with tasks := s.tasks.erase k }
  | idle (userId walletId : Nat) (symbol : String) :
      Shape s (.manualClose userId walletId symbol) s

theorem Sys.shape_start {a : Action} (stepped : s.start k = some s')
    (isLoad : a.isLoad = true) : s.Shape a s' := by
  unfold start at stepped
  split at stepped
  case h_1 tid claim holding =>
    cases found : s.db.triggers.get? tid with
    | none => simp [found] at stepped
    | some order =>
        cases started : s.db.startPortion order with
        | refused w =>
            simp only [found, started, Option.some.injEq] at stepped
            subst stepped
            exact .load (.refused holding found started) isLoad
        | closing pid set =>
            simp only [found, started, Option.some.injEq] at stepped
            subst stepped
            exact .load (.closing holding found started) isLoad
        | openLegs qty =>
            simp only [found, started, Option.some.injEq] at stepped
            subst stepped
            exact .load (.openLegs holding found started) isLoad
  case h_2 => cases stepped

theorem Sys.shape_raised {a : Action} {message : String} (stepped : s.raised k message = some s')
    (isLoad : a.isLoad = true) : s.Shape a s' := by
  unfold raised at stepped
  split at stepped
  case h_4 => cases stepped
  all_goals
    cases stepped
    exact .load (.raised ‹_› rfl) isLoad

theorem Sys.shape_spawn {a : Action} {task : Task} (stepped : s.spawn k task = some s')
    (loads : s.task? k = none → s.Loads k task s.portions) (isLoad : a.isLoad = true) :
    s.Shape a s' := by
  unfold spawn at stepped
  split at stepped
  case isTrue unused =>
    cases stepped
    exact .load (loads unused) isLoad
  case isFalse => cases stepped

/-- Inversion of a step. -/
theorem Sys.shape {a : Action} (stepped : s.step a = some s') : s.Shape a s' := by
  cases a with
  | promote now =>
      cases stepped
      exact .promote now
  | claim k seen seenPos books now =>
      simp only [step, Sys.claim] at stepped
      split at stepped
      case isTrue enabled =>
        obtain ⟨selected, unused, isPending⟩ := enabled
        obtain ⟨row, found, pending⟩ := (Option.any_eq_true _ _).mp isPending
        cases stepped
        exact .claim selected unused found (by simpa using pending)
      case isFalse => cases stepped
  | start k => exact Sys.shape_start stepped rfl
  | openReturn k long short now =>
      simp only [step, Sys.openReturn] at stepped
      split at stepped
      case h_1 tid qty holding =>
        obtain ⟨order, found, rfl⟩ := Option.map_eq_some_iff.mp stepped
        exact .load (.openReturn holding found) rfl
      case h_2 => cases stepped
  | closeReturn k long short now =>
      simp only [step, Sys.closeReturn] at stepped
      split at stepped
      case h_1 tid pid holding =>
        cases stepped
        exact .load (.closeReturn holding) rfl
      case h_2 => cases stepped
  | raised k message => exact Sys.shape_raised stepped rfl
  | commit k =>
      simp only [step, Sys.commit] at stepped
      split at stepped
      case h_1 => cases stepped
      case h_2 x next found =>
        obtain ⟨task, holding, writes⟩ := Option.bind_eq_some_iff.mp found
        cases stepped
        exact .commit holding writes
  | drop k =>
      simp only [step, Sys.drop] at stepped
      split at stepped
      case isTrue => cases stepped
      case isFalse =>
        cases stepped
        exact .drop k
  | reconcile k userId live now =>
      exact Sys.shape_spawn stepped (fun unused => .reconcile unused) rfl
  | reconcileNext k now =>
      simp only [step, Sys.reconcileNext] at stepped
      split at stepped
      case h_1 userId live holding =>
        cases stepped
        exact .load (.reconcileNext holding) rfl
      case h_2 => cases stepped
  | create userId body now =>
      simp only [step, Sys.create] at stepped
      split at stepped
      case h_1 => cases stepped
      case h_2 rows accepted =>
        cases stepped
        exact .create accepted
  | cancel k userId tid =>
      simp only [step] at stepped
      split at stepped
      case h_1 => cases stepped
      case h_2 accepted =>
        exact Sys.shape_spawn stepped (fun unused => .cancel unused accepted) rfl
  | patch k userId tid body =>
      simp only [step] at stepped
      split at stepped
      case h_1 => cases stepped
      case h_2 set accepted =>
        exact Sys.shape_spawn stepped (fun unused => .patch unused accepted) rfl
  | attach k userId pid body =>
      simp only [step] at stepped
      split at stepped
      case h_1 => cases stepped
      case h_2 pos accepted =>
        exact Sys.shape_spawn stepped (fun unused => .attach unused accepted) rfl
  | manualClose userId walletId symbol =>
      cases stepped
      exact .idle userId walletId symbol

/-- The tasks a step leaves without a load: a fresh claim, and what a committed task goes
on as. -/
inductive Task.Follows : Task → Prop
  | claimed (tid claim : Nat) : Follows (.claimed tid claim)
  | closeLegs (tid pid : Nat) : Follows (.closeLegs tid pid)
  | reconcileNext (userId : Nat) (live : List LiveRow) : Follows (.reconcileNext userId live)

theorem Task.txn_follows {task next' x} (writes : Task.txn task = some (x, some next')) :
    next'.Follows := by
  cases task <;> cases writes
  · exact .closeLegs _ _
  · exact .reconcileNext _ _

/-- Where a task after a step comes from: it was there, or a claim, a load or a commit left it. -/
theorem Sys.Shape.origin {a : Action} {task : Task} (shape : s.Shape a s')
    (holding : s'.task? j = some task) :
    s.task? j = some task ∨
      (∃ seen seenPos books now row, a = .claim j seen seenPos books now ∧
        task = .claimed seen.id s.claims ∧ s.db.triggers.get? seen.id = some row ∧
        row.status = .pending ∧ s'.claims = s.claims + 1 ∧ s'.portions = s.portions) ∨
      (∃ portions, s.Loads j task portions) ∨
      ∃ task' x, s.task? j = some task' ∧ task'.txn = some (x, some task) := by
  cases shape with
  | promote | create | idle => exact Or.inl holding
  | claim selected unused found pending =>
      rw [Sys.task?_setTask] at holding
      split at holding
      case isTrue same =>
        subst same
        cases holding
        exact Or.inr (Or.inl ⟨_, _, _, _, _, rfl, rfl, found, pending, rfl, rfl⟩)
      case isFalse => exact Or.inl holding
  | load loads =>
      rw [Sys.task?_setTask] at holding
      split at holding
      case isTrue same =>
        subst same
        cases holding
        exact Or.inr (Or.inr (Or.inl ⟨_, loads⟩))
      case isFalse => exact Or.inl holding
  | commit committed writes =>
      rw [Sys.task?_goOn] at holding
      split at holding
      case isTrue same =>
        subst same
        subst holding
        exact Or.inr (Or.inr (Or.inr ⟨_, _, committed, writes⟩))
      case isFalse => exact Or.inl holding
  | drop =>
      rw [Sys.task?_erase] at holding
      split at holding
      case isTrue => cases holding
      case isFalse => exact Or.inl holding

/-- A task after a step was there before, was just loaded, or follows without a load. -/
theorem Sys.Shape.task {a : Action} {task : Task} (shape : s.Shape a s')
    (holding : s'.task? j = some task) :
    s.task? j = some task ∨ (∃ portions, s.Loads j task portions) ∨ task.Follows := by
  rcases shape.origin holding with
    before | ⟨seen, _, _, _, _, -, rfl, -⟩ | loads | ⟨_, _, -, writes⟩
  · exact Or.inl before
  · exact Or.inr (Or.inr (.claimed seen.id s.claims))
  · exact Or.inr (Or.inl loads)
  · exact Or.inr (Or.inr (Task.txn_follows writes))

end Avalant
