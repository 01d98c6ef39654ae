import Avalant.Lib.Run
import Avalant.Lib.Table

/-!
Transactions that share a store, one statement at a time.

A `Program` says with which task a request starts and what a task's next
statement does to the store. A statement sees the store and the other
transactions' tasks, so a row lock is a statement that is not enabled while
another task holds the row. `Pool` is the store and the tasks in flight.

The proof rule is local. A fact of the store, a fact of each task about the
store, and a relation between the tasks in flight are kept by a run when one
statement keeps them; the pool, its table and the numbers of its transactions
do not appear in what is to be shown.
-/

namespace Transition

open Relational

/-- A transaction in flight, and what it has left to do. -/
structure Txn (τ : Type*) where
  id : Nat
  task : τ

instance {τ : Type*} : Keyed (Txn τ) := ⟨Txn.id⟩

@[simp] theorem key_txn {τ : Type*} (txn : Txn τ) : key txn = txn.id := rfl

/-- A store, and the transactions in flight on it. -/
structure Pool (σ τ : Type*) where
  store : σ
  txns : Table (Txn τ) := Table.empty

namespace Pool

variable {σ τ : Type*}

/-- The tasks of the transactions other than `k`. -/
def others (s : Pool σ τ) (k : Nat) : List τ :=
  (s.txns.erase k).rows.map Txn.task

theorem mem_others {s : Pool σ τ} {k : Nat} {task : τ} :
    task ∈ s.others k ↔ ∃ txn ∈ s.txns.rows, txn.id ≠ k ∧ txn.task = task := by
  unfold others
  rw [List.mem_map]
  constructor
  · intro given
    rcases given with ⟨txn, member, rfl⟩
    obtain ⟨stored, other⟩ := Table.mem_rows_erase.mp member
    exact ⟨txn, stored, other, rfl⟩
  · intro given
    rcases given with ⟨txn, stored, other, rfl⟩
    exact ⟨txn, Table.mem_rows_erase.mpr ⟨stored, other⟩, rfl⟩

/-- A store fact, a fact of each task, and a relation between the tasks of two transactions. -/
structure Satisfies (I : σ → Prop) (J : σ → τ → Prop) (C : τ → τ → Prop) (s : Pool σ τ) :
    Prop where
  store : I s.store
  tasks : ∀ txn ∈ s.txns.rows, J s.store txn.task
  pairs : ∀ txn ∈ s.txns.rows, ∀ txn' ∈ s.txns.rows, txn.id ≠ txn'.id → C txn.task txn'.task

theorem satisfies_start {I : σ → Prop} {J : σ → τ → Prop} {C : τ → τ → Prop} {store : σ}
    (holds : I store) : Satisfies I J C { store } := by
  refine ⟨holds, ?_, ?_⟩
  · intro txn member
    cases member
  · intro txn member
    cases member

end Pool

/-- What requests start and statements do. -/
structure Program (σ τ ρ ι : Type*) where
  /-- The first task of a request, or `none` when the request is refused. -/
  start : σ → ρ → Option τ
  /-- A statement under an input: the store it leaves, and the task that remains unless the
  transaction has ended; `none` while it has to wait for one of the others. -/
  next : σ → List τ → ι → τ → Option (σ × Option τ)

/-- What can happen next. -/
inductive Event (ρ ι : Type*)
  | begin_ (k : Nat) (request : ρ)
  | advance (k : Nat) (input : ι)
  deriving DecidableEq, Repr

namespace Program

variable {σ τ ρ ι : Type*} (P : Program σ τ ρ ι)

def step (s : Pool σ τ) : Event ρ ι → Option (Pool σ τ)
  | .begin_ k request =>
      if (s.txns.get? k).isSome then none
      else (P.start s.store request).map fun task => { s with txns := s.txns.insert ⟨k, task⟩ }
  | .advance k input =>
      (s.txns.get? k).bind fun txn =>
        (P.next s.store (s.others k) input txn.task).map fun (store, rest) =>
          match rest with
          | none => ⟨store, s.txns.erase k⟩
          | some task => ⟨store, s.txns.put ⟨k, task⟩⟩

/-- A condition on statements, at a transaction that may be gone. -/
def admits (ok : σ → List τ → ι → τ → Prop) (store : σ) (others : List τ) (input : ι) :
    Option (Txn τ) → Prop
  | none => True
  | some txn => ok store others input txn.task

instance (ok : σ → List τ → ι → τ → Prop)
    [∀ store others input task, Decidable (ok store others input task)] (store : σ)
    (others : List τ) (input : ι) : (txn : Option (Txn τ)) →
      Decidable (admits ok store others input txn)
  | none => inferInstanceAs (Decidable True)
  | some txn => inferInstanceAs (Decidable (ok store others input txn.task))

/-- A condition on statements, as a guard of the program's steps. -/
def guard (ok : σ → List τ → ι → τ → Prop) (s : Pool σ τ) : Event ρ ι → Prop
  | .begin_ _ _ => True
  | .advance k input => admits ok s.store (s.others k) input (s.txns.get? k)

instance (ok : σ → List τ → ι → τ → Prop)
    [∀ store others input task, Decidable (ok store others input task)] (s : Pool σ τ) :
    (a : Event ρ ι) → Decidable (guard ok s a)
  | .begin_ _ _ => inferInstanceAs (Decidable True)
  | .advance _ _ => inferInstanceAs (Decidable (admits _ _ _ _ _))

/-- A weaker condition is a weaker guard. -/
theorem guard_mono {ok ok' : σ → List τ → ι → τ → Prop}
    (within : ∀ store others input task, ok store others input task → ok' store others input task)
    (s : Pool σ τ) (a : Event ρ ι) (admitted : guard ok s a) : guard ok' s a := by
  cases a with
  | begin_ k request => trivial
  | advance k input =>
      change admits ok s.store (s.others k) input (s.txns.get? k) at admitted
      change admits ok' s.store (s.others k) input (s.txns.get? k)
      generalize s.txns.get? k = txn at admitted ⊢
      cases txn with
      | none => trivial
      | some txn => exact within s.store (s.others k) input txn.task admitted

variable {P} {ok : σ → List τ → ι → τ → Prop} {I : σ → Prop} {J : σ → τ → Prop} {C : τ → τ → Prop}

/-- What a request has to establish for its first task. -/
def Starts (P : Program σ τ ρ ι) (I : σ → Prop) (J : σ → τ → Prop) (C : τ → τ → Prop) : Prop :=
  ∀ ⦃store : σ⦄ ⦃request : ρ⦄ ⦃task : τ⦄ ⦃others : List τ⦄, I store → (∀ t ∈ others, J store t) →
    P.start store request = some task → J store task ∧ ∀ t ∈ others, C task t ∧ C t task

/-- What an admitted statement has to keep: the store's fact, the others' facts, and, while the
transaction goes on, the facts of the task that remains. -/
def Keeps (P : Program σ τ ρ ι) (ok : σ → List τ → ι → τ → Prop) (I : σ → Prop)
    (J : σ → τ → Prop) (C : τ → τ → Prop) : Prop :=
  ∀ ⦃store : σ⦄ ⦃others : List τ⦄ ⦃input : ι⦄ ⦃task : τ⦄ ⦃store' : σ⦄ ⦃rest : Option τ⦄,
    ok store others input task → I store → J store task →
    (∀ t ∈ others, J store t ∧ C task t ∧ C t task) →
    P.next store others input task = some (store', rest) →
    I store' ∧ (∀ t ∈ others, J store' t) ∧
      ∀ task', rest = some task' → J store' task' ∧ ∀ t ∈ others, C task' t ∧ C t task'

/-- The tasks after `k` has left, or has gone on with another task. -/
theorem satisfies_put {s : Pool σ τ} {k : Nat} {store' : σ} {task' : τ} (holds : I store')
    (others : ∀ t ∈ s.others k, J store' t) (own : J store' task')
    (apart : ∀ t ∈ s.others k, C task' t ∧ C t task')
    (pairs : ∀ txn ∈ s.txns.rows, ∀ txn' ∈ s.txns.rows, txn.id ≠ txn'.id →
      C txn.task txn'.task) :
    Pool.Satisfies I J C ⟨store', s.txns.put ⟨k, task'⟩⟩ := by
  have split : ∀ txn ∈ (s.txns.put ⟨k, task'⟩).rows, txn = ⟨k, task'⟩ ∨
      (txn ∈ s.txns.rows ∧ txn.task ∈ s.others k) := by
    intro txn member
    rcases Table.mem_rows_put.mp member with rfl | ⟨stored, other⟩
    · exact Or.inl rfl
    · exact Or.inr ⟨stored, Pool.mem_others.mpr ⟨txn, stored, other, rfl⟩⟩
  refine ⟨holds, ?_, ?_⟩
  · intro txn member
    rcases split txn member with rfl | ⟨-, other⟩
    · exact own
    · exact others _ other
  · intro txn member txn' member' distinct
    rcases split txn member with rfl | ⟨stored, other⟩
    · rcases split txn' member' with rfl | ⟨-, other'⟩
      · exact absurd rfl distinct
      · exact (apart _ other').1
    · rcases split txn' member' with rfl | ⟨stored', -⟩
      · exact (apart _ other).2
      · exact pairs txn stored txn' stored' distinct

theorem satisfies_erase {s : Pool σ τ} {k : Nat} {store' : σ} (holds : I store')
    (others : ∀ t ∈ s.others k, J store' t)
    (pairs : ∀ txn ∈ s.txns.rows, ∀ txn' ∈ s.txns.rows, txn.id ≠ txn'.id →
      C txn.task txn'.task) :
    Pool.Satisfies I J C ⟨store', s.txns.erase k⟩ := by
  refine ⟨holds, ?_, ?_⟩
  · intro txn member
    obtain ⟨stored, other⟩ := Table.mem_rows_erase.mp member
    exact others _ (Pool.mem_others.mpr ⟨txn, stored, other, rfl⟩)
  · intro txn member txn' member' distinct
    exact pairs txn (Table.mem_rows_erase.mp member).1 txn' (Table.mem_rows_erase.mp member').1
      distinct

/-- The local rule: what every request starts with and every admitted statement keeps, every
step of the pool keeps. -/
theorem preserves (starts : Starts P I J C) (keeps : Keeps P ok I J C) :
    Preserves P.step (guard ok) (Pool.Satisfies I J C) := by
  intro s a s' sound admitted stepped
  cases a with
  | begin_ k request =>
      simp only [step] at stepped
      split at stepped
      · cases stepped
      case isFalse free =>
        obtain ⟨task, started, rfl⟩ := Option.map_eq_some_iff.mp stepped
        have fresh : s.txns.get? k = none := by simpa using free
        have inFlight : ∀ t ∈ s.others k, J s.store t := by
          intro t member
          obtain ⟨txn, stored, -, rfl⟩ := Pool.mem_others.mp member
          exact sound.tasks txn stored
        obtain ⟨own, apart⟩ := starts sound.store inFlight started
        rw [← Table.put_of_absent fresh]
        exact satisfies_put sound.store inFlight own apart sound.pairs
  | advance k input =>
      obtain ⟨txn, found, done⟩ := Option.bind_eq_some_iff.mp stepped
      obtain ⟨⟨store', rest⟩, moved, rfl⟩ := Option.map_eq_some_iff.mp done
      have stored := Table.mem_of_get? found
      have numbered : txn.id = k := Table.key_of_get? found
      simp only [guard, admits, found] at admitted
      have inFlight : ∀ t ∈ s.others k, J s.store t ∧ C txn.task t ∧ C t txn.task := by
        intro t member
        obtain ⟨txn', stored', other, rfl⟩ := Pool.mem_others.mp member
        have distinct : txn.id ≠ txn'.id := fun same => other (same ▸ numbered)
        exact ⟨sound.tasks txn' stored', sound.pairs txn stored txn' stored' distinct,
          sound.pairs txn' stored' txn stored distinct.symm⟩
      obtain ⟨holds, others, remains⟩ :=
        keeps admitted sound.store (sound.tasks txn stored) inFlight moved
      cases rest with
      | none => exact satisfies_erase holds others sound.pairs
      | some task' =>
          obtain ⟨own, apart⟩ := remains task' rfl
          exact satisfies_put holds others own apart sound.pairs

/-- A step leaves the store, or is an admitted statement of a transaction in flight. -/
theorem step_store {s s' : Pool σ τ} {a : Event ρ ι} (admitted : guard ok s a)
    (stepped : P.step s a = some s') :
    s'.store = s.store ∨ ∃ txn ∈ s.txns.rows, ∃ k input rest,
      ok s.store (s.others k) input txn.task ∧
        P.next s.store (s.others k) input txn.task = some (s'.store, rest) := by
  cases a with
  | begin_ k request =>
      simp only [step] at stepped
      split at stepped
      · cases stepped
      · obtain ⟨task, -, rfl⟩ := Option.map_eq_some_iff.mp stepped
        exact Or.inl rfl
  | advance k input =>
      obtain ⟨txn, found, done⟩ := Option.bind_eq_some_iff.mp stepped
      obtain ⟨⟨store', rest⟩, moved, rfl⟩ := Option.map_eq_some_iff.mp done
      simp only [guard, admits, found] at admitted
      have stored : (match rest with
          | none => (⟨store', s.txns.erase k⟩ : Pool σ τ)
          | some task => ⟨store', s.txns.put ⟨k, task⟩⟩).store = store' := by
        cases rest with
        | none => rfl
        | some task => rfl
      refine Or.inr ⟨txn, Table.mem_of_get? found, k, input, rest, admitted, ?_⟩
      rw [moved]
      exact congrArg (fun store => some (store, rest)) stored.symm

/-- The local rule over runs. -/
theorem run_satisfies (starts : Starts P I J C) (keeps : Keeps P ok I J C) {s s' : Pool σ τ}
    (run : Run P.step (guard ok) s s') (initially : Pool.Satisfies I J C s) :
    Pool.Satisfies I J C s' :=
  run.invariant (preserves starts keeps) initially

theorem guard_true (s : Pool σ τ) (a : Event ρ ι) : guard (fun _ _ _ _ => True) s a := by
  cases a with
  | begin_ k request => trivial
  | advance k input =>
      have all : ∀ txn : Option (Txn τ),
          admits (fun _ _ _ _ => True) s.store (s.others k) input txn := by
        intro txn
        cases txn with
        | none => exact True.intro
        | some txn => exact True.intro
      exact all _

/-- An executed list of events is a run under no condition. -/
theorem run_of_exec {s s' : Pool σ τ} {events : List (Event ρ ι)}
    (executed : exec P.step s events = some s') :
    Run P.step (guard fun _ _ _ _ => True) s s' :=
  (Run.of_exec executed).mono fun s a _ => guard_true s a

end Program

end Transition
