import Mathlib.Logic.Basic

/-!
A database transaction whose statements may fail.

A statement that fails aborts the transaction: from then on every statement of it fails, and so does
its commit, until it is rolled back. A caller that catches the failures and goes on gets nothing
more committed, so what is committed in the end depends on where the first failure lies between the
commits.
-/

namespace Relational

/-- What is committed, what the transaction has made of it, and whether a statement has failed. -/
structure UnitOfWork (σ : Type*) where
  committed : σ
  working : σ
  aborted : Bool

namespace UnitOfWork

variable {σ : Type*}

/-- A transaction that has done nothing yet. -/
def begin_ (s : σ) : UnitOfWork σ := ⟨s, s, false⟩

/-- A statement, which may fail. -/
def statement (u : UnitOfWork σ) (fails : Bool) (write : σ → σ) : UnitOfWork σ :=
  if u.aborted || fails then { u with aborted := true } else { u with working := write u.working }

/-- Statements that read, one after the other. -/
def queries {ι : Type*} (u : UnitOfWork σ) (fails : ι → Bool) (steps : List ι) : UnitOfWork σ :=
  steps.foldl (fun u step => u.statement (fails step) fun s => s) u

def commit (u : UnitOfWork σ) (fails : Bool) : UnitOfWork σ :=
  if u.aborted || fails then { u with aborted := true } else { u with committed := u.working }

variable {ι : Type*} (u : UnitOfWork σ) (fails : Bool) (write : σ → σ)

/-! ## What each of them leaves -/

@[simp] theorem statement_committed : (u.statement fails write).committed = u.committed := by
  unfold statement
  split <;> rfl

@[simp] theorem statement_aborted :
    (u.statement fails write).aborted = (u.aborted || fails) := by
  unfold statement
  split
  case isTrue failed => exact failed.symm
  case isFalse fine =>
    rw [Bool.not_eq_true] at fine
    rw [fine]
    exact (Bool.or_eq_false_iff.mp fine).1

theorem statement_working :
    (u.statement fails write).working =
      if u.aborted || fails then u.working else write u.working := by
  unfold statement
  split <;> rfl

/-- Reading leaves everything, but for a failure. -/
theorem queries_eq (fails : ι → Bool) (steps : List ι) :
    u.queries fails steps = { u with aborted := u.aborted || steps.any fails } := by
  induction steps generalizing u with
  | nil =>
      rw [List.any_nil, Bool.or_false]
      rfl
  | cons step steps ih =>
      have first : u.statement (fails step) (fun s => s) =
          { u with aborted := u.aborted || fails step } := by
        unfold statement
        split
        case isTrue failed => rw [failed]
        case isFalse fine =>
          rw [Bool.not_eq_true] at fine
          rw [fine, ← (Bool.or_eq_false_iff.mp fine).1]
      have rest := ih (u.statement (fails step) fun s => s)
      refine Eq.trans rest ?_
      rw [first, List.any_cons, Bool.or_assoc]

@[simp] theorem queries_committed (fails : ι → Bool) (steps : List ι) :
    (u.queries fails steps).committed = u.committed := by
  rw [queries_eq]

@[simp] theorem queries_working (fails : ι → Bool) (steps : List ι) :
    (u.queries fails steps).working = u.working := by
  rw [queries_eq]

@[simp] theorem queries_aborted (fails : ι → Bool) (steps : List ι) :
    (u.queries fails steps).aborted = (u.aborted || steps.any fails) := by
  rw [queries_eq]

theorem commit_committed :
    (u.commit fails).committed = if u.aborted || fails then u.committed else u.working := by
  unfold commit
  split <;> rfl

@[simp] theorem commit_working : (u.commit fails).working = u.working := by
  unfold commit
  split <;> rfl

@[simp] theorem commit_aborted : (u.commit fails).aborted = (u.aborted || fails) := by
  unfold commit
  split
  case isTrue failed => exact failed.symm
  case isFalse fine =>
    rw [Bool.not_eq_true] at fine
    rw [fine]
    exact (Bool.or_eq_false_iff.mp fine).1

end UnitOfWork

end Relational
