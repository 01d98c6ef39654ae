import Mathlib.Logic.Relation

/-!
Runs of a partial step function under a guard.

A system is a partial function `step : σ → α → Option σ`: `none` says the action
is not enabled. A guard `ok : σ → α → Prop` restricts which enabled actions a run
may take, so one system gives both the unrestricted runs (`fun _ _ => True`)
and the runs in which a named hazard does not occur.

The invariant rules below are the only inductions over runs; a safety proof
supplies what one step preserves.
-/

namespace Transition

variable {σ α : Type*}

/-- One enabled action that the guard admits. -/
def GuardedStep (step : σ → α → Option σ) (ok : σ → α → Prop) (s s' : σ) : Prop :=
  ∃ a, ok s a ∧ step s a = some s'

/-- Finitely many admitted steps. -/
def Run (step : σ → α → Option σ) (ok : σ → α → Prop) : σ → σ → Prop :=
  Relation.ReflTransGen (GuardedStep step ok)

variable {step : σ → α → Option σ} {ok : σ → α → Prop}

theorem Run.refl (s : σ) : Run step ok s s := Relation.ReflTransGen.refl

theorem Run.trans {s s' s'' : σ} (first : Run step ok s s') (second : Run step ok s' s'') :
    Run step ok s s'' :=
  Relation.ReflTransGen.trans first second

theorem Run.tail {s s' s'' : σ} {a : α} (run : Run step ok s s') (admitted : ok s' a)
    (stepped : step s' a = some s'') : Run step ok s s'' :=
  Relation.ReflTransGen.tail run ⟨a, admitted, stepped⟩

/-- A weaker guard admits every run of a stronger one. -/
theorem Run.mono {ok' : σ → α → Prop} (weaker : ∀ s a, ok s a → ok' s a) {s s' : σ}
    (run : Run step ok s s') : Run step ok' s s' :=
  Relation.ReflTransGen.mono
    (fun _ _ ⟨a, admitted, stepped⟩ => ⟨a, weaker _ a admitted, stepped⟩) _ _ run

/-- `I` is kept by every admitted step. -/
def Preserves (step : σ → α → Option σ) (ok : σ → α → Prop) (I : σ → Prop) : Prop :=
  ∀ ⦃s a s'⦄, I s → ok s a → step s a = some s' → I s'

/-- Invariant rule: what every admitted step keeps, every run keeps. -/
theorem Run.invariant {I : σ → Prop} (preserved : Preserves step ok I) {s s' : σ}
    (run : Run step ok s s') (initially : I s) : I s' := by
  induction run with
  | refl => exact initially
  | tail _ last ih =>
      obtain ⟨a, admitted, stepped⟩ := last
      exact preserved ih admitted stepped

/-- Two invariants, the second proved with the help of the first. -/
theorem Preserves.and {I J : σ → Prop} (first : Preserves step ok I)
    (second : ∀ ⦃s a s'⦄, I s → J s → ok s a → step s a = some s' → J s') :
    Preserves step ok fun s => I s ∧ J s :=
  fun _ _ _ both admitted stepped =>
    ⟨first both.1 admitted stepped, second both.1 both.2 admitted stepped⟩

/-- Stability rule: under an invariant `I`, a property that no admitted step falsifies
holds at the end of every run that starts with it. -/
theorem Run.stable {I P : σ → Prop} (preserved : Preserves step ok I)
    (stable : ∀ ⦃s a s'⦄, I s → P s → ok s a → step s a = some s' → P s')
    {s s' : σ} (run : Run step ok s s') (invariant : I s) (holds : P s) : P s' :=
  (run.invariant (preserved.and stable) ⟨invariant, holds⟩).2

/-! ## Executable runs -/

/-- Run a list of actions; `none` as soon as one is not enabled. -/
def exec (step : σ → α → Option σ) : σ → List α → Option σ
  | s, [] => some s
  | s, a :: as => (step s a).bind fun s' => exec step s' as

theorem exec_append (s : σ) (as bs : List α) :
    exec step s (as ++ bs) = (exec step s as).bind fun s' => exec step s' bs := by
  induction as generalizing s with
  | nil => rfl
  | cons a as ih =>
      change ((step s a).bind fun s' => exec step s' (as ++ bs)) =
        ((step s a).bind fun s' => exec step s' as).bind fun s' => exec step s' bs
      rw [Option.bind_assoc]
      exact congrArg (Option.bind (step s a)) (funext ih)

/-- Run a list of actions, stopping with `none` at the first one the guard refuses. -/
def execGuarded (step : σ → α → Option σ) (ok : σ → α → Prop) [∀ s a, Decidable (ok s a)] :
    σ → List α → Option σ
  | s, [] => some s
  | s, a :: as =>
      if ok s a then (step s a).bind fun s' => execGuarded step ok s' as else none

theorem Run.of_execGuarded [∀ s a, Decidable (ok s a)] {s s' : σ} {as : List α}
    (executed : execGuarded step ok s as = some s') : Run step ok s s' := by
  induction as generalizing s with
  | nil =>
      cases executed
      exact Run.refl _
  | cons a as ih =>
      simp only [execGuarded] at executed
      split at executed
      case isTrue admitted =>
        obtain ⟨middle, stepped, rest⟩ := Option.bind_eq_some_iff.mp executed
        exact ((Run.refl s).tail admitted stepped).trans (ih rest)
      case isFalse => cases executed

/-- Where every action is enabled, a run is a fold. -/
theorem exec_total (f : σ → α → σ) (s : σ) (as : List α) :
    exec (fun s a => some (f s a)) s as = some (as.foldl f s) := by
  induction as generalizing s with
  | nil => rfl
  | cons a as ih => exact ih (f s a)

/-- A view of the state on which some of the actions are steps of their own, and the others leave
it. -/
theorem exec_filterMap {τ β : Type*} (step' : τ → β → Option τ) (view : σ → τ) (read : α → Option β)
    {ok : α → Prop}
    (acts : ∀ s a s' b, ok a → step s a = some s' → read a = some b →
      step' (view s) b = some (view s'))
    (leaves : ∀ s a s', ok a → step s a = some s' → read a = none → view s' = view s) {s s' : σ}
    {as : List α} (admitted : ∀ a ∈ as, ok a) (executed : exec step s as = some s') :
    exec step' (view s) (as.filterMap read) = some (view s') := by
  induction as generalizing s with
  | nil =>
      cases executed
      rfl
  | cons a as ih =>
      rcases Option.bind_eq_some_iff.mp executed with ⟨middle, stepped, rest⟩
      have first := admitted a List.mem_cons_self
      have later := ih (fun a' here => admitted a' (List.mem_cons_of_mem a here)) rest
      cases known : read a with
      | none =>
          rw [List.filterMap_cons_none known, ← leaves s a middle first stepped known]
          exact later
      | some b =>
          rw [List.filterMap_cons_some known]
          exact Option.bind_eq_some_iff.mpr
            ⟨view middle, acts s a middle b first stepped known, later⟩

/-- A guard that looks at the actions alone. -/
theorem Run.of_exec_of_forall {s s' : σ} {as : List α} (admitted : ∀ a ∈ as, ∀ s, ok s a)
    (executed : exec step s as = some s') : Run step ok s s' := by
  induction as generalizing s with
  | nil =>
      cases executed
      exact Run.refl _
  | cons a as ih =>
      obtain ⟨middle, stepped, rest⟩ := Option.bind_eq_some_iff.mp executed
      have first := (Run.refl s).tail (admitted a List.mem_cons_self s) stepped
      exact first.trans (ih (fun a' later => admitted a' (List.mem_cons_of_mem _ later)) rest)

theorem Run.of_exec {s s' : σ} {as : List α} (executed : exec step s as = some s') :
    Run step (fun _ _ => True) s s' :=
  Run.of_exec_of_forall (fun _ _ _ => trivial) executed

/-- A list of actions split in two: the state in between, and the run to and from it. -/
theorem Run.split_exec {β : Type*} {s : σ} {as bs : List α} {read : σ → Option β} {b : β}
    (executed : ((exec step s (as ++ bs)).bind read) = some b) :
    ∃ middle last, exec step s as = some middle ∧ exec step middle bs = some last ∧
      Run step (fun _ _ => True) s middle ∧ Run step (fun _ _ => True) middle last ∧
      read last = some b := by
  obtain ⟨last, whole, readLast⟩ := Option.bind_eq_some_iff.mp executed
  rw [exec_append] at whole
  obtain ⟨middle, first, second⟩ := Option.bind_eq_some_iff.mp whole
  exact ⟨middle, last, first, second, Run.of_exec first, Run.of_exec second, readLast⟩

end Transition
