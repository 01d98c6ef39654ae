import Mathlib.Data.List.Basic

/-!
A loop over a list that keeps a state and emits results on the way.

What is emitted over a list is what is emitted over its first part, followed by what the rest emits
from the state in between. Two states that a relation of the step holds between emit the same over
every list.
-/

namespace Transducer

variable {σ α β : Type*} (step : σ → α → σ × List β)

/-- The state at the end of a list. -/
def final : σ → List α → σ
  | s, [] => s
  | s, a :: as => final (step s a).1 as

/-- What is emitted over a list. -/
def output : σ → List α → List β
  | _, [] => []
  | s, a :: as => (step s a).2 ++ output (step s a).1 as

variable {step}

theorem final_append (s : σ) (as bs : List α) :
    final step s (as ++ bs) = final step (final step s as) bs := by
  induction as generalizing s with
  | nil => rfl
  | cons a as ih => exact ih (step s a).1

theorem output_append (s : σ) (as bs : List α) :
    output step s (as ++ bs) = output step s as ++ output step (final step s as) bs := by
  induction as generalizing s with
  | nil => rfl
  | cons a as ih =>
      change (step s a).2 ++ output step (step s a).1 (as ++ bs) = _
      rw [ih, ← List.append_assoc]
      rfl

/-- What is emitted up to a point stays when the list goes on. -/
theorem output_prefix (s : σ) {as bs : List α} {b : β} (emitted : b ∈ output step s as) :
    b ∈ output step s (as ++ bs) := by
  rw [output_append]
  exact List.mem_append_left _ emitted

/-- An invariant of the step holds at the end. -/
theorem final_invariant {I : σ → Prop} (keeps : ∀ s a, I s → I (step s a).1) {s : σ}
    (initially : I s) (as : List α) : I (final step s as) := by
  induction as generalizing s with
  | nil => exact initially
  | cons a as ih => exact ih (keeps s a initially)

/-- A property of what one step emits, for whatever is emitted. -/
theorem forall_output {I : σ → Prop} {P : β → Prop} (keeps : ∀ s a, I s → I (step s a).1)
    (emits : ∀ s a, I s → ∀ b ∈ (step s a).2, P b) {s : σ} (initially : I s) {as : List α} {b : β}
    (emitted : b ∈ output step s as) : P b := by
  induction as generalizing s with
  | nil => cases emitted
  | cons a as ih =>
      rcases List.mem_append.mp emitted with now | later
      · exact emits s a initially b now
      · exact ih (keeps s a initially) later

/-- States that steps cannot tell apart emit the same. -/
theorem output_eq_of_alike {R : σ → σ → Prop}
    (alike : ∀ s s' a, R s s' → (step s a).2 = (step s' a).2 ∧ R (step s a).1 (step s' a).1)
    {s s' : σ} (related : R s s') (as : List α) : output step s as = output step s' as := by
  induction as generalizing s s' with
  | nil => rfl
  | cons a as ih =>
      obtain ⟨same, next⟩ := alike s s' a related
      change (step s a).2 ++ output step (step s a).1 as =
        (step s' a).2 ++ output step (step s' a).1 as
      rw [same, ih next]

end Transducer
