import Avalant.Lib.Run
import Mathlib.Data.List.Chain
import Mathlib.Data.Int.Notation

/-!
Streams of numbered changes over full states.

A receiver keeps a copy. A full state replaces it, and a change is applied to it if its number
follows the last one. What has been accepted is then a full state, or the copy with which the
receiver began, and all changes since, each of which follows the one before.
-/

namespace Numbered

open Transition

inductive Frame (B C : Type*)
  | full (number : ℤ) (state : B)
  | change (number : ℤ) (change : C)

structure Copy (B : Type*) where
  state : B
  last : ℤ

variable {B C : Type*} (apply : B → C → B) (follows : ℤ → ℤ → Prop)

/-- `none` is a change that does not follow. -/
def receive [DecidableRel follows] (copy : Copy B) : Frame B C → Option (Copy B)
  | .full number state => some ⟨state, number⟩
  | .change number change =>
      if follows copy.last number then some ⟨apply copy.state change, number⟩ else none

/-- The copy is what the changes since the last full state make of it, and each follows the one
before. -/
def Traces (frames : List (Frame B C)) (copy : Copy B) : Prop :=
  ∃ (before : List (Frame B C)) (number : ℤ) (state : B) (changes : List (ℤ × C)),
    frames = before ++ .full number state :: changes.map (fun c => .change c.1 c.2) ∧
      (number :: changes.map Prod.fst).IsChain follows ∧
        copy.state = (changes.map Prod.snd).foldl apply state ∧
          (number :: changes.map Prod.fst).getLast? = some copy.last

variable {apply follows} {frames : List (Frame B C)} {copy copy' : Copy B} {number : ℤ}

theorem Traces.full (frames : List (Frame B C)) (number : ℤ) (state : B) :
    Traces apply follows (frames ++ [.full number state]) ⟨state, number⟩ :=
  ⟨frames, number, state, [], rfl, List.isChain_singleton _, rfl, rfl⟩

theorem Traces.change (traces : Traces apply follows frames copy)
    (next : follows copy.last number) (change : C) :
    Traces apply follows (frames ++ [.change number change])
      ⟨apply copy.state change, number⟩ := by
  rcases traces with ⟨before, first, state, changes, rfl, chain, folded, last⟩
  refine ⟨before, first, state, changes ++ [(number, change)], ?_, ?_, ?_, ?_⟩
  · rw [List.map_append, List.append_assoc]
    rfl
  · rw [List.map_append, ← List.cons_append, List.isChain_append]
    refine ⟨chain, List.isChain_singleton _, fun m here n same => ?_⟩
    rw [last] at here
    cases here
    cases same
    exact next
  · rw [List.map_append, List.foldl_append, ← folded]
    rfl
  · rw [List.map_append, ← List.cons_append]
    exact List.getLast?_concat

theorem Traces.receive [DecidableRel follows] (traces : Traces apply follows frames copy)
    {frame : Frame B C} (accepted : receive apply follows copy frame = some copy') :
    Traces apply follows (frames ++ [frame]) copy' := by
  cases frame with
  | full number state =>
      cases accepted
      exact .full frames number state
  | change number change =>
      simp only [Numbered.receive] at accepted
      split at accepted
      case isTrue next =>
        cases accepted
        exact traces.change next change
      case isFalse => cases accepted

/-- What a receiver has accepted, after the copy with which it began. -/
theorem Traces.of_exec [DecidableRel follows] (traces : Traces apply follows frames copy)
    {frames' : List (Frame B C)}
    (accepted : exec (Numbered.receive apply follows) copy frames' = some copy') :
    Traces apply follows (frames ++ frames') copy' := by
  induction frames' generalizing frames copy with
  | nil =>
      cases accepted
      rw [List.append_nil]
      exact traces
  | cons frame frames' ih =>
      rcases Option.bind_eq_some_iff.mp accepted with ⟨middle, first, rest⟩
      have longer := ih (traces.receive first) rest
      rw [List.append_assoc] at longer
      exact longer

/-- The copy with which a receiver begins counts as a full state. -/
theorem traces_of_exec [DecidableRel follows]
    (accepted : exec (receive apply follows) copy frames = some copy') :
    Traces apply follows (.full copy.last copy.state :: frames) copy' :=
  (Traces.full [] copy.last copy.state).of_exec accepted

end Numbered
