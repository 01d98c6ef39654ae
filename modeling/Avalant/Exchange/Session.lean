import Avalant.Gate.Futures
import Avalant.Lib.Numbered

/-!
The frames of one session, and what an adapter emits for them.

The runner calls `OnReconnect` before it dials, and parses frame after frame. `ErrResync` ends the
session: no later frame of the connection is parsed. Adapters that number their deltas keep a last
number with each book, where 0 is no number yet.
-/

namespace Avalant

namespace Exchange

open Gate (Ladders)
open Transition

/-- `ws.Snapshot`. -/
structure Snapshot where
  symbol : String
  depth : Depth
  /-- In milliseconds. -/
  eventTime : Option ℤ

/-- What `Parse` gives the runner. -/
inductive Parsed
  | nothing
  | snapshot (snap : Snapshot)
  /-- `ErrResync`. -/
  | resync

variable {σ μ : Type} (parse : σ → μ → σ × Parsed)

/-- One frame of a session that goes on. -/
def goOn (a : σ) (m : μ) : Option σ :=
  match (parse a m).2 with
  | .nothing | .snapshot _ => some (parse a m).1
  | .resync => none

/-- Of a session that has received these frames, the last one emits the snapshot. -/
def Emits (fresh : σ) (ms : List μ) (snap : Snapshot) : Prop :=
  ∃ before m a, ms = before ++ [m] ∧ exec (goOn parse) fresh before = some a ∧
    (parse a m).2 = .snapshot snap

variable {parse}

theorem goOn_eq_some {a a' : σ} {m : μ} :
    goOn parse a m = some a' ↔ (parse a m).2 ≠ .resync ∧ (parse a m).1 = a' := by
  unfold goOn
  cases (parse a m).2 with
  | nothing => simp
  | snapshot snap => simp
  | resync => simp

/-- The frame that emits goes on, too. -/
theorem Emits.exec {fresh : σ} {ms : List μ} {snap : Snapshot} (emits : Emits parse fresh ms snap) :
    ∃ before m a, ms = before ++ [m] ∧ (parse a m).2 = .snapshot snap ∧
      Transition.exec (goOn parse) fresh ms = some (parse a m).1 := by
  rcases emits with ⟨before, m, a, rfl, executed, emitted⟩
  refine ⟨before, m, a, rfl, emitted, ?_⟩
  have next : goOn parse a m = some (parse a m).1 := by
    refine goOn_eq_some.mpr ⟨?_, rfl⟩
    rw [emitted]
    intro same
    cases same
  rw [exec_append, executed]
  change ((goOn parse a m).bind fun a' => some a') = _
  rw [next]
  rfl

/-! ## Numbered books -/

/-- A snapshot, or a delta that an adapter applies to a book. -/
abbrev BookFrame (C : Type) := Numbered.Frame Ladders C

/-- The snapshot is the last full book of these frames and all deltas since, where one number has
to follow another. -/
def FoldOf {C : Type} (apply : Ladders → C → Ladders) (follows : ℤ → ℤ → Prop)
    (frames : List (BookFrame C)) (snap : Snapshot) : Prop :=
  ∃ copy, Numbered.Traces apply follows frames copy ∧ snap.depth = copy.state.depth

/-- The next number. -/
def Next (last number : ℤ) : Prop :=
  number = last + 1

/-- The next number, or any number after 0. -/
def Follows (last number : ℤ) : Prop :=
  last = 0 ∨ number = last + 1

instance : DecidableRel Follows := fun _ _ => inferInstanceAs (Decidable (_ ∨ _))

/-- The empty book with which a session begins. -/
def opening {C : Type} : BookFrame C := .full 0 ⟨∅, ∅⟩

/-- The check that the adapters make of a delta. -/
theorem not_follows_iff {last number : ℤ} :
    ¬Follows last number ↔ last ≠ 0 ∧ number ≠ last + 1 :=
  not_or

/-- Of an adapter that follows the numbers of each book, what a session has accepted. -/
theorem FoldOf.of_exec {C : Type} {apply : Ladders → C → Ladders} {frames : List (BookFrame C)}
    {copy : Numbered.Copy Ladders} {snap : Snapshot}
    (accepted : Transition.exec (Numbered.receive apply Follows) ⟨⟨∅, ∅⟩, 0⟩ frames = some copy)
    (rendered : snap.depth = copy.state.depth) : FoldOf apply Follows (opening :: frames) snap :=
  ⟨copy, Numbered.traces_of_exec accepted, rendered⟩

end Exchange

end Avalant
