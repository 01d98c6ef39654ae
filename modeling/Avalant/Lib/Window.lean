import Mathlib.Algebra.Order.Group.Defs
import Mathlib.Algebra.Order.Group.Unbundled.Basic
import Mathlib.Data.List.Count
import Mathlib.Order.Lattice

/-!
How many events of a log are in an interval of some length, wherever it lies.

A log keeps a bound on every interval when each event that is added finds fewer younger ones, looking
back by the length.
-/

namespace Window

/-! ## Counts -/

/-- What counts for one of two reasons is counted at least once by them. -/
theorem countP_le_add {α : Type*} {p q r : α → Bool} {l : List α}
    (reason : ∀ a ∈ l, p a = true → q a = true ∨ r a = true) :
    l.countP p ≤ l.countP q + l.countP r := by
  induction l with
  | nil => simp
  | cons a l ih =>
      have rest := ih fun b member => reason b (List.mem_cons_of_mem a member)
      have head := reason a List.mem_cons_self
      simp only [List.countP_cons]
      split
      case isTrue counted =>
        rcases head counted with first | second
        · rw [if_pos first]
          omega
        · rw [if_pos second]
          omega
      case isFalse => omega

/-! ## Events after a time -/

section

variable {T : Type*} [LinearOrder T]

/-- The events after a time. -/
def countSince (cutoff : T) (times : List T) : ℕ := times.countP fun t => cutoff < t

theorem countSince_append (cutoff : T) (times times' : List T) :
    countSince cutoff (times ++ times') = countSince cutoff times + countSince cutoff times' :=
  List.countP_append

theorem countSince_le_of_sublist {times times' : List T} (sub : times.Sublist times') (cutoff : T) :
    countSince cutoff times ≤ countSince cutoff times' :=
  sub.countP_le

theorem countSince_eq_zero {times : List T} {cutoff : T} (before : ∀ t ∈ times, t ≤ cutoff) :
    countSince cutoff times = 0 :=
  List.countP_eq_zero.mpr fun t member => by simpa using before t member

/-- Dropping what is not after an earlier time does not show. -/
theorem countSince_filter {cutoff earlier : T} (le : earlier ≤ cutoff) (times : List T) :
    countSince cutoff (times.filter fun t => earlier < t) = countSince cutoff times := by
  unfold countSince
  rw [List.countP_filter]
  refine List.countP_congr fun t _ => ?_
  simp only [Bool.and_eq_true, decide_eq_true_eq]
  exact ⟨And.left, fun after => ⟨after, le.trans_lt after⟩⟩

end

/-! ## Intervals -/

section

variable {T : Type*} [AddCommGroup T] [LinearOrder T]

/-- The events in the interval of a length that begins at a time. -/
def countIn (start length : T) (times : List T) : ℕ :=
  times.countP fun t => start ≤ t ∧ t < start + length

/-- At most so many events are in any interval of a length. -/
def Bounded (most : ℕ) (length : T) (times : List T) : Prop :=
  ∀ start, countIn start length times ≤ most

theorem bounded_nil (most : ℕ) (length : T) : Bounded most length [] := fun _ => Nat.zero_le most

variable [IsOrderedAddMonoid T]

theorem Bounded.concat {most : ℕ} {length t : T} {times : List T} (bounded : Bounded most length times)
    (fewer : countSince (t - length) times < most) : Bounded most length (times ++ [t]) := by
  intro start
  have split : countIn start length (times ++ [t]) =
      countIn start length times + countIn start length [t] := List.countP_append
  rw [split]
  by_cases inside : start ≤ t ∧ t < start + length
  · have younger : countIn start length times ≤ countSince (t - length) times := by
      refine List.countP_mono_left fun t' _ counted => ?_
      simp only [decide_eq_true_eq] at counted ⊢
      exact (sub_lt_iff_lt_add.mpr inside.2).trans_le counted.1
    have one : countIn start length [t] ≤ 1 := List.countP_le_length
    omega
  · have outside : countIn start length [t] = 0 := by
      refine List.countP_eq_zero.mpr fun t' member => ?_
      rw [List.mem_singleton.mp member]
      simpa using inside
    rw [outside, Nat.add_zero]
    exact bounded start

end

end Window
