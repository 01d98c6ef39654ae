import Mathlib.Algebra.BigOperators.Group.List.Basic

/-!
Deliveries that may be repeated: the first of each element, and the repetitions.

`firsts seen l` and `repeats seen l` split the deliveries `l` after those of `seen`. What depends
only on the elements, or on the first of them, is the same for all deliveries and for the first
ones; a sum is that of the first ones and that of the repetitions.
-/

namespace Delivery

variable {ι : Type*} [DecidableEq ι]

def firsts (seen : List ι) : List ι → List ι
  | [] => []
  | i :: is => if i ∈ seen then firsts seen is else i :: firsts (i :: seen) is

def repeats (seen : List ι) : List ι → List ι
  | [] => []
  | i :: is => if i ∈ seen then i :: repeats seen is else repeats (i :: seen) is

variable {seen l : List ι} {i : ι}

theorem mem_firsts : i ∈ firsts seen l ↔ i ∈ l ∧ i ∉ seen := by
  induction l generalizing seen with
  | nil => simp [firsts]
  | cons j is ih =>
      unfold firsts
      split
      case isTrue old =>
        rw [ih, List.mem_cons]
        constructor
        · intro both
          exact ⟨Or.inr both.1, both.2⟩
        · intro both
          rcases both with ⟨rfl | later, fresh⟩
          · exact absurd old fresh
          · exact ⟨later, fresh⟩
      case isFalse new =>
        rw [List.mem_cons, ih, List.mem_cons, List.mem_cons]
        constructor
        · intro either
          rcases either with rfl | ⟨later, fresh⟩
          · exact ⟨Or.inl rfl, new⟩
          · exact ⟨Or.inr later, fun old => fresh (Or.inr old)⟩
        · intro both
          rcases both with ⟨rfl | later, fresh⟩
          · exact Or.inl rfl
          · by_cases same : i = j
            · exact Or.inl same
            · exact Or.inr ⟨later, fun either => either.elim same fresh⟩

/-- The first delivery of some elements is the first of them all. -/
theorem head?_filter_firsts {p : ι → Bool} (unseen : ∀ i ∈ seen, p i = false) :
    ((firsts seen l).filter p).head? = (l.filter p).head? := by
  induction l generalizing seen with
  | nil => rfl
  | cons i is ih =>
      unfold firsts
      cases test : p i with
      | true =>
          have new : i ∉ seen := fun old => by
            rw [unseen i old] at test
            cases test
          rw [if_neg new, List.filter_cons_of_pos test, List.filter_cons_of_pos test]
          rfl
      | false =>
          have other : ¬p i = true := by simp [test]
          rw [List.filter_cons_of_neg other]
          split
          · exact ih unseen
          · rw [List.filter_cons_of_neg other]
            refine ih fun j old => ?_
            rcases List.mem_cons.mp old with rfl | old
            · exact test
            · exact unseen j old

theorem sum_filter {M : Type*} [AddCommMonoid M] (p : ι → Bool) (f : ι → M) (seen l : List ι) :
    ((l.filter p).map f).sum =
      (((firsts seen l).filter p).map f).sum + (((repeats seen l).filter p).map f).sum := by
  induction l generalizing seen with
  | nil => simp [firsts, repeats]
  | cons i is ih =>
      unfold firsts repeats
      by_cases old : i ∈ seen
      · rw [if_pos old, if_pos old]
        cases test : p i with
        | true =>
            rw [List.filter_cons_of_pos test, List.filter_cons_of_pos test, List.map_cons,
              List.map_cons, List.sum_cons, List.sum_cons, ih seen, add_left_comm]
        | false =>
            have other : ¬p i = true := by simp [test]
            rw [List.filter_cons_of_neg other, List.filter_cons_of_neg other, ih seen]
      · rw [if_neg old, if_neg old]
        cases test : p i with
        | true =>
            rw [List.filter_cons_of_pos test, List.filter_cons_of_pos test, List.map_cons,
              List.map_cons, List.sum_cons, List.sum_cons, ih (i :: seen), add_assoc]
        | false =>
            have other : ¬p i = true := by simp [test]
            rw [List.filter_cons_of_neg other, List.filter_cons_of_neg other, ih (i :: seen)]

end Delivery
