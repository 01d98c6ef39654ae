import Mathlib.Data.List.Sort

/-!
What a sort gives: the middle of a sorted list, and the first of it that passes a test.
-/

namespace Go

/-- `sort.Slice`. Elements of which neither is less come in any order. -/
structure SortSlice {α : Type*} (less : α → α → Prop) where
  sort : List α → List α
  perm : ∀ xs, (sort xs).Perm xs
  sorted : ∀ xs, (sort xs).Pairwise fun x y => ¬less y x

/-- The stable one. -/
def SortSlice.stable {α β : Type*} [LinearOrder β] (key : α → β) :
    SortSlice fun x y : α => key y < key x where
  sort xs := xs.insertionSort fun x y => key y ≤ key x
  perm xs := List.perm_insertionSort _ xs
  sorted xs := by
    have trans : IsTrans α fun x y => key y ≤ key x := ⟨fun _ _ _ above below => below.trans above⟩
    have total : Std.Total fun x y : α => key y ≤ key x := ⟨fun x y => le_total (key y) (key x)⟩
    exact (List.pairwise_insertionSort _ xs).imp not_lt.mpr

end Go

namespace Sorted

variable {α : Type*} {r : α → α → Prop} {p : α → Bool} {xs front back : List α} {x y : α}

/-- The middle is between two of a strict majority, wherever the others are. -/
theorem middle_of_majority (sorted : (front ++ y :: back).Pairwise r)
    (convex : ∀ x z, r x y → r y z → p x = true → p z = true → p y = true)
    (middle : front.length = (front ++ y :: back).length / 2)
    (majority : (front ++ y :: back).length < 2 * (front ++ y :: back).countP p) : p y = true := by
  by_contra outside
  have before : front.countP p ≤ front.length := List.countP_le_length
  have after : back.countP p ≤ back.length := List.countP_le_length
  simp only [List.countP_append, List.countP_cons, outside, List.length_append,
    List.length_cons] at middle majority
  have some_before : 0 < front.countP p := by grind
  have some_after : 0 < back.countP p := by grind
  rcases List.countP_pos_iff.mp some_before with ⟨x, x_mem, px⟩
  rcases List.countP_pos_iff.mp some_after with ⟨z, z_mem, pz⟩
  rcases List.pairwise_append.mp sorted with ⟨-, right, across⟩
  have below : r x y := across x x_mem y List.mem_cons_self
  have above : r y z := (List.pairwise_cons.mp right).1 z z_mem
  exact outside (convex x z below above px pz)

theorem getElem_middle_of_majority (sorted : xs.Pairwise r)
    (convex : ∀ x y z, r x y → r y z → p x = true → p z = true → p y = true)
    (middle : xs[xs.length / 2]? = some y) (majority : xs.length < 2 * xs.countP p) :
    p y = true := by
  obtain ⟨inside, here⟩ := List.getElem?_eq_some_iff.mp middle
  have split : xs.take (xs.length / 2) ++ y :: xs.drop (xs.length / 2 + 1) = xs := by
    rw [← here, ← List.drop_eq_getElem_cons inside, List.take_append_drop]
  have parts_sorted : (xs.take (xs.length / 2) ++ y :: xs.drop (xs.length / 2 + 1)).Pairwise r := by
    rwa [split]
  have parts_middle : (xs.take (xs.length / 2)).length =
      (xs.take (xs.length / 2) ++ y :: xs.drop (xs.length / 2 + 1)).length / 2 := by
    rw [split, List.length_take]
    omega
  refine middle_of_majority parts_sorted (fun x z => convex x y z) parts_middle ?_
  rwa [split]

/-- Nothing that passes the test stands before the first that does. -/
theorem first_of_find? (sorted : xs.Pairwise r) (found : xs.find? p = some y) (member : x ∈ xs)
    (passes : p x = true) : x = y ∨ r y x := by
  rcases List.find?_eq_some_iff_append.mp found with ⟨-, front, back, rfl, failed⟩
  rcases List.mem_append.mp member with early | late
  · have fails := failed x early
    rw [passes] at fails
    cases fails
  · rcases List.mem_cons.mp late with rfl | later
    · exact Or.inl rfl
    · exact Or.inr ((List.pairwise_cons.mp (List.pairwise_append.mp sorted).2.1).1 x later)

end Sorted
