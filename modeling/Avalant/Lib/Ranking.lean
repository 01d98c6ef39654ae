import Mathlib.Data.List.Sort

/-!
The first rows of a list that is sorted by a rank, highest first.

Sorting may leave rows of one rank in any order, so the first rows are a
relation, not a function.
-/

namespace Ranking

variable {α β : Type*} [LinearOrder β] {n : Nat} {rank : α → β} {rows top : List α}

/-- The first `n` of the rows, after sorting. -/
def Top (n : Nat) (rank : α → β) (rows top : List α) : Prop :=
  ∃ sorted : List α, sorted.Perm rows ∧ sorted.Pairwise (fun a b => rank b ≤ rank a) ∧
    top = sorted.take n

theorem exists_top (n : Nat) (rank : α → β) (rows : List α) : ∃ top, Top n rank rows top := by
  have transitive : ∀ a b c : α, decide (rank b ≤ rank a) = true →
      decide (rank c ≤ rank b) = true → decide (rank c ≤ rank a) = true :=
    fun a b c first second => decide_eq_true
      ((of_decide_eq_true second).trans (of_decide_eq_true first))
  have total : ∀ a b : α, (decide (rank b ≤ rank a) || decide (rank a ≤ rank b)) = true := by
    intro a b
    simpa using le_total (rank b) (rank a)
  have sorted := List.pairwise_mergeSort transitive total rows
  exact ⟨_, _, List.mergeSort_perm rows _, sorted.imp of_decide_eq_true, rfl⟩

theorem Top.length_eq (given : Top n rank rows top) : top.length = min n rows.length := by
  obtain ⟨sorted, perm, -, rfl⟩ := given
  rw [List.length_take, perm.length_eq]

theorem Top.subset (given : Top n rank rows top) : top ⊆ rows := by
  obtain ⟨sorted, perm, -, rfl⟩ := given
  exact fun row member => perm.subset (List.mem_of_mem_take member)

/-- A row that is left out has no higher rank than one that is not. -/
theorem Top.rank_le {row row' : α} (given : Top n rank rows top) (member : row ∈ rows)
    (out : row ∉ top) (inside : row' ∈ top) : rank row ≤ rank row' := by
  obtain ⟨sorted, perm, highest, rfl⟩ := given
  have split := List.take_append_drop n sorted
  rw [← split] at highest
  have somewhere : row ∈ sorted := perm.symm.subset member
  rw [← split, List.mem_append] at somewhere
  exact (List.pairwise_append.mp highest).2.2 row' inside row (somewhere.resolve_left out)

end Ranking
