import Mathlib.Data.List.Basic
import Mathlib.Order.Basic
import Mathlib.Algebra.Order.Ring.Rat

/-!
Rows in the order of their times, rows of one time in the order they came in.

This is what a table gives when it is read in the order of a time column. Reading the rows from a
time on gives a suffix, and selecting rows by anything else goes with inserting them.
-/

namespace Relational

/-- Rows in the order of time. -/
structure Timeline {α : Type*} (time : α → ℚ) where
  rows : List α
  ordered : rows.Pairwise fun a b => time a ≤ time b

namespace Timeline

variable {α : Type*} {time : α → ℚ}

def empty : Timeline time := ⟨[], List.Pairwise.nil⟩

/-- Where a new row comes among the rows. -/
def insertRow (time : α → ℚ) (rows : List α) (row : α) : List α :=
  rows.filter (fun old => time old ≤ time row) ++
    row :: rows.filter (fun old => time row < time old)

theorem insertRow_ordered {rows : List α} (ordered : rows.Pairwise fun a b => time a ≤ time b)
    (row : α) : (insertRow time rows row).Pairwise fun a b => time a ≤ time b := by
  refine List.pairwise_append.mpr ⟨ordered.filter _, List.pairwise_cons.mpr ⟨?_, ordered.filter _⟩,
    fun before early after late => ?_⟩
  · intro after late
    have past : time row < time after := by simpa using (List.mem_filter.mp late).2
    exact past.le
  · have first : time before ≤ time row := by simpa using (List.mem_filter.mp early).2
    rcases List.mem_cons.mp late with same | past
    · rw [same]
      exact first
    · have second : time row < time after := by simpa using (List.mem_filter.mp past).2
      exact first.trans second.le

def insert (t : Timeline time) (row : α) : Timeline time :=
  ⟨insertRow time t.rows row, insertRow_ordered t.ordered row⟩

def insertAll (t : Timeline time) (rows : List α) : Timeline time :=
  rows.foldl insert t

/-- The rows from a time on. -/
def since (time : α → ℚ) (rows : List α) (cutoff : ℚ) : List α :=
  rows.filter fun row => cutoff ≤ time row

/-- Rows in the order of time, split where a test that only time decides turns true. -/
theorem split_late {rows : List α} (ordered : rows.Pairwise fun a b => time a ≤ time b)
    (late : α → Bool) (stays : ∀ a b, time a ≤ time b → late a = true → late b = true) :
    rows = rows.filter (fun row => !late row) ++ rows.filter late := by
  induction rows with
  | nil => rfl
  | cons row rows ih =>
      obtain ⟨first, rest⟩ := List.pairwise_cons.mp ordered
      cases turned : late row with
      | false =>
          rw [List.filter_cons_of_pos (by rw [turned]; rfl),
            List.filter_cons_of_neg (by rw [turned]; exact Bool.false_ne_true), List.cons_append,
            ← ih rest]
      | true =>
          have every : ∀ other ∈ row :: rows, late other = true := by
            intro other member
            rcases List.mem_cons.mp member with rfl | later
            · exact turned
            · exact stays row other (first other later) turned
          have none : (row :: rows).filter (fun row => !late row) = [] :=
            List.filter_eq_nil_iff.mpr fun other member => by simp [every other member]
          rw [none, List.filter_eq_self.mpr every, List.nil_append]

/-- A later time leaves a suffix of what an earlier one leaves. -/
theorem since_suffix {rows : List α} (ordered : rows.Pairwise fun a b => time a ≤ time b)
    {cutoff later : ℚ} (past : cutoff ≤ later) :
    ∃ dropped, since time rows cutoff = dropped ++ since time rows later := by
  have again : (since time rows cutoff).filter (fun row => later ≤ time row) =
      since time rows later := by
    unfold since
    rw [List.filter_filter]
    refine List.filter_congr fun row _ => ?_
    by_cases late : later ≤ time row
    · simp [late, past.trans late]
    · simp [late]
  have split := split_late (ordered.filter fun row => cutoff ≤ time row)
    (fun row => later ≤ time row) fun a b after late => by
      simpa using le_trans (by simpa using late) after
  rw [← again]
  exact ⟨_, split⟩

/-- Selecting rows, and inserting one. -/
theorem filter_insertRow {rows : List α} (ordered : rows.Pairwise fun a b => time a ≤ time b)
    (p : α → Bool) (row : α) :
    (insertRow time rows row).filter p =
      if p row then insertRow time (rows.filter p) row else rows.filter p := by
  have swap : ∀ q : α → Bool, (rows.filter q).filter p = (rows.filter p).filter q := by
    intro q
    rw [List.filter_filter, List.filter_filter]
    exact List.filter_congr fun _ _ => Bool.and_comm _ _
  unfold insertRow
  rw [List.filter_append, swap]
  cases chosen : p row with
  | true => rw [List.filter_cons_of_pos chosen, swap, if_pos rfl]
  | false =>
      have split := split_late (ordered.filter p) (fun old => time row < time old)
        fun a b after late => by simpa using lt_of_lt_of_le (by simpa using late) after
      have early : (rows.filter p).filter (fun old => !decide (time row < time old)) =
          (rows.filter p).filter (fun old => time old ≤ time row) :=
        List.filter_congr fun old _ => by rw [← decide_not, decide_eq_decide, not_lt]
      rw [List.filter_cons_of_neg (by rw [chosen]; exact Bool.false_ne_true), swap,
        if_neg Bool.false_ne_true, ← early]
      exact split.symm

/-- Selecting rows, and inserting many. -/
theorem filter_insertAll (t t' : Timeline time) {p : α → Bool} (same : t.rows.filter p = t'.rows)
    (rows : List α) : (t.insertAll rows).rows.filter p = (t'.insertAll (rows.filter p)).rows := by
  induction rows generalizing t t' with
  | nil => exact same
  | cons row rows ih =>
      have inserted := filter_insertRow t.ordered p row
      rw [same] at inserted
      cases chosen : p row with
      | true =>
          rw [chosen, if_pos rfl] at inserted
          rw [List.filter_cons_of_pos chosen]
          exact ih (t.insert row) (t'.insert row) inserted
      | false =>
          rw [chosen, if_neg Bool.false_ne_true] at inserted
          rw [List.filter_cons_of_neg (by rw [chosen]; exact Bool.false_ne_true)]
          exact ih (t.insert row) t' inserted

end Timeline

end Relational
