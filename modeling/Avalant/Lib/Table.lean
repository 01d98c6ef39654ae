import Mathlib.Data.List.Nodup
import Mathlib.Algebra.BigOperators.Group.List.Basic
import Mathlib.Data.List.Dedup

/-!
Keyed tables: a finite list of rows with pairwise distinct primary keys.

The key is read by a class, so a table of any row type can be built. Key
distinctness is a field of the table: every operation below returns a table,
and later proofs never re-prove it. Reads go through `Table.get?`, and each
operation is specified once by its effect on `get?`.
-/

namespace Relational

/-- Rows that carry a numeric primary key. -/
class Keyed (α : Type*) where
  key : α → Nat

export Keyed (key)

/-- Rows with pairwise distinct keys. -/
structure Table (α : Type*) [Keyed α] where
  rows : List α
  nodup : (rows.map key).Nodup

namespace Table

variable {α : Type*} [Keyed α]

/-! ## Reads -/

/-- The row whose key is `k`. -/
def get? (t : Table α) (k : Nat) : Option α :=
  t.rows.find? fun r => key r == k

/-- The rows a `WHERE` clause selects, in table order. -/
def where_ (t : Table α) (p : α → Bool) : List α :=
  t.rows.filter p

theorem get?_eq_some_iff {t : Table α} {k : Nat} {r : α} :
    t.get? k = some r ↔ r ∈ t.rows ∧ key r = k := by
  constructor
  · intro found
    have keyed := List.find?_some found
    exact ⟨List.mem_of_find?_eq_some found, by simpa using keyed⟩
  · intro given
    rcases given with ⟨member, rfl⟩
    cases found : t.get? (key r) with
    | none =>
        have absent := List.find?_eq_none.mp found r member
        simp at absent
    | some r' =>
        have keyed : key r' = key r := by simpa using List.find?_some found
        have same := List.inj_on_of_nodup_map t.nodup
          (List.mem_of_find?_eq_some found) member keyed
        rw [same]

theorem key_of_get? {t : Table α} {k : Nat} {r : α} (found : t.get? k = some r) :
    key r = k :=
  (get?_eq_some_iff.mp found).2

theorem mem_of_get? {t : Table α} {k : Nat} {r : α} (found : t.get? k = some r) :
    r ∈ t.rows :=
  (get?_eq_some_iff.mp found).1

theorem mem_rows_iff {t : Table α} {r : α} : r ∈ t.rows ↔ t.get? (key r) = some r := by
  simp [get?_eq_some_iff]

theorem get?_eq_none_iff {t : Table α} {k : Nat} :
    t.get? k = none ↔ k ∉ t.rows.map key := by
  simp [get?, List.find?_eq_none]

/-- A key above all that are taken. -/
theorem get?_of_below {t : Table α} {n : Nat} (below : ∀ r ∈ t.rows, key r < n) :
    t.get? n = none := by
  refine get?_eq_none_iff.mpr fun taken => ?_
  obtain ⟨r, member, same⟩ := List.mem_map.mp taken
  have less := below r member
  rw [same] at less
  exact absurd less (Nat.lt_irrefl n)

theorem mem_where {t : Table α} {p : α → Bool} {r : α} :
    r ∈ t.where_ p ↔ t.get? (key r) = some r ∧ p r = true := by
  simp [where_, mem_rows_iff]

/-- The selected rows as a table. -/
def select (t : Table α) (p : α → Bool) : Table α where
  rows := t.where_ p
  nodup := t.nodup.sublist (List.filter_sublist.map key)

theorem get?_select (t : Table α) (p : α → Bool) (k : Nat) :
    (t.select p).get? k = (t.get? k).filter p := by
  cases found : (t.select p).get? k with
  | some r =>
      obtain ⟨member, keyed⟩ := get?_eq_some_iff.mp found
      obtain ⟨stored, selected⟩ := mem_where.mp member
      rw [keyed] at stored
      rw [stored, Option.filter_some_pos selected]
  | none =>
      cases stored : t.get? k with
      | none => rfl
      | some r =>
          have keyed := key_of_get? stored
          subst keyed
          have absent : r ∉ t.where_ p := fun member =>
            get?_eq_none_iff.mp found (List.mem_map_of_mem member)
          have skipped : ¬ p r = true := fun selected =>
            absent (mem_where.mpr ⟨stored, selected⟩)
          exact (Option.filter_some_eq_none.mpr skipped).symm

/-- Looking a key up in per-row data is reading the row. -/
theorem lookup_rows {β : Type*} (t : Table α) (f : α → β) (k : Nat) :
    (t.rows.map fun row => (key row, f row)).lookup k = (t.get? k).map f := by
  unfold get?
  induction t.rows with
  | nil => rfl
  | cons r rows ih =>
      by_cases keyed : key r = k
      · simp [keyed]
      · have unequal : (k == key r) = false := by simpa using Ne.symm keyed
        simp [List.lookup_cons, unequal, keyed, ih]

theorem lookup_where {β : Type*} (t : Table α) (p : α → Bool) (f : α → β) (k : Nat) :
    ((t.where_ p).map fun row => (key row, f row)).lookup k =
      ((t.get? k).filter p).map f := by
  rw [← get?_select]
  exact lookup_rows (t.select p) f k

/-! ## Writes -/

/-- The table with no rows. -/
def empty : Table α := ⟨[], List.nodup_nil⟩

instance : Inhabited (Table α) := ⟨empty⟩

@[simp] theorem get?_empty (k : Nat) : (empty : Table α).get? k = none := rfl

/-- Rewrite every row by a function that keeps the primary key: an `UPDATE`. -/
def map (t : Table α) (f : α → α) (keeps : ∀ r, key (f r) = key r) : Table α where
  rows := t.rows.map f
  nodup := by
    have keys : (t.rows.map f).map key = t.rows.map key := by
      simp [List.map_map, Function.comp_def, keeps]
    rw [keys]
    exact t.nodup

@[simp] theorem get?_map (t : Table α) (f : α → α) (keeps : ∀ r, key (f r) = key r)
    (k : Nat) : (t.map f keeps).get? k = (t.get? k).map f := by
  have sameTest : ((fun r => key r == k) ∘ f) = fun r => key r == k := by
    funext r
    simp only [Function.comp_apply, keeps]
  simp only [get?, map, List.find?_map, sameTest]

/-- Insert a row; a row whose key is taken is not inserted. -/
def insert (t : Table α) (r : α) : Table α :=
  if taken : key r ∈ t.rows.map key then t
  else
    { rows := t.rows ++ [r]
      nodup := by
        rw [List.map_append, List.nodup_append]
        refine ⟨t.nodup, by simp, ?_⟩
        intro k present k' last
        simp only [List.map_cons, List.map_nil, List.mem_singleton] at last
        intro same
        subst same
        exact taken (last ▸ present) }

@[simp] theorem get?_insert (t : Table α) (r : α) (k : Nat) :
    (t.insert r).get? k = (t.get? k).or (if key r = k then some r else none) := by
  unfold insert
  split
  case isTrue taken =>
    by_cases same : key r = k
    · subst same
      cases found : t.get? (key r) with
      | none => exact absurd taken (get?_eq_none_iff.mp found)
      | some r' => simp
    · simp [same]
  case isFalse fresh =>
    simp [get?, List.find?_append]

/-- Insert a list of rows in order. -/
def insertAll (t : Table α) (rs : List α) : Table α :=
  rs.foldl insert t

theorem get?_insertAll_of_some {t : Table α} {k : Nat} {r : α} (rs : List α)
    (found : t.get? k = some r) : (t.insertAll rs).get? k = some r := by
  induction rs generalizing t with
  | nil => exact found
  | cons r' rs ih => exact ih (by simp [found])

/-- A row found after an insertion was there before or is one of the inserted
rows under a key that was free. -/
theorem get?_insertAll {t : Table α} {k : Nat} {r : α} {rs : List α}
    (found : (t.insertAll rs).get? k = some r) :
    t.get? k = some r ∨ (t.get? k = none ∧ r ∈ rs ∧ key r = k) := by
  induction rs generalizing t with
  | nil => exact Or.inl found
  | cons r' rs ih =>
      rcases ih found with before | ⟨absent, member, keyed⟩
      · rw [get?_insert] at before
        cases old : t.get? k with
        | some r'' => exact Or.inl (by simpa [old] using before)
        | none =>
            simp only [old, Option.none_or] at before
            split at before
            case isTrue keyed =>
              cases before
              exact Or.inr ⟨rfl, by simp, keyed⟩
            case isFalse => cases before
      · rw [get?_insert, Option.or_eq_none_iff] at absent
        exact Or.inr ⟨absent.1, by simp [member], keyed⟩

/-- Delete the row whose key is `k`. -/
def erase (t : Table α) (k : Nat) : Table α where
  rows := t.rows.filter fun r => key r != k
  nodup := t.nodup.sublist (List.filter_sublist.map key)

@[simp] theorem get?_erase (t : Table α) (k j : Nat) :
    (t.erase k).get? j = if j = k then none else t.get? j := by
  split
  case isTrue same =>
    subst same
    simp [get?, erase, List.find?_eq_none]
  case isFalse other =>
    simp only [get?, erase, List.find?_filter]
    congr 1
    funext r
    by_cases keyed : key r = j
    · simp [keyed, other]
    · simp [keyed]

/-- Write a row, replacing the one with its key. -/
def put (t : Table α) (r : α) : Table α :=
  (t.erase (key r)).insert r

@[simp] theorem get?_put (t : Table α) (r : α) (k : Nat) :
    (t.put r).get? k = if k = key r then some r else t.get? k := by
  unfold put
  by_cases same : k = key r
  · simp [same]
  · simp [same, Ne.symm same]

theorem erase_of_absent {t : Table α} {k : Nat} (absent : t.get? k = none) : t.erase k = t := by
  have kept : (t.rows.filter fun r => key r != k) = t.rows := by
    refine List.filter_eq_self.mpr fun r member => ?_
    have unequal : key r ≠ k := fun same =>
      get?_eq_none_iff.mp absent (same ▸ List.mem_map_of_mem member)
    simpa using unequal
  unfold erase
  congr 1

/-- Writing a row under a free key is inserting it. -/
theorem put_of_absent {t : Table α} {r : α} (absent : t.get? (key r) = none) :
    t.put r = t.insert r := by
  unfold put
  rw [erase_of_absent absent]

/-! ## Rows after a write -/

theorem mem_rows_insert {t : Table α} {r r' : α} (fresh : t.get? (key r) = none) :
    r' ∈ (t.insert r).rows ↔ r' ∈ t.rows ∨ r' = r := by
  unfold insert
  rw [dif_neg (get?_eq_none_iff.mp fresh)]
  simp

/-- An insert appends a row, or nothing. -/
theorem rows_insert_append (t : Table α) (r : α) : ∃ new, (t.insert r).rows = t.rows ++ new := by
  unfold insert
  split
  · exact ⟨[], (List.append_nil _).symm⟩
  · exact ⟨[r], rfl⟩

theorem mem_rows_of_insert {t : Table α} {r r' : α} (member : r' ∈ (t.insert r).rows) :
    r' ∈ t.rows ∨ r' = r := by
  unfold insert at member
  split at member
  · exact Or.inl member
  · simpa using member

theorem mem_rows_erase {t : Table α} {k : Nat} {r : α} :
    r ∈ (t.erase k).rows ↔ r ∈ t.rows ∧ key r ≠ k := by
  simp [erase]

theorem mem_rows_put {t : Table α} {r r' : α} :
    r' ∈ (t.put r).rows ↔ r' = r ∨ (r' ∈ t.rows ∧ key r' ≠ key r) := by
  unfold put
  rw [mem_rows_insert (by simp), mem_rows_erase, or_comm]

end Table

end Relational
