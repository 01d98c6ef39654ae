import Mathlib.Algebra.BigOperators.Group.List.Basic
import Avalant.Lib.Table

/-!
`SELECT SUM(f) WHERE p` over a keyed table, and what a write does to it.

The sum is read as a sum over all rows in which the rows outside the `WHERE`
clause count zero, so that an `UPDATE` that keeps every row's share keeps the
sum. `sumWhere_links` splits a table by a foreign key.
-/

namespace Relational

namespace Table

variable {α β M : Type*} [Keyed α] [Keyed β]

section Monoid

variable [AddCommMonoid M]

/-- `SELECT SUM(f) WHERE p`. -/
def sumWhere (t : Table α) (p : α → Bool) (f : α → M) : M :=
  ((t.where_ p).map f).sum

/-- What one row adds to a sum. -/
def share (p : α → Bool) (f : α → M) (r : α) : M :=
  if p r then f r else 0

theorem sumWhere_eq_shares (t : Table α) (p : α → Bool) (f : α → M) :
    t.sumWhere p f = (t.rows.map (share p f)).sum := by
  unfold sumWhere where_
  induction t.rows with
  | nil => rfl
  | cons r rows ih =>
      cases selected : p r with
      | true => simp [share, selected, ih]
      | false => simp [share, selected, ih]

/-- Sums over two states of a table whose rows keep their shares. -/
theorem sumWhere_map (t : Table α) (u : α → α) (keeps : ∀ r, key (u r) = key r) {p q : α → Bool}
    {f g : α → M} (kept : ∀ r ∈ t.rows, share p f (u r) = share q g r) :
    (t.map u keeps).sumWhere p f = t.sumWhere q g := by
  rw [sumWhere_eq_shares, sumWhere_eq_shares]
  change ((t.rows.map u).map (share p f)).sum = _
  rw [List.map_map]
  exact congrArg List.sum (List.map_congr_left kept)

theorem sumWhere_congr (t : Table α) {p q : α → Bool} (same : ∀ r ∈ t.rows, p r = q r)
    (f : α → M) : t.sumWhere p f = t.sumWhere q f := by
  unfold sumWhere where_
  rw [List.filter_congr same]

theorem sumWhere_insert {t : Table α} {r : α} (fresh : t.get? (key r) = none) (p : α → Bool)
    (f : α → M) : (t.insert r).sumWhere p f = t.sumWhere p f + share p f r := by
  rw [sumWhere_eq_shares, sumWhere_eq_shares]
  unfold insert
  rw [dif_neg (get?_eq_none_iff.mp fresh)]
  simp

theorem sumWhere_eq_zero {t : Table α} {p : α → Bool} (none : ∀ r ∈ t.rows, p r = false)
    (f : α → M) : t.sumWhere p f = 0 := by
  have empty : t.where_ p = [] := List.filter_eq_nil_iff.mpr fun r member => by simp [none r member]
  simp [sumWhere, empty]

/-- A row of the sum, taken out of it. -/
theorem sumWhere_split {t : Table α} {k : Nat} {r : α} (found : t.get? k = some r) (p : α → Bool)
    (f : α → M) :
    t.sumWhere p f = share p f r + t.sumWhere (fun r' => p r' && key r' != k) f := by
  rw [sumWhere_eq_shares, sumWhere_eq_shares]
  have keyed := key_of_get? found
  have member := mem_of_get? found
  have nodup := t.nodup
  revert member nodup
  induction t.rows with
  | nil =>
      intro member
      cases member
  | cons head rows ih =>
      intro member nodup
      obtain ⟨absent, nodup⟩ := List.nodup_cons.mp nodup
      rcases List.mem_cons.mp member with rfl | member
      · -- the other rows have other keys
        have others : rows.map (share (fun r' => p r' && key r' != k) f) =
            rows.map (share p f) := by
          refine List.map_congr_left fun row present => ?_
          have different : key row ≠ k := fun same =>
            absent (keyed.trans same.symm ▸ List.mem_map_of_mem present)
          simp [share, different]
        have itself : share (fun r' => p r' && key r' != k) f r = 0 := by simp [share, keyed]
        rw [List.map_cons, List.map_cons, List.sum_cons, List.sum_cons, others, itself, zero_add]
      · have different : key head ≠ k := fun same =>
          absent (same.trans keyed.symm ▸ List.mem_map_of_mem member)
        have kept : share (fun r' => p r' && key r' != k) f head = share p f head := by
          simp [share, different]
        rw [List.map_cons, List.map_cons, List.sum_cons, List.sum_cons, ih member nodup, kept,
          add_left_comm]

/-- An `UPDATE` of one row. -/
theorem sumWhere_update {t : Table α} {k : Nat} {r : α} (found : t.get? k = some r) (u : α → α)
    (keeps : ∀ r, key (u r) = key r) (others : ∀ r ∈ t.rows, key r ≠ k → u r = r) (p : α → Bool)
    (f : α → M) :
    (t.map u keeps).sumWhere p f + share p f r = t.sumWhere p f + share p f (u r) := by
  have found' : (t.map u keeps).get? k = some (u r) := by
    rw [get?_map, found]
    rfl
  have rest : (t.map u keeps).sumWhere (fun r' => p r' && key r' != k) f =
      t.sumWhere (fun r' => p r' && key r' != k) f := by
    refine sumWhere_map t u keeps fun r' member => ?_
    by_cases same : key r' = k
    · simp [share, keeps, same]
    · rw [others r' member same]
  rw [sumWhere_split found' p f, sumWhere_split found p f, rest]
  ac_rfl

/-! ## By foreign key -/

/-- Among rows with distinct keys, exactly the one a link names counts. -/
theorem sum_owners_of_mem {owners : List β} (nodup : (owners.map key).Nodup) {k : Nat}
    (present : k ∈ owners.map key) (x : M) :
    (owners.map fun o => if key o = k then x else 0).sum = x := by
  induction owners with
  | nil => cases present
  | cons o owners ih =>
      obtain ⟨absent, nodup⟩ := List.nodup_cons.mp nodup
      rw [List.map_cons, List.sum_cons]
      by_cases same : key o = k
      · have others : (owners.map fun o => if key o = k then x else 0) = owners.map fun _ => 0 := by
          refine List.map_congr_left fun o' member => ?_
          have different : key o' ≠ k := fun same' =>
            absent (same.trans same'.symm ▸ List.mem_map_of_mem member)
          simp [different]
        rw [if_pos same, others]
        simp
      · have rest : k ∈ owners.map key := by
          rcases List.mem_cons.mp present with rfl | rest
          · exact absurd rfl same
          · exact rest
        rw [if_neg same, zero_add, ih nodup rest]

/-- A sum is that of the rows without a link and, for each row they can link to, that of the
rows linked to it. -/
theorem sumWhere_links (t : Table α) (owners : Table β) (p : α → Bool) (link : α → Option Nat)
    (f : α → M)
    (complete : ∀ r ∈ t.rows, p r = true → ∀ k, link r = some k → k ∈ owners.rows.map key) :
    t.sumWhere p f = t.sumWhere (fun r => p r && (link r).isNone) f +
      (owners.rows.map fun o => t.sumWhere (fun r => p r && link r == some (key o)) f).sum := by
  simp only [sumWhere_eq_shares]
  revert complete
  induction t.rows with
  | nil => simp
  | cons r rows ih =>
      intro complete
      have rest := ih fun r' member => complete r' (List.mem_cons_of_mem _ member)
      have row : share p f r = share (fun r => p r && (link r).isNone) f r +
          (owners.rows.map fun o => share (fun r => p r && link r == some (key o)) f r).sum := by
        cases selected : p r with
        | false => simp [share, selected]
        | true =>
            cases linked : link r with
            | none => simp [share, selected, linked]
            | some k =>
                have present := complete r List.mem_cons_self selected k linked
                have counted := sum_owners_of_mem owners.nodup present (f r)
                have shares : (owners.rows.map fun o =>
                    share (fun r => p r && link r == some (key o)) f r) =
                    owners.rows.map fun o => if key o = k then f r else 0 := by
                  refine List.map_congr_left fun o _ => ?_
                  by_cases same : key o = k
                  · simp [share, selected, linked, same]
                  · simp [share, selected, linked, same, Ne.symm same]
                rw [shares, counted]
                simp [share, selected, linked]
      simp only [List.map_cons, List.sum_cons, List.sum_map_add]
      rw [rest, row]
      ac_rfl

end Monoid

end Table

/-! ## Counts -/

namespace Table

variable {α : Type*} [Keyed α]

theorem countP_insert_le (t : Table α) (r : α) (p : α → Bool) :
    (t.insert r).rows.countP p ≤ t.rows.countP p + 1 := by
  unfold insert
  split
  · exact Nat.le_succ _
  · rw [List.countP_append, List.countP_singleton]
    split <;> omega

theorem countP_insert_of_not (t : Table α) {r : α} {p : α → Bool} (skipped : p r = false) :
    (t.insert r).rows.countP p = t.rows.countP p := by
  unfold insert
  split
  · rfl
  · simp [List.countP_append, skipped]

theorem countP_insert {t : Table α} {r : α} (fresh : t.get? (key r) = none) (p : α → Bool) :
    (t.insert r).rows.countP p = t.rows.countP p + if p r then 1 else 0 := by
  unfold insert
  rw [dif_neg (get?_eq_none_iff.mp fresh)]
  simp [List.countP_append, List.countP_singleton]

/-- A row of a count, taken out of it. -/
theorem countP_split {t : Table α} {k : Nat} {r : α} (found : t.get? k = some r) (p : α → Bool) :
    t.rows.countP p = (if p r then 1 else 0) + t.rows.countP fun r' => p r' && key r' != k := by
  have counted : ∀ q : α → Bool, t.sumWhere q (fun _ => 1) = t.rows.countP q := by
    intro q
    rw [sumWhere, where_, List.countP_eq_length_filter]
    simp
  have split := sumWhere_split found p fun _ => 1
  rw [counted, counted] at split
  exact split

/-- A `DELETE` of one row. -/
theorem countP_erase {t : Table α} {k : Nat} {r : α} (found : t.get? k = some r) (p : α → Bool) :
    (t.erase k).rows.countP p + (if p r then 1 else 0) = t.rows.countP p := by
  rw [countP_split found p, Nat.add_comm]
  congr 1
  exact List.countP_filter

/-- An `UPDATE` of any rows, by what it makes of one. -/
theorem countP_map_split {t : Table α} {k : Nat} {r : α} (found : t.get? k = some r) (u : α → α)
    (keeps : ∀ r, key (u r) = key r) (p : α → Bool) :
    (t.map u keeps).rows.countP p =
      (if p (u r) then 1 else 0) + t.rows.countP fun r' => p (u r') && key r' != k := by
  have found' : (t.map u keeps).get? k = some (u r) := by
    rw [get?_map, found]
    rfl
  rw [countP_split found' p]
  congr 1
  change (t.rows.map u).countP _ = _
  rw [List.countP_map]
  simp only [Function.comp_def, keeps]

/-- An `UPDATE` of one row alone. -/
theorem countP_map_one {t : Table α} {k : Nat} {r : α} (found : t.get? k = some r) (u : α → α)
    (keeps : ∀ r, key (u r) = key r) (others : ∀ r, key r ≠ k → u r = r) (p : α → Bool) :
    (t.map u keeps).rows.countP p + (if p r then 1 else 0) =
      t.rows.countP p + if p (u r) then 1 else 0 := by
  have rest : (t.rows.countP fun r' => p (u r') && key r' != k) =
      t.rows.countP fun r' => p r' && key r' != k := by
    refine List.countP_congr fun r' _ => ?_
    by_cases same : key r' = k
    · simp [same]
    · rw [others r' same]
  rw [countP_map_split found, countP_split found p, rest]
  omega

/-- An `UPDATE` that brings no row into the `WHERE` clause. -/
theorem countP_map_le (t : Table α) (u : α → α) (keeps : ∀ r, key (u r) = key r) {p : α → Bool}
    (lower : ∀ r ∈ t.rows, p (u r) = true → p r = true) :
    (t.map u keeps).rows.countP p ≤ t.rows.countP p := by
  change (t.rows.map u).countP p ≤ _
  rw [List.countP_map]
  exact List.countP_mono_left lower

/-- An `UPDATE` of one row. -/
theorem countP_map_le_succ (t : Table α) (u : α → α) (keeps : ∀ r, key (u r) = key r) {k : Nat}
    (others : ∀ r, key r ≠ k → u r = r) (p : α → Bool) :
    (t.map u keeps).rows.countP p ≤ t.rows.countP p + 1 := by
  change (t.rows.map u).countP p ≤ _
  have nodup := t.nodup
  revert nodup
  induction t.rows with
  | nil =>
      intro _
      exact Nat.zero_le _
  | cons r rows ih =>
      intro nodup
      obtain ⟨absent, nodup⟩ := List.nodup_cons.mp nodup
      rw [List.map_cons, List.countP_cons, List.countP_cons]
      by_cases here : key r = k
      · -- the other rows have other keys
        have same : rows.map u = rows.map id := by
          refine List.map_congr_left fun r' member => others r' fun equal => ?_
          exact absent (here.trans equal.symm ▸ List.mem_map_of_mem member)
        have rest : rows.map u = rows := same.trans (List.map_id rows)
        rw [rest]
        split <;> split <;> omega
      · rw [others r here]
        have bound := ih nodup
        split <;> omega

end Table

/-- At most one element of a list is counted. -/
theorem eq_of_countP_le_one {α : Type*} {p : α → Bool} {xs : List α} (one : xs.countP p ≤ 1)
    {a b : α} (memA : a ∈ xs) (memB : b ∈ xs) (countedA : p a = true) (countedB : p b = true) :
    a = b := by
  induction xs with
  | nil => cases memA
  | cons x xs ih =>
      have none_after : p x = true → ∀ y ∈ xs, ¬ p y = true := by
        intro counted
        have rest : xs.countP p = 0 := by
          rw [List.countP_cons_of_pos counted] at one
          omega
        exact List.countP_eq_zero.mp rest
      rcases List.mem_cons.mp memA with rfl | tailA
      · rcases List.mem_cons.mp memB with rfl | tailB
        · rfl
        · exact absurd countedB (none_after countedA b tailB)
      · rcases List.mem_cons.mp memB with rfl | tailB
        · exact absurd countedA (none_after countedB a tailA)
        · have fewer : xs.countP p ≤ 1 := Nat.le_trans (List.sublist_cons_self x xs).countP_le one
          exact ih fewer tailA tailB

end Relational
