import Mathlib.Data.List.AList
import Mathlib.Data.List.Induction

/-!
Tables replicated by snapshots and diffs.

A table maps keys to rows. Two rows are told apart by a function `differs`, and
two tables agree when they have the same keys and no row is told apart. The diff
of two tables takes a replica that agrees with the first to one that agrees with
the second: `agree_apply_diff`.
-/

namespace Replica

variable {K R : Type*} [DecidableEq K]

abbrev Store (K R : Type*) := AList fun _ : K => R

/-! ## Writing rows -/

/-- The rows put in, one after the other. -/
def upsert (t : Store K R) (rows : List (K × R)) : Store K R :=
  rows.foldl (fun t row => t.insert row.1 row.2) t

/-- The keys taken out. -/
def removeAll (t : Store K R) (keys : List K) : Store K R :=
  keys.foldl (fun t k => t.erase k) t

/-- The last row of a key. -/
def lastOf (rows : List (K × R)) (k : K) : Option R :=
  (rows.reverse.find? fun row => row.1 = k).map Prod.snd

theorem mem_of_lastOf {rows : List (K × R)} {k : K} {r : R} (last : lastOf rows k = some r) :
    (k, r) ∈ rows := by
  obtain ⟨⟨k', r'⟩, found, same⟩ := Option.map_eq_some_iff.mp last
  obtain rfl : r' = r := same
  have here : k' = k := by simpa using List.find?_some found
  rw [← here]
  exact List.mem_reverse.mp (List.mem_of_find?_eq_some found)

theorem lookup_upsert (t : Store K R) (rows : List (K × R)) (k : K) :
    (upsert t rows).lookup k = (lastOf rows k).or (t.lookup k) := by
  induction rows using List.reverseRecOn with
  | nil => rfl
  | append_singleton rows row ih =>
      have step : upsert t (rows ++ [row]) = (upsert t rows).insert row.1 row.2 :=
        List.foldl_append
      rw [step]
      by_cases here : row.1 = k
      · subst here
        simp [lastOf]
      · rw [AList.lookup_insert_ne (Ne.symm here), ih]
        simp [lastOf, here]

theorem lookup_removeAll (t : Store K R) (keys : List K) (k : K) :
    (removeAll t keys).lookup k = if k ∈ keys then none else t.lookup k := by
  induction keys generalizing t with
  | nil => rfl
  | cons key keys ih =>
      have step : removeAll t (key :: keys) = removeAll (t.erase key) keys := rfl
      rw [step, ih]
      by_cases later : k ∈ keys
      · simp [later]
      · by_cases here : k = key
        · subst here
          simp
        · simp [later, here, AList.lookup_erase_ne here]

theorem lastOf_eq_some_iff {rows : List (K × R)} (nodup : (rows.map Prod.fst).Nodup) {k : K}
    {r : R} : lastOf rows k = some r ↔ (k, r) ∈ rows := by
  induction rows using List.reverseRecOn with
  | nil => simp [lastOf]
  | append_singleton rows row ih =>
      rw [List.map_append, List.nodup_append] at nodup
      obtain ⟨before, -, apart⟩ := nodup
      by_cases here : row.1 = k
      · have first : (k, r) ∉ rows := fun member =>
          apart k (List.mem_map.mpr ⟨(k, r), member, rfl⟩) row.1 (by simp) here.symm
        simp only [lastOf, List.reverse_append, List.reverse_singleton, List.singleton_append,
          List.find?_cons, here, decide_true, Option.map_some, Option.some.injEq, List.mem_append,
          List.mem_singleton, first, false_or]
        constructor
        · intro same
          subst same
          rw [← here]
        · intro same
          rw [← same]
      · have other : (k, r) ≠ row := fun same => here (same ▸ rfl)
        have step : lastOf (rows ++ [row]) k = lastOf rows k := by simp [lastOf, here]
        rw [step, ih before]
        simp [other]

/-! ## Writes that set or remove a row -/

/-- A row is set, or removed. -/
def put (t : Store K R) (k : K) : Option R → Store K R
  | some r => t.insert k r
  | none => t.erase k

def putAll (t : Store K R) (writes : List (K × Option R)) : Store K R :=
  writes.foldl (fun t w => put t w.1 w.2) t

theorem lookup_put_self (t : Store K R) (k : K) (w : Option R) : (put t k w).lookup k = w := by
  cases w with
  | none => exact AList.lookup_erase k t
  | some r => exact AList.lookup_insert t

theorem lookup_put_of_ne {t : Store K R} {k k' : K} {w : Option R} (other : k' ≠ k) :
    (put t k w).lookup k' = t.lookup k' := by
  cases w with
  | none => exact AList.lookup_erase_ne other
  | some r => exact AList.lookup_insert_ne other

theorem putAll_concat (t : Store K R) (writes : List (K × Option R)) (w : K × Option R) :
    putAll t (writes ++ [w]) = put (putAll t writes) w.1 w.2 :=
  List.foldl_append

/-- The last write of a key decides, whatever was there. -/
theorem lookup_putAll (t : Store K R) (writes : List (K × Option R)) (k : K) :
    (putAll t writes).lookup k = (lastOf writes k).getD (t.lookup k) := by
  induction writes using List.reverseRecOn with
  | nil => rfl
  | append_singleton writes w ih =>
      rw [putAll_concat]
      by_cases here : w.1 = k
      · subst here
        rw [lookup_put_self]
        simp [lastOf]
      · rw [lookup_put_of_ne (Ne.symm here), ih]
        simp [lastOf, here]

theorem lastOf_isSome_iff {rows : List (K × R)} {k : K} :
    (lastOf rows k).isSome ↔ k ∈ rows.map Prod.fst := by
  unfold lastOf
  rw [Option.isSome_map, List.find?_isSome]
  simp

/-- A key that is not written keeps its row. -/
theorem lookup_putAll_of_not_mem {t : Store K R} {writes : List (K × Option R)} {k : K}
    (absent : k ∉ writes.map Prod.fst) : (putAll t writes).lookup k = t.lookup k := by
  rw [lookup_putAll, Option.not_isSome_iff_eq_none.mp (mt lastOf_isSome_iff.mp absent)]
  rfl

/-- Of a key that is written, only the writes count. -/
theorem lookup_putAll_congr {t t' : Store K R} {writes : List (K × Option R)} {k : K}
    (same : k ∉ writes.map Prod.fst → t.lookup k = t'.lookup k) :
    (putAll t writes).lookup k = (putAll t' writes).lookup k := by
  by_cases written : k ∈ writes.map Prod.fst
  · obtain ⟨w, last⟩ := Option.isSome_iff_exists.mp (lastOf_isSome_iff.mpr written)
    rw [lookup_putAll, lookup_putAll, last]
    rfl
  · rw [lookup_putAll_of_not_mem written, lookup_putAll_of_not_mem written]
    exact same written

/-! ## Diffs -/

/-- The rows of a table that pass a test. -/
def select (t : Store K R) (p : K → R → Bool) : List (K × R) :=
  (t.entries.filter fun e => p e.1 e.2).map fun e => (e.1, e.2)

theorem mem_select {t : Store K R} {p : K → R → Bool} {k : K} {r : R} :
    (k, r) ∈ select t p ↔ t.lookup k = some r ∧ p k r = true := by
  have stored : (⟨k, r⟩ : Sigma fun _ : K => R) ∈ t.entries ↔ t.lookup k = some r :=
    AList.mem_lookup_iff.symm
  unfold select
  rw [List.mem_map]
  constructor
  · intro given
    rcases given with ⟨⟨k', r'⟩, member, same⟩
    obtain ⟨rfl, rfl⟩ := Prod.mk.inj same
    obtain ⟨entry, passes⟩ := List.mem_filter.mp member
    exact ⟨stored.mp entry, passes⟩
  · intro given
    rcases given with ⟨found, passes⟩
    exact ⟨⟨k, r⟩, List.mem_filter.mpr ⟨stored.mpr found, passes⟩, rfl⟩

theorem lastOf_select (t : Store K R) (p : K → R → Bool) (k : K) :
    lastOf (select t p) k = (t.lookup k).filter (p k) := by
  have nodup : ((select t p).map Prod.fst).Nodup := by
    have keys : (select t p).map Prod.fst = (t.entries.filter fun e => p e.1 e.2).keys := by
      unfold select List.keys
      rw [List.map_map]
      rfl
    rw [keys]
    exact t.keys_nodup.sublist (List.Sublist.map Sigma.fst List.filter_sublist)
  apply Option.ext
  intro r
  rw [lastOf_eq_some_iff nodup, mem_select, Option.filter_eq_some_iff]

structure Diff (K R : Type*) where
  added : List (K × R)
  updated : List (K × R)
  removed : List K

/-- From one table to another. -/
def diff (differs : R → R → Bool) (old new : Store K R) : Diff K R where
  added := select new fun k _ => (old.lookup k).isNone
  updated := select new fun k r => (old.lookup k).any fun prev => differs prev r
  removed := old.keys.filter fun k => (new.lookup k).isNone

def Diff.isEmpty (d : Diff K R) : Bool :=
  d.added.isEmpty && d.updated.isEmpty && d.removed.isEmpty

def Diff.apply (d : Diff K R) (t : Store K R) : Store K R :=
  removeAll (upsert (upsert t d.added) d.updated) d.removed

section

variable {differs : R → R → Bool} {t old new : Store K R} {k : K} {r p : R}

theorem mem_added : (k, r) ∈ (diff differs old new).added ↔
    new.lookup k = some r ∧ old.lookup k = none := by
  unfold diff
  rw [mem_select, Option.isNone_iff_eq_none]

theorem mem_updated : (k, r) ∈ (diff differs old new).updated ↔
    new.lookup k = some r ∧ (old.lookup k).any (fun prev => differs prev r) = true := by
  unfold diff
  rw [mem_select]

theorem mem_removed : k ∈ (diff differs old new).removed ↔ k ∈ old ∧ new.lookup k = none := by
  unfold diff
  rw [List.mem_filter, Option.isNone_iff_eq_none, AList.mem_keys]

/-- A row is kept when it is not told apart from the one before. -/
theorem lookup_apply_of_kept (now : new.lookup k = some r) (before : old.lookup k = some p)
    (same : differs p r = false) : ((diff differs old new).apply t).lookup k = t.lookup k := by
  unfold Diff.apply
  rw [lookup_removeAll, lookup_upsert, lookup_upsert]
  simp [diff, lastOf_select, now, before, same, Option.filter_some]

theorem lookup_apply_of_updated (now : new.lookup k = some r) (before : old.lookup k = some p)
    (other : differs p r = true) : ((diff differs old new).apply t).lookup k = some r := by
  unfold Diff.apply
  rw [lookup_removeAll, lookup_upsert, lookup_upsert]
  simp [diff, lastOf_select, now, before, other]

theorem lookup_apply_of_added (now : new.lookup k = some r) (before : old.lookup k = none) :
    ((diff differs old new).apply t).lookup k = some r := by
  unfold Diff.apply
  rw [lookup_removeAll, lookup_upsert, lookup_upsert]
  simp [diff, lastOf_select, now, before]

theorem lookup_apply_of_removed (now : new.lookup k = none) (before : old.lookup k = some p) :
    ((diff differs old new).apply t).lookup k = none := by
  have known : k ∈ old.keys := AList.mem_keys.mp (AList.lookup_isSome.mp (by rw [before]; rfl))
  unfold Diff.apply
  rw [lookup_removeAll]
  simp [diff, now, known]

theorem lookup_apply_of_absent (now : new.lookup k = none) (before : old.lookup k = none) :
    ((diff differs old new).apply t).lookup k = t.lookup k := by
  have unknown : k ∉ old.keys := fun member =>
    AList.lookup_eq_none.mp before (AList.mem_keys.mpr member)
  unfold Diff.apply
  rw [lookup_removeAll, lookup_upsert, lookup_upsert]
  simp [diff, lastOf_select, now, unknown]

end

/-! ## Agreement -/

/-- The same keys, and no row told apart. -/
def Agree (differs : R → R → Bool) (t u : Store K R) : Prop :=
  ∀ k, Option.Rel (fun a b => differs a b = false) (t.lookup k) (u.lookup k)

/-- Whether two rows of one key, if there are any, are told apart. -/
def relates (differs : R → R → Bool) : Option R → Option R → Bool
  | some a, some b => !differs a b
  | none, none => true
  | _, _ => false

theorem relates_iff {differs : R → R → Bool} {a b : Option R} :
    relates differs a b = true ↔ Option.Rel (fun a b => differs a b = false) a b := by
  constructor
  · intro holds
    cases a with
    | none => cases b with
      | none => exact .none
      | some b => cases holds
    | some a => cases b with
      | none => cases holds
      | some b => exact .some (by simpa [relates] using holds)
  · intro relation
    cases relation with
    | none => rfl
    | some same => simp [relates, same]

/-- Only the keys of either table matter. -/
theorem agree_iff {differs : R → R → Bool} {t u : Store K R} :
    (∀ k ∈ t.keys ++ u.keys, relates differs (t.lookup k) (u.lookup k) = true) ↔
      Agree differs t u := by
  constructor
  · intro every k
    by_cases known : k ∈ t.keys ++ u.keys
    · exact relates_iff.mp (every k known)
    · rw [List.mem_append, not_or, ← AList.mem_keys, ← AList.mem_keys] at known
      rw [AList.lookup_eq_none.mpr known.1, AList.lookup_eq_none.mpr known.2]
      exact .none
  · intro agree k _
    exact relates_iff.mpr (agree k)

instance (differs : R → R → Bool) (t u : Store K R) : Decidable (Agree differs t u) :=
  decidable_of_iff _ agree_iff

section

variable {differs : R → R → Bool} {t u v old new : Store K R}

theorem Agree.refl (equivalence : Equivalence fun a b => differs a b = false) (t : Store K R) :
    Agree differs t t := by
  intro k
  cases t.lookup k with
  | none => exact .none
  | some r => exact .some (equivalence.refl r)

theorem Agree.trans (equivalence : Equivalence fun a b => differs a b = false)
    (first : Agree differs t u) (second : Agree differs u v) : Agree differs t v := by
  intro k
  have left := first k
  have right := second k
  generalize t.lookup k = a at left ⊢
  generalize u.lookup k = b at left right
  generalize v.lookup k = c at right ⊢
  cases left with
  | none => exact right
  | some same =>
      cases right with
      | some same' => exact .some (equivalence.trans same same')

theorem Agree.mem_iff (agree : Agree differs t u) (k : K) : k ∈ t ↔ k ∈ u := by
  have relation := agree k
  rw [← AList.lookup_isSome, ← AList.lookup_isSome]
  generalize t.lookup k = a at relation ⊢
  generalize u.lookup k = b at relation ⊢
  cases relation with
  | none => exact Iff.rfl
  | some _ => exact Iff.rfl

/-- The diff brings along what agrees with the old table. -/
theorem agree_apply_diff (equivalence : Equivalence fun a b => differs a b = false)
    (agree : Agree differs t old) : Agree differs ((diff differs old new).apply t) new := by
  intro k
  have relation := agree k
  cases now : new.lookup k with
  | none =>
      cases before : old.lookup k with
      | none =>
          rw [before] at relation
          rw [lookup_apply_of_absent now before]
          generalize t.lookup k = held at relation ⊢
          cases relation
          exact .none
      | some p =>
          rw [lookup_apply_of_removed now before]
          exact .none
  | some r =>
      cases before : old.lookup k with
      | none =>
          rw [lookup_apply_of_added now before]
          exact .some (equivalence.refl r)
      | some p =>
          cases told : differs p r with
          | true =>
              rw [lookup_apply_of_updated now before told]
              exact .some (equivalence.refl r)
          | false =>
              rw [before] at relation
              rw [lookup_apply_of_kept now before told]
              generalize t.lookup k = held at relation ⊢
              cases relation with
              | some same => exact .some (equivalence.trans same told)

/-- The diff from nothing overwrites a replica that has no other key. -/
theorem agree_apply_diff_empty (equivalence : Equivalence fun a b => differs a b = false)
    (covered : ∀ k ∈ t, k ∈ new) : Agree differs ((diff differs ∅ new).apply t) new := by
  intro k
  cases now : new.lookup k with
  | none =>
      have absent : t.lookup k = none :=
        AList.lookup_eq_none.mpr fun member => AList.lookup_eq_none.mp now (covered k member)
      rw [lookup_apply_of_absent now (AList.lookup_empty k), absent]
      exact .none
  | some r =>
      rw [lookup_apply_of_added now (AList.lookup_empty k)]
      exact .some (equivalence.refl r)

/-- An empty diff is between tables that agree. -/
theorem agree_of_isEmpty (empty : (diff differs old new).isEmpty = true) :
    Agree differs old new := by
  simp only [Diff.isEmpty, Bool.and_eq_true, List.isEmpty_iff] at empty
  obtain ⟨⟨added, updated⟩, removed⟩ := empty
  intro k
  cases now : new.lookup k with
  | none =>
      cases before : old.lookup k with
      | none => exact .none
      | some p =>
          have known : k ∈ old := AList.lookup_isSome.mp (by rw [before]; rfl)
          have member : k ∈ (diff differs old new).removed := mem_removed.mpr ⟨known, now⟩
          rw [removed] at member
          cases member
  | some r =>
      cases before : old.lookup k with
      | none =>
          have member : (k, r) ∈ (diff differs old new).added := mem_added.mpr ⟨now, before⟩
          rw [added] at member
          cases member
      | some p =>
          cases told : differs p r with
          | false => exact .some told
          | true =>
              have passes : (old.lookup k).any (fun prev => differs prev r) = true := by
                rw [before]
                exact told
              have member : (k, r) ∈ (diff differs old new).updated :=
                mem_updated.mpr ⟨now, passes⟩
              rw [updated] at member
              cases member

end

end Replica
