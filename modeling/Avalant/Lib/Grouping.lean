import Mathlib.Data.List.Basic
import Mathlib.Data.List.Flatten

/-!
Rows grouped by a key, the groups in the order in which their first rows come.

What is computed for each group is put together in that order. Where nothing comes of an empty
group, the results are those of all keys, and selecting the results of some keys is the same as
selecting their rows.
-/

namespace Relational

namespace Grouping

variable {α β κ : Type*} [DecidableEq κ] {key : α → κ}

/-- The keys, each where it first comes. -/
def keys (key : α → κ) (rows : List α) : List κ :=
  (rows.map key).eraseDups

/-- The results of all groups. -/
def perGroup (key : α → κ) (f : κ → List α → List β) (rows : List α) : List β :=
  (keys key rows).flatMap fun k => f k (rows.filter fun row => key row = k)

theorem filter_eraseDups (p : κ → Bool) (ks : List κ) :
    (ks.filter p).eraseDups = ks.eraseDups.filter p := by
  induction len : ks.length using Nat.strongRecOn generalizing ks with
  | _ n ih =>
      cases ks with
      | nil => rfl
      | cons k ks =>
          have shorter : (ks.filter fun other => !other == k).length < n := by
            have bound := List.length_filter_le (fun other => !other == k) ks
            rw [List.length_cons] at len
            omega
          have rest := ih _ shorter _ rfl
          have swap : (ks.filter p).filter (fun other => !other == k) =
              (ks.filter fun other => !other == k).filter p := by
            rw [List.filter_filter, List.filter_filter]
            exact List.filter_congr fun _ _ => Bool.and_comm _ _
          rw [List.eraseDups_cons]
          cases chosen : p k with
          | true =>
              rw [List.filter_cons_of_pos chosen, List.filter_cons_of_pos chosen,
                List.eraseDups_cons, swap, rest]
          | false =>
              have others : (ks.filter p).filter (fun other => !other == k) = ks.filter p := by
                refine List.filter_eq_self.mpr fun other member => ?_
                have kept := (List.mem_filter.mp member).2
                cases same : other == k with
                | false => rfl
                | true =>
                    rw [eq_of_beq same, chosen] at kept
                    cases kept
              rw [List.filter_cons_of_neg (by rw [chosen]; exact Bool.false_ne_true),
                List.filter_cons_of_neg (by rw [chosen]; exact Bool.false_ne_true), ← rest, ← swap,
                others]

theorem nodup_eraseDups (ks : List κ) : ks.eraseDups.Nodup := by
  induction len : ks.length using Nat.strongRecOn generalizing ks with
  | _ n ih =>
      cases ks with
      | nil => exact List.nodup_nil
      | cons k ks =>
          have bound := List.length_filter_le (fun other => !other == k) ks
          rw [List.length_cons] at len
          rw [List.eraseDups_cons]
          refine List.nodup_cons.mpr ⟨fun again => ?_, ih _ (by omega) _ rfl⟩
          have other := (List.mem_filter.mp (List.mem_eraseDups.mp again)).2
          simp at other

theorem nodup_keys (key : α → κ) (rows : List α) : (keys key rows).Nodup :=
  nodup_eraseDups _

theorem keys_filter (p : κ → Bool) (rows : List α) :
    keys key (rows.filter fun row => p (key row)) = (keys key rows).filter p := by
  unfold keys
  rw [← filter_eraseDups, List.filter_map]
  rfl

section

variable {f : κ → List α → List β} {rows : List α}

/-- A group that something comes of is there. -/
theorem mem_keys (empty : ∀ k, f k [] = []) {k : κ} {b : β}
    (result : b ∈ f k (rows.filter fun row => key row = k)) : k ∈ keys key rows := by
  refine List.mem_eraseDups.mpr ?_
  cases read : rows.filter fun row => key row = k with
  | nil =>
      rw [read, empty] at result
      cases result
  | cons row rest =>
      have member : row ∈ rows.filter fun row => key row = k := by
        rw [read]
        exact List.mem_cons_self
      obtain ⟨present, own⟩ := List.mem_filter.mp member
      exact List.mem_map.mpr ⟨row, present, of_decide_eq_true own⟩

theorem mem_perGroup (empty : ∀ k, f k [] = []) {b : β} :
    b ∈ perGroup key f rows ↔ ∃ k, b ∈ f k (rows.filter fun row => key row = k) := by
  constructor
  · intro result
    obtain ⟨k, -, own⟩ := List.mem_flatMap.mp result
    exact ⟨k, own⟩
  · intro result
    obtain ⟨k, own⟩ := result
    exact List.mem_flatMap.mpr ⟨k, mem_keys empty own, own⟩

/-- The results of a group are among all, as often. -/
theorem sublist_perGroup (empty : ∀ k, f k [] = []) (k : κ) :
    (f k (rows.filter fun row => key row = k)).Sublist (perGroup key f rows) := by
  cases results : f k (rows.filter fun row => key row = k) with
  | nil => exact List.nil_sublist _
  | cons b rest =>
      have result : b ∈ f k (rows.filter fun row => key row = k) := by
        rw [results]
        exact List.mem_cons_self
      rw [← results]
      exact List.sublist_flatten_of_mem (List.mem_map_of_mem (mem_keys empty result))

/-- A group of selected rows. -/
theorem group_filter (key : α → κ) {p : κ → Bool} {k : κ} (chosen : p k = true) (rows : List α) :
    (rows.filter fun row => p (key row)).filter (fun row => key row = k) =
      rows.filter fun row => key row = k := by
  rw [List.filter_filter]
  refine List.filter_congr fun row _ => ?_
  by_cases own : key row = k
  · simp [own, chosen]
  · simp [own]

/-- Selecting results by their group. -/
theorem filter_perGroup {p : κ → Bool} {q : β → Bool}
    (group : ∀ k, ∀ b ∈ f k (rows.filter fun row => key row = k), q b = p k) :
    (perGroup key f rows).filter q =
      perGroup key f (rows.filter fun row => p (key row)) := by
  have pick : ∀ ks : List κ,
      (ks.flatMap fun k => f k (rows.filter fun row => key row = k)).filter q =
        (ks.filter p).flatMap fun k =>
          f k ((rows.filter fun row => p (key row)).filter fun row => key row = k) := by
    intro ks
    induction ks with
    | nil => rfl
    | cons k ks ih =>
        rw [List.flatMap_cons, List.filter_append, ih]
        cases chosen : p k with
        | true =>
            have all : (f k (rows.filter fun row => key row = k)).filter q =
                f k (rows.filter fun row => key row = k) :=
              List.filter_eq_self.mpr fun b result => (group k b result).trans chosen
            rw [List.filter_cons_of_pos chosen, List.flatMap_cons, all, group_filter key chosen]
        | false =>
            have none : (f k (rows.filter fun row => key row = k)).filter q = [] := by
              refine List.filter_eq_nil_iff.mpr fun b result => ?_
              rw [group k b result, chosen]
              exact Bool.false_ne_true
            rw [List.filter_cons_of_neg (by rw [chosen]; exact Bool.false_ne_true), none,
              List.nil_append]
  unfold perGroup
  rw [pick, keys_filter]

/-- Only what is computed for the groups there are counts. -/
theorem perGroup_congr {f' : κ → List α → List β}
    (same : ∀ row ∈ rows, f (key row) (rows.filter fun other => key other = key row) =
      f' (key row) (rows.filter fun other => key other = key row)) :
    perGroup key f rows = perGroup key f' rows := by
  refine List.flatMap_congr fun k known => ?_
  obtain ⟨row, present, rfl⟩ := List.mem_map.mp (List.mem_eraseDups.mp known)
  exact same row present

end

end Grouping

end Relational
