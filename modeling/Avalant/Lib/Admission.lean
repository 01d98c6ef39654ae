import Avalant.Lib.Grouping
import Mathlib.Data.List.AList
import Mathlib.Data.List.Perm.Subperm
import Mathlib.Order.Basic

/-!
A bounded map that takes in the keys of a request.

Only the first places of the request are looked at, as many as are free. Keys that are held already
and keys that come again take up a place all the same.
-/

namespace Admission

variable {K V : Type*} [DecidableEq K] {cap : Nat} {fresh : V} {held after : AList fun _ : K => V}
  {asked : List K} {k : K}

/-- A key is added unless it is held. -/
def takeIn (fresh : V) (state : AList (fun _ : K => V) × List K) (k : K) :
    AList (fun _ : K => V) × List K :=
  if k ∈ state.1 then state else (state.1.insert k fresh, state.2 ++ [k])

/-- The keys that are not held, each where it first comes. -/
def news (held : AList fun _ : K => V) (asked : List K) : List K :=
  (asked.filter fun k => k ∉ held).eraseDups

/-- A key of the request is refused only where the bound is reached by what was held, and by what
came before the key. -/
def FillsCap (cap : Nat) (held after : AList fun _ : K => V) (asked : List K) : Prop :=
  ∀ before k rest, asked = before ++ k :: rest → k ∉ after →
    cap ≤ (after.keys.filter fun k' => k' ∈ held ∨ k' ∈ before).length

/-! ## What is added -/

theorem mem_news : k ∈ news held asked ↔ k ∈ asked ∧ k ∉ held := by
  unfold news
  rw [List.mem_eraseDups, List.mem_filter, decide_eq_true_eq]

theorem nodup_news (held : AList fun _ : K => V) (asked : List K) : (news held asked).Nodup :=
  Relational.Grouping.nodup_eraseDups _

theorem news_cons_of_mem (member : k ∈ held) (asked : List K) :
    news held (k :: asked) = news held asked := by
  unfold news
  rw [List.filter_cons_of_neg (by simp [member])]

theorem news_cons_of_not_mem (unknown : k ∉ held) (fresh : V) (asked : List K) :
    news held (k :: asked) = k :: news (held.insert k fresh) asked := by
  unfold news
  rw [List.filter_cons_of_pos (by simp [unknown]), List.eraseDups_cons, List.filter_filter]
  congr 2
  refine List.filter_congr fun k' _ => ?_
  by_cases same : k' = k
  · simp [same]
  · simp [same, AList.mem_insert]

theorem keys_insert_of_not_mem (unknown : k ∉ held) (fresh : V) :
    (held.insert k fresh).keys = k :: held.keys := by
  rw [AList.keys_insert, List.erase_of_not_mem (mt AList.mem_keys.mpr unknown)]

/-- The new keys are added in the order of the request; what was held stays. -/
theorem foldl_takeIn (fresh : V) (asked : List K) (held : AList fun _ : K => V) (added : List K) :
    (asked.foldl (takeIn fresh) (held, added)).2 = added ++ news held asked ∧
      (asked.foldl (takeIn fresh) (held, added)).1.keys =
        (news held asked).reverse ++ held.keys ∧
      ∀ k ∈ held, (asked.foldl (takeIn fresh) (held, added)).1.lookup k = held.lookup k := by
  induction asked generalizing held added with
  | nil => exact ⟨(List.append_nil added).symm, rfl, fun _ _ => rfl⟩
  | cons k asked ih =>
      rw [List.foldl_cons]
      unfold takeIn
      dsimp only
      split
      case isTrue member =>
        rw [news_cons_of_mem member]
        exact ih held added
      case isFalse unknown =>
        obtain ⟨adds, keys, stays⟩ := ih (held.insert k fresh) (added ++ [k])
        rw [news_cons_of_not_mem unknown fresh]
        refine ⟨?_, ?_, fun k' member => ?_⟩
        · exact adds.trans (List.append_assoc added [k] _)
        · refine keys.trans ?_
          rw [keys_insert_of_not_mem unknown, List.reverse_cons, List.append_assoc]
          rfl
        · have other : k' ≠ k := fun same => unknown (same ▸ member)
          refine (stays k' ((AList.mem_insert _).mpr (Or.inr member))).trans ?_
          exact AList.lookup_insert_ne other

theorem length_news_le (held : AList fun _ : K => V) (asked : List K) :
    (news held asked).length ≤ asked.length :=
  ((nodup_news held asked).subperm fun _ member => (mem_news.mp member).1).length_le

/-- As many as are asked for are new just when none is held and none comes again. -/
theorem length_news_eq_iff :
    (news held asked).length = asked.length ↔ asked.Nodup ∧ ∀ k ∈ asked, k ∉ held := by
  have within : (news held asked).Subperm asked :=
    (nodup_news held asked).subperm fun _ member => (mem_news.mp member).1
  constructor
  · intro same
    have perm := within.perm_of_length_le same.ge
    exact ⟨perm.nodup_iff.mp (nodup_news held asked), fun k member =>
      (mem_news.mp (perm.mem_iff.mpr member)).2⟩
  · rintro ⟨nodup, unknown⟩
    refine within.length_le.antisymm (nodup.subperm fun k member => ?_).length_le
    exact mem_news.mpr ⟨member, unknown k member⟩

/-! ## What is refused -/

/-- The first places that are free are taken in. -/
structure TakesIn (cap : Nat) (held after : AList fun _ : K => V) (asked : List K) : Prop where
  within : held.keys.length ≤ cap
  keys : after.keys = (news held (asked.take (cap - held.keys.length))).reverse ++ held.keys

theorem TakesIn.mem (takes : TakesIn cap held after asked) :
    k ∈ after ↔ k ∈ held ∨ k ∈ asked.take (cap - held.keys.length) := by
  rw [AList.mem_keys, takes.keys, List.mem_append, List.mem_reverse, mem_news, AList.mem_keys]
  tauto

theorem TakesIn.length (takes : TakesIn cap held after asked) :
    after.keys.length =
      held.keys.length + (news held (asked.take (cap - held.keys.length))).length := by
  rw [takes.keys, List.length_append, List.length_reverse, Nat.add_comm]

theorem TakesIn.capped (takes : TakesIn cap held after asked) : after.keys.length ≤ cap := by
  have bound := length_news_le held (asked.take (cap - held.keys.length))
  have places := List.length_take_le (cap - held.keys.length) asked
  have within := takes.within
  rw [takes.length]
  omega

omit [DecidableEq K] in
theorem mem_of_refused {before rest : List K} {n : Nat} {k' : K}
    (refused : k ∉ (before ++ k :: rest).take n) (member : k' ∈ (before ++ k :: rest).take n) :
    k' ∈ before := by
  rw [List.take_append] at refused member
  rcases Nat.le_total n before.length with few | many
  · rw [Nat.sub_eq_zero_of_le few, List.take_zero, List.append_nil] at member
    exact List.mem_of_mem_take member
  · cases places : n - before.length with
    | zero =>
        rw [places, List.take_zero, List.append_nil] at member
        exact List.mem_of_mem_take member
    | succ m =>
        rw [places, List.take_succ_cons] at refused
        exact absurd (List.mem_append_right _ List.mem_cons_self) refused

/-- Where a key is lost, the bound is reached, so that all places are taken up by new keys. -/
theorem TakesIn.fits_of_lost (takes : TakesIn cap held after asked)
    (fills : FillsCap cap held after asked)
    (later : k ∈ asked.drop (cap - held.keys.length)) (refused : k ∉ after) :
    (asked.take (cap - held.keys.length)).Nodup ∧
      ∀ k ∈ asked.take (cap - held.keys.length), k ∉ held := by
  obtain ⟨skipped, rest, split⟩ := List.append_of_mem later
  have request : asked =
      (asked.take (cap - held.keys.length) ++ skipped) ++ k :: rest := by
    rw [List.append_assoc, ← split, List.take_append_drop]
  have full := (fills _ k rest request refused).trans (List.length_filter_le _ _)
  have total := takes.length
  have within := takes.within
  have places := List.length_take_le (cap - held.keys.length) asked
  have bound := length_news_le held (asked.take (cap - held.keys.length))
  exact length_news_eq_iff.mp (by omega)

/-- New keys take up all places, and come before a key that is refused. -/
theorem TakesIn.fillsCap_of_fits (takes : TakesIn cap held after asked)
    (fits : (asked.take (cap - held.keys.length)).Nodup ∧
      ∀ k ∈ asked.take (cap - held.keys.length), k ∉ held) : FillsCap cap held after asked := by
  intro before k rest request refused
  rw [takes.mem, not_or] at refused
  have all : after.keys.filter (fun k' => k' ∈ held ∨ k' ∈ before) = after.keys := by
    refine List.filter_eq_self.mpr fun k' member => ?_
    rw [decide_eq_true_eq]
    refine (takes.mem.mp (AList.mem_keys.mpr member)).imp id fun early => ?_
    have beyond := refused.2
    rw [request] at early beyond
    exact mem_of_refused beyond early
  have long : cap - held.keys.length < asked.length := by
    by_contra short
    rw [List.take_of_length_le (not_lt.mp short), request] at refused
    exact refused.2 (List.mem_append_right _ List.mem_cons_self)
  have count := length_news_eq_iff.mpr fits
  rw [List.length_take, Nat.min_eq_left long.le] at count
  have total := takes.length
  have within := takes.within
  rw [all, total]
  omega

/-- No key is refused below the bound just when the places that are looked at are all taken up by
new keys, or the others hold nothing more. -/
theorem TakesIn.fillsCap_iff (takes : TakesIn cap held after asked) :
    FillsCap cap held after asked ↔
      ((asked.take (cap - held.keys.length)).Nodup ∧
          ∀ k ∈ asked.take (cap - held.keys.length), k ∉ held) ∨
        ∀ k ∈ asked.drop (cap - held.keys.length),
          k ∈ held ∨ k ∈ asked.take (cap - held.keys.length) := by
  constructor
  · intro fills
    rw [or_iff_not_imp_left]
    intro unfit k later
    rw [← takes.mem]
    by_contra refused
    exact unfit (takes.fits_of_lost fills later refused)
  · rintro (fits | nothing)
    · exact takes.fillsCap_of_fits fits
    · intro before k rest request refused
      have listed : k ∈ asked := by
        rw [request]
        exact List.mem_append_right _ List.mem_cons_self
      rw [← List.take_append_drop (cap - held.keys.length) asked, List.mem_append] at listed
      exact absurd (takes.mem.mpr (listed.elim Or.inr (nothing k))) refused

end Admission
