import Avalant.Cache.Store
import Mathlib.Data.Finset.Basic
import Mathlib.Data.Finset.Dedup
import Mathlib.Data.Finset.Lattice.Lemmas

/-!
The symbols that a venue should be subscribed to: the prewarm list, and what users
have asked for within the idle window.
-/

namespace Avalant

namespace Exchange

/-- `IdleWindow`: 120 s. -/
def idleWindow : Nat := 120 * 1000000000

/-- What the manager knows of one venue. -/
structure Venue where
  prewarm : Finset String
  /-- The last touch of each symbol. -/
  userSubs : AList fun _ : String => Instant
  /-- The set that was applied last. -/
  current : Finset String

namespace Venue

def initial : Venue := ⟨∅, ∅, ∅⟩

/-- `PrewarmSet`. -/
def prewarmSet (v : Venue) (syms : List String) : Venue :=
  { v with prewarm := (syms.filter (· ≠ "")).toFinset }

/-- `Touch`. -/
def touch (v : Venue) (symbol : String) (now : Instant) : Venue :=
  if symbol = "" then v else { v with userSubs := v.userSubs.insert symbol now }

/-- `Untouch`. -/
def untouch (v : Venue) (symbol : String) : Venue :=
  { v with userSubs := v.userSubs.erase symbol }

/-- Expired touches are dropped. -/
def pruned (v : Venue) (now : Instant) : Venue :=
  { v with
    userSubs := ⟨v.userSubs.entries.filter fun e => !decide (e.2 + idleWindow < now),
      v.userSubs.nodupKeys.sublist List.filter_sublist⟩ }

def userSet (v : Venue) : Finset String :=
  v.userSubs.keys.toFinset

/-- What the venue should be subscribed to. -/
def union (v : Venue) : Finset String :=
  v.prewarm ∪ v.userSet

/-- The order in which the runner gets the symbols: those of the users first, each part in the order
of a map. -/
def Flat (v : Venue) (users rest : List String) : Prop :=
  users.Nodup ∧ users.toFinset = v.userSet ∧ rest.Nodup ∧ rest.toFinset = v.union \ v.userSet

instance (v : Venue) (users rest : List String) : Decidable (v.Flat users rest) :=
  inferInstanceAs (Decidable (_ ∧ _))

/-- `reconcile` for one venue: what is known after it, and whether the runner gets the symbols. -/
def reconcile (v : Venue) (now : Instant) : Venue × Bool :=
  let v := v.pruned now
  if v.current = v.union then (v, false) else ({ v with current := v.union }, true)

end Venue

/-! ## What a reconcile leaves -/

theorem userSet_subset_union (v : Venue) : v.userSet ⊆ v.union :=
  Finset.subset_union_right

/-- What a reconcile leaves. -/
theorem reconcile_cases (v : Venue) (now : Instant) :
    ((v.pruned now).current = (v.pruned now).union ∧ v.reconcile now = (v.pruned now, false)) ∨
      v.reconcile now = ({ v.pruned now with current := (v.pruned now).union }, true) := by
  unfold Venue.reconcile
  dsimp only
  split
  case isTrue same => exact Or.inl ⟨same, rfl⟩
  case isFalse => exact Or.inr rfl

/-- The symbols a reconcile asks for are those of its union. -/
theorem flat_toFinset {v : Venue} {users rest : List String} (flat : v.Flat users rest) :
    (users ++ rest).toFinset = v.union := by
  obtain ⟨-, first, -, others⟩ := flat
  rw [List.toFinset_append, first, others]
  exact Finset.union_sdiff_of_subset (userSet_subset_union v)

/-- Touches stay until they expire. -/
theorem lookup_pruned (v : Venue) (now : Instant) (symbol : String) :
    (v.pruned now).userSubs.lookup symbol =
      (v.userSubs.lookup symbol).filter fun at_ => !decide (at_ + idleWindow < now) :=
  lookup_filter v.userSubs (fun _ at_ => !decide (at_ + idleWindow < now)) symbol _

theorem mem_userSet {v : Venue} {symbol : String} :
    symbol ∈ v.userSet ↔ ∃ at_, v.userSubs.lookup symbol = some at_ := by
  unfold Venue.userSet
  rw [List.mem_toFinset, ← AList.mem_keys, ← AList.lookup_isSome, Option.isSome_iff_exists]

/-- The symbols of a reconcile: the prewarm list, and the touches within the idle window. -/
theorem mem_union_pruned {v : Venue} {now : Instant} {symbol : String} :
    symbol ∈ (v.pruned now).union ↔
      symbol ∈ v.prewarm ∨ ∃ at_, v.userSubs.lookup symbol = some at_ ∧ now ≤ at_ + idleWindow := by
  unfold Venue.union
  rw [Finset.mem_union, mem_userSet, lookup_pruned]
  simp [Option.filter_eq_some_iff, Venue.pruned]

theorem current_reconcile (v : Venue) (now : Instant) :
    (v.reconcile now).1.current = (v.pruned now).union ∧
      (v.reconcile now).1.userSubs = (v.pruned now).userSubs := by
  rcases reconcile_cases v now with ⟨same, skipped⟩ | applied
  · exact skipped ▸ ⟨same, rfl⟩
  · exact applied ▸ ⟨rfl, rfl⟩

end Exchange

end Avalant
