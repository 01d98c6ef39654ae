import Mathlib.Algebra.Order.Monoid.Unbundled.Basic
import Mathlib.Order.Lattice

/-!
A key with one owner, in a store that forgets it after a lifetime.

Participants take the key when nobody has it, put it off before it lapses, and give it
back. None of them sees the store: all that one knows is that the key is its own up
to some moment, `Until`, and that no other participant can know the same of the same
moment, `Until.unique`. What the operations of the others leave of it is `Until.acquire`,
`Until.renew` and `Until.release`; an owner that is overwritten loses it, unless it was
the one that wrote.
-/

namespace Lease

/-- The key in its store: its owner, and when it was put last. -/
structure Key (ι T : Type*) [LinearOrder T] (ttl : T) where
  now : T
  entry : Option (ι × T)
  past : ∀ e ∈ entry, e.2 ≤ now

variable {ι T : Type*} [LinearOrder T] [Add T] {ttl : T}

namespace Key

def new (now : T) : Key ι T ttl := ⟨now, none, fun _ no => by cases no⟩

def holder (k : Key ι T ttl) : Option ι :=
  match k.entry with
  | none => none
  | some e => if k.now < e.2 + ttl then some e.1 else none

/-- The key is the participant's up to this moment. -/
def Until (k : Key ι T ttl) (i : ι) (t : T) : Prop :=
  k.now < t → ∃ e ∈ k.entry, e.1 = i ∧ t ≤ e.2 + ttl

variable {k : Key ι T ttl} {i j : ι} {t t' : T}

theorem Until.holder (mine : k.Until i t) (early : k.now < t) : k.holder = some i := by
  obtain ⟨e, entry, owner, lapses⟩ := mine early
  unfold Key.holder
  rw [Option.mem_def.mp entry]
  exact (if_pos (lt_of_lt_of_le early lapses)).trans (congrArg some owner)

theorem Until.unique (mine : k.Until i t) (yours : k.Until j t') (early : k.now < t)
    (early' : k.now < t') : i = j :=
  Option.some.inj ((mine.holder early).symm.trans (yours.holder early'))

theorem Until.anti (mine : k.Until i t) (le : t' ≤ t) : k.Until i t' := by
  intro early
  obtain ⟨e, entry, owner, lapses⟩ := mine (lt_of_lt_of_le early le)
  exact ⟨e, entry, owner, le_trans le lapses⟩

/-! ## Operations -/

def put (k : Key ι T ttl) (i : ι) : Key ι T ttl :=
  ⟨k.now, some (i, k.now), fun e mine => by
    cases mine
    exact le_refl _⟩

def clear (k : Key ι T ttl) : Key ι T ttl := ⟨k.now, none, fun _ no => by cases no⟩

theorem until_put : (k.put i).Until i (k.now + ttl) := fun _ => ⟨_, rfl, rfl, le_refl _⟩

/-- Putting it again is no loss. -/
theorem Until.put [AddRightMono T] (mine : k.Until i t) : (k.put i).Until i t := by
  intro early
  obtain ⟨e, entry, _, lapses⟩ := mine early
  exact ⟨_, rfl, rfl, le_trans lapses (add_le_add_left (k.past e entry) _)⟩

/-- Takes the key if nobody has it. -/
def acquire (k : Key ι T ttl) (i : ι) : Key ι T ttl × Bool :=
  if k.holder = none then (k.put i, true) else (k, false)

@[simp] theorem acquire_now : (k.acquire i).1.now = k.now := by
  unfold acquire
  split
  · rfl
  · rfl

theorem until_acquire (got : (k.acquire i).2 = true) : (k.acquire i).1.Until i (k.now + ttl) := by
  unfold acquire at got ⊢
  split at got
  case isTrue free =>
    rw [if_pos free]
    exact until_put
  case isFalse => cases got

theorem acquire_of_held (held : k.holder ≠ none) : k.acquire i = (k, false) := if_neg held

/-- Nobody takes a key that has an owner. -/
theorem Until.acquire (mine : k.Until i t) : (k.acquire j).1.Until i t := by
  unfold Key.acquire
  split
  case isTrue free =>
    intro early
    cases (mine.holder early).symm.trans free
  case isFalse => exact mine

/-- Takes the key from whoever has it. -/
def overwrite (k : Key ι T ttl) (i : ι) : Key ι T ttl × Bool :=
  if k.holder = none then (k, false) else (k.put i, true)

theorem overwrite_of_held (held : k.holder ≠ none) : k.overwrite i = (k.put i, true) := if_neg held

@[simp] theorem overwrite_now : (k.overwrite i).1.now = k.now := by
  unfold overwrite
  split
  · rfl
  · rfl

theorem until_overwrite (got : (k.overwrite i).2 = true) :
    (k.overwrite i).1.Until i (k.now + ttl) := by
  unfold overwrite at got ⊢
  split at got
  case isTrue => cases got
  case isFalse taken =>
    rw [if_neg taken]
    exact until_put

/-- The owner may write over itself. -/
theorem Until.overwrite [AddRightMono T] (mine : k.Until i t) (yours : k.now < t → k.holder = some j) :
    (k.overwrite j).1.Until i t := by
  unfold Key.overwrite
  split
  case isTrue => exact mine
  case isFalse =>
    intro early
    cases Option.some.inj ((mine.holder early).symm.trans (yours early))
    exact mine.put early

section

variable [DecidableEq ι]

/-- Puts off the key of its owner. -/
def renew (k : Key ι T ttl) (i : ι) : Key ι T ttl × Bool :=
  if k.holder = some i then (k.put i, true) else (k, false)

@[simp] theorem renew_now : (k.renew i).1.now = k.now := by
  unfold renew
  split
  · rfl
  · rfl

theorem until_renew (got : (k.renew i).2 = true) : (k.renew i).1.Until i (k.now + ttl) := by
  unfold renew at got ⊢
  split at got
  case isTrue owner =>
    rw [if_pos owner]
    exact until_put
  case isFalse => cases got

theorem Until.renew [AddRightMono T] (mine : k.Until i t) : (k.renew j).1.Until i t := by
  unfold Key.renew
  split
  case isTrue owner =>
    intro early
    cases (mine.holder early).symm.trans owner
    exact mine.put early
  case isFalse => exact mine

/-- Gives back the key of its owner. -/
def release (k : Key ι T ttl) (i : ι) : Key ι T ttl :=
  if k.holder = some i then k.clear else k

@[simp] theorem release_now : (k.release i).now = k.now := by
  unfold release
  split
  · rfl
  · rfl

/-- Nobody gives back the key of another. -/
theorem Until.release (mine : k.Until i t) (other : i ≠ j) : (k.release j).Until i t := by
  unfold Key.release
  split
  case isTrue owner =>
    intro early
    exact absurd (Option.some.inj ((mine.holder early).symm.trans owner)) other
  case isFalse => exact mine

end

/-- Time passes, and never back. -/
def wait (k : Key ι T ttl) (t : T) : Key ι T ttl :=
  ⟨max k.now t, k.entry, fun e entry => le_trans (k.past e entry) (le_max_left ..)⟩

theorem holder_wait (alive : ∀ e ∈ k.entry, t < e.2 + ttl) : (k.wait t).holder = k.holder := by
  obtain ⟨now, entry, past⟩ := k
  cases entry with
  | none => rfl
  | some e =>
      unfold holder wait
      dsimp only
      simp only [max_lt_iff, alive e rfl, and_true]

theorem Until.wait (mine : k.Until i t) : (k.wait t').Until i t := fun early =>
  mine (lt_of_le_of_lt (le_max_left ..) early)

end Key

end Lease
