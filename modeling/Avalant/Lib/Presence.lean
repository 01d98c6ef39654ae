import Mathlib.Data.List.Basic
import Mathlib.Data.List.Induction
import Mathlib.Logic.Function.Basic

/-!
Keys that come and go: since when one has been there, when gaps up to a length
do not count.

For each key two times are kept, of the first and of the last observation. A
purge forgets the keys whose last observation is too long ago; a key that is
observed after that starts anew. How often purges come, and whether they come
before or after the observations of a round, is left to the user.
-/

namespace Presence

variable {κ : Type*}

/-- The two tables. -/
structure Seen (κ : Type*) where
  first : κ → Option Nat
  last : κ → Option Nat

def Seen.none : Seen κ := ⟨fun _ => Option.none, fun _ => Option.none⟩

inductive Event (κ : Type*)
  | observe (time : Nat) (keys : List κ)
  | purge (time : Nat)

def Event.time : Event κ → Nat
  | .observe time _ | .purge time => time

/-- The events come in the order of time. -/
def Chronological (events : List (Event κ)) : Prop :=
  events.Pairwise fun e e' => e.time ≤ e'.time

/-- A key was observed at `first`, and each purge since then came no longer than
`gap` after an observation of it. -/
def Unbroken (gap : Nat) (events : List (Event κ)) (k : κ) (first : Nat) : Prop :=
  ∃ before keys later, events = before ++ .observe first keys :: later ∧ k ∈ keys ∧
    ∀ early time late, later = early ++ .purge time :: late →
      ∃ t keys', .observe t keys' ∈ Event.observe first keys :: early ∧ k ∈ keys' ∧ time ≤ t + gap

namespace Seen

variable [DecidableEq κ] {gap lifetime now : Nat}

def observe (now : Nat) (s : Seen κ) (k : κ) : Seen κ where
  first := Function.update s.first k (some ((s.first k).getD now))
  last := Function.update s.last k (some now)

/-- The last observation is too long ago. -/
def isGone (gap now : Nat) (s : Seen κ) (k : κ) : Bool :=
  (s.last k).any fun last => last + gap < now

def purge (gap now : Nat) (s : Seen κ) : Seen κ where
  first k := if s.isGone gap now k then Option.none else s.first k
  last k := if s.isGone gap now k then Option.none else s.last k

def apply (gap : Nat) (s : Seen κ) : Event κ → Seen κ
  | .observe time keys => keys.foldl (observe time) s
  | .purge time => s.purge gap time

def applyAll (gap : Nat) (events : List (Event κ)) : Seen κ :=
  events.foldl (apply gap) Seen.none

theorem applyAll_append (gap : Nat) (events later : List (Event κ)) :
    applyAll gap (events ++ later) = later.foldl (apply gap) (applyAll gap events) :=
  List.foldl_append

/-- A key has been there for a while. -/
def isReady (lifetime now : Nat) (s : Seen κ) (k : κ) : Bool :=
  (s.first k).any fun first => first + lifetime ≤ now

/-- A round: each candidate is observed, and goes through if its key had been
there for a while. -/
def round {α : Type*} (key : α → κ) (lifetime now : Nat) (s : Seen κ) (candidates : List α) :
    Seen κ × List α :=
  candidates.foldl (fun acc x =>
    (acc.1.observe now (key x),
      if acc.1.isReady lifetime now (key x) then acc.2 ++ [x] else acc.2)) (s, [])

/-! ## One event -/

theorem first_observe (s : Seen κ) (k k' : κ) :
    (s.observe now k').first k =
      if k = k' then some ((s.first k).getD now) else s.first k := by
  unfold observe
  by_cases same : k = k'
  · subst same
    simp
  · simp [same]

theorem last_observe (s : Seen κ) (k k' : κ) :
    (s.observe now k').last k = if k = k' then some now else s.last k := by
  unfold observe
  by_cases same : k = k'
  · subst same
    simp
  · simp [same]

theorem first_observeAll (s : Seen κ) (keys : List κ) (k : κ) :
    (keys.foldl (observe now) s).first k =
      if k ∈ keys then some ((s.first k).getD now) else s.first k := by
  induction keys generalizing s with
  | nil => rfl
  | cons k' keys ih =>
      rw [List.foldl_cons, ih, first_observe]
      by_cases same : k = k'
      · subst same
        simp
      · simp [same]

theorem last_observeAll (s : Seen κ) (keys : List κ) (k : κ) :
    (keys.foldl (observe now) s).last k = if k ∈ keys then some now else s.last k := by
  induction keys generalizing s with
  | nil => rfl
  | cons k' keys ih =>
      rw [List.foldl_cons, ih, last_observe]
      by_cases same : k = k'
      · subst same
        simp
      · simp [same]

/-- Observing one key says nothing of another. -/
theorem isReady_observe {s : Seen κ} {k k' : κ} (other : k ≠ k') :
    (s.observe now k').isReady lifetime now k = s.isReady lifetime now k := by
  unfold isReady
  rw [first_observe, if_neg other]

/-- In a round the keys do not depend on each other. -/
theorem round_eq {α : Type*} {key : α → κ} {candidates : List α}
    (nodup : (candidates.map key).Nodup) (s : Seen κ) :
    s.round key lifetime now candidates =
      ((candidates.map key).foldl (observe now) s,
        candidates.filter fun x => s.isReady lifetime now (key x)) := by
  have general : ∀ (s : Seen κ) (out : List α),
      candidates.foldl (fun acc x =>
        (acc.1.observe now (key x),
          if acc.1.isReady lifetime now (key x) then acc.2 ++ [x] else acc.2)) (s, out) =
      ((candidates.map key).foldl (observe now) s,
        out ++ candidates.filter fun x => s.isReady lifetime now (key x)) := by
    induction candidates with
    | nil => simp
    | cons x candidates ih =>
        obtain ⟨fresh, nodup⟩ := List.nodup_cons.mp nodup
        intro s out
        have same : candidates.filter (fun y => (s.observe now (key x)).isReady lifetime now
            (key y)) = candidates.filter fun y => s.isReady lifetime now (key y) := by
          refine List.filter_congr fun y member => isReady_observe fun clash => fresh ?_
          rw [← clash]
          exact List.mem_map_of_mem member
        rw [List.foldl_cons, ih nodup, same, List.map_cons, List.foldl_cons, List.filter_cons]
        split
        · rw [List.append_assoc, List.singleton_append]
        · rfl
  exact general s []

/-! ## Unbroken presence -/

end Seen

section

variable {gap : Nat} {events : List (Event κ)} {k : κ} {first time : Nat} {keys : List κ}

theorem Unbroken.mem (given : Unbroken gap events k first) :
    ∃ keys, .observe first keys ∈ events ∧ k ∈ keys := by
  obtain ⟨before, keys, later, rfl, member, -⟩ := given
  exact ⟨keys, List.mem_append_right _ List.mem_cons_self, member⟩

/-- Where a list that ends in `y` is split at `x`. -/
theorem split_concat {α : Type*} {xs early late : List α} {x y : α}
    (split : xs ++ [y] = early ++ x :: late) :
    early = xs ∧ x = y ∧ late = [] ∨ ∃ late', late = late' ++ [y] ∧ xs = early ++ x :: late' := by
  rcases List.eq_nil_or_concat late with rfl | ⟨late', z, rfl⟩
  · obtain ⟨same, last⟩ := List.append_inj' split rfl
    exact .inl ⟨same.symm, (List.cons.inj last).1.symm, rfl⟩
  · rw [List.concat_eq_append, ← List.cons_append, ← List.append_assoc] at split
    obtain ⟨same, last⟩ := List.append_inj' split rfl
    rw [List.concat_eq_append, (List.cons.inj last).1]
    exact .inr ⟨late', rfl, same⟩

/-- An observation begins a presence, and breaks none. -/
theorem unbroken_concat_observe :
    Unbroken gap (events ++ [.observe time keys]) k first ↔
      Unbroken gap events k first ∨ first = time ∧ k ∈ keys := by
  constructor
  · intro given
    obtain ⟨before, keys', later, split, member, kept⟩ := given
    rcases split_concat split with ⟨-, same, -⟩ | ⟨later', rfl, rfl⟩
    · obtain ⟨rfl, rfl⟩ := Event.observe.inj same
      exact .inr ⟨rfl, member⟩
    · refine .inl ⟨before, keys', later', rfl, member, fun early t late inside => ?_⟩
      refine kept early t (late ++ [.observe time keys]) ?_
      rw [inside, List.append_assoc, List.cons_append]
  · intro given
    rcases given with ⟨before, keys', later, rfl, member, kept⟩ | ⟨rfl, member⟩
    · refine ⟨before, keys', later ++ [.observe time keys], ?_, member,
        fun early t late inside => ?_⟩
      · rw [List.append_assoc, List.cons_append]
      · rcases split_concat inside with ⟨-, same, -⟩ | ⟨late', -, split⟩
        · cases same
        · exact kept early t late' split
    · refine ⟨events, keys, [], rfl, member, fun early t late inside => ?_⟩
      exact absurd inside (List.append_ne_nil_of_right_ne_nil early (List.cons_ne_nil _ _)).symm

/-- A purge keeps a presence that has an observation not too long ago. -/
theorem unbroken_concat_purge (chronological : Chronological events) :
    Unbroken gap (events ++ [.purge time]) k first ↔
      Unbroken gap events k first ∧
        ∃ t keys, .observe t keys ∈ events ∧ k ∈ keys ∧ time ≤ t + gap := by
  constructor
  · intro given
    obtain ⟨before, keys', later, split, member, kept⟩ := given
    rcases split_concat split with ⟨-, same, -⟩ | ⟨later', rfl, rfl⟩
    · cases same
    · refine ⟨⟨before, keys', later', rfl, member, fun early t late inside => ?_⟩, ?_⟩
      · refine kept early t (late ++ [.purge time]) ?_
        rw [inside, List.append_assoc, List.cons_append]
      · obtain ⟨t, keys, known, member', near⟩ := kept later' time [] rfl
        exact ⟨t, keys, List.mem_append_right _ known, member', near⟩
  · intro given
    obtain ⟨⟨before, keys', later, rfl, member, kept⟩, t, keys, known, member', near⟩ := given
    refine ⟨before, keys', later ++ [.purge time], ?_, member, fun early t' late inside => ?_⟩
    · rw [List.append_assoc, List.cons_append]
    · rcases split_concat inside with ⟨rfl, same, -⟩ | ⟨late', -, split⟩
      · cases same
        rcases List.mem_append.mp known with earlier | since
        · have order := (List.pairwise_append.mp chronological).2.2 _ earlier _
            List.mem_cons_self
          have order : t ≤ first := order
          exact ⟨first, keys', List.mem_cons_self, member, by omega⟩
        · exact ⟨t, keys, since, member', near⟩
      · exact kept early t' late' split

end

/-! ## Runs -/

section

variable [DecidableEq κ] {gap : Nat} {events : List (Event κ)}

/-- The tables say since when each key has been there, and when it was last
observed. -/
structure Tracks (gap : Nat) (events : List (Event κ)) (s : Seen κ) : Prop where
  unbroken : ∀ k first, s.first k = some first → Unbroken gap events k first
  first : ∀ k first, Unbroken gap events k first → ∃ first', s.first k = some first' ∧ first' ≤ first
  last : ∀ k last, s.last k = some last →
    (∃ keys, .observe last keys ∈ events ∧ k ∈ keys) ∧
      ∀ t keys, .observe t keys ∈ events → k ∈ keys → t ≤ last
  both : ∀ k, (s.last k).isSome = (s.first k).isSome

theorem Tracks.observe {s : Seen κ} {time : Nat} {keys : List κ} (tracks : Tracks gap events s)
    (chronological : Chronological (events ++ [.observe time keys])) :
    Tracks gap (events ++ [.observe time keys]) (s.apply gap (.observe time keys)) := by
  have past : ∀ e ∈ events, e.time ≤ time := fun e member =>
    (List.pairwise_append.mp chronological).2.2 e member _ List.mem_cons_self
  refine ⟨fun k first found => ?_, fun k first given => ?_, fun k last found => ?_, fun k => ?_⟩
  · rw [Seen.apply, Seen.first_observeAll] at found
    refine unbroken_concat_observe.mpr ?_
    split at found
    case isTrue member =>
      cases known : s.first k with
      | none =>
          rw [known] at found
          exact .inr ⟨(Option.some.inj found).symm, member⟩
      | some first' =>
          rw [known] at found
          have same : first' = first := Option.some.inj found
          subst same
          exact .inl (tracks.unbroken k first' known)
    case isFalse => exact .inl (tracks.unbroken k first found)
  · rw [Seen.apply, Seen.first_observeAll]
    rcases unbroken_concat_observe.mp given with since | ⟨rfl, member⟩
    · obtain ⟨first', known, le⟩ := tracks.first k first since
      refine ⟨first', ?_, le⟩
      rw [known]
      split
      · rfl
      · rfl
    · rw [if_pos member]
      cases known : s.first k with
      | none => exact ⟨first, rfl, Nat.le_refl first⟩
      | some first' =>
          obtain ⟨keys', inside, -⟩ := (tracks.unbroken k first' known).mem
          exact ⟨first', rfl, past _ inside⟩
  · rw [Seen.apply, Seen.last_observeAll] at found
    split at found
    case isTrue member =>
      cases found
      refine ⟨⟨keys, List.mem_append_right _ List.mem_cons_self, member⟩,
        fun t keys' inside _ => ?_⟩
      rcases List.mem_append.mp inside with old | new
      · exact past _ old
      · cases List.mem_singleton.mp new
        exact Nat.le_refl time
    case isFalse absent =>
      obtain ⟨⟨keys', inside, member⟩, latest⟩ := tracks.last k last found
      refine ⟨⟨keys', List.mem_append_left _ inside, member⟩, fun t keys'' inside' member' => ?_⟩
      rcases List.mem_append.mp inside' with old | new
      · exact latest t keys'' old member'
      · cases List.mem_singleton.mp new
        exact absurd member' absent
  · rw [Seen.apply, Seen.last_observeAll, Seen.first_observeAll]
    split
    · rfl
    · exact tracks.both k

theorem Tracks.purge {s : Seen κ} {time : Nat} (tracks : Tracks gap events s)
    (chronological : Chronological events) :
    Tracks gap (events ++ [.purge time]) (s.apply gap (.purge time)) := by
  refine ⟨fun k first found => ?_, fun k first given => ?_, fun k last found => ?_, fun k => ?_⟩
  · replace found : (if s.isGone gap time k then none else s.first k) = some first := found
    split at found
    · cases found
    case isFalse stays =>
      refine (unbroken_concat_purge chronological).mpr ⟨tracks.unbroken k first found, ?_⟩
      have there : (s.last k).isSome = true := by
        rw [tracks.both, found]
        rfl
      obtain ⟨last, known⟩ := Option.isSome_iff_exists.mp there
      obtain ⟨⟨keys, inside, member⟩, -⟩ := tracks.last k last known
      refine ⟨last, keys, inside, member, ?_⟩
      unfold Seen.isGone at stays
      rw [known] at stays
      simpa using stays
  · obtain ⟨since, t, keys, inside, member, near⟩ := (unbroken_concat_purge chronological).mp given
    obtain ⟨first', known, le⟩ := tracks.first k first since
    have there : (s.last k).isSome = true := by
      rw [tracks.both, known]
      rfl
    obtain ⟨last, latest⟩ := Option.isSome_iff_exists.mp there
    have stays : ¬ s.isGone gap time k = true := by
      have upper := (tracks.last k last latest).2 t keys inside member
      unfold Seen.isGone
      rw [latest]
      simp only [Option.any_some, decide_eq_true_eq]
      omega
    exact ⟨first', (if_neg stays).trans known, le⟩
  · replace found : (if s.isGone gap time k then none else s.last k) = some last := found
    split at found
    · cases found
    · obtain ⟨⟨keys, inside, member⟩, latest⟩ := tracks.last k last found
      refine ⟨⟨keys, List.mem_append_left _ inside, member⟩, fun t keys' inside' member' => ?_⟩
      rcases List.mem_append.mp inside' with old | new
      · exact latest t keys' old member'
      · cases List.mem_singleton.mp new
  · change Option.isSome (if _ then _ else _) = Option.isSome (if _ then _ else _)
    split
    · rfl
    · exact tracks.both k

theorem tracks_applyAll (chronological : Chronological events) :
    Tracks gap events (Seen.applyAll gap events) := by
  induction events using List.reverseRecOn with
  | nil =>
      refine ⟨fun k first found => ?_, fun k first given => ?_, fun k last found => ?_,
        fun k => rfl⟩
      · cases found
      · obtain ⟨keys, inside, -⟩ := given.mem
        cases inside
      · cases found
  | append_singleton events e ih =>
      have before : Chronological events := (List.pairwise_append.mp chronological).1
      unfold Seen.applyAll at ih ⊢
      rw [List.foldl_append]
      cases e with
      | observe time keys => exact (ih before).observe chronological
      | purge time => exact (ih before).purge before

/-- A key is let through if it has been there, with no gap that a purge fell
into, for the lifetime. -/
theorem isReady_iff (chronological : Chronological events) {lifetime now : Nat} {k : κ} :
    (Seen.applyAll gap events).isReady lifetime now k = true ↔
      ∃ first, Unbroken gap events k first ∧ first + lifetime ≤ now := by
  have tracks : Tracks gap events (Seen.applyAll gap events) := tracks_applyAll chronological
  unfold Seen.isReady
  constructor
  · intro ready
    cases known : (Seen.applyAll gap events).first k with
    | none =>
        rw [known] at ready
        cases ready
    | some first =>
        rw [known] at ready
        exact ⟨first, tracks.unbroken k first known, of_decide_eq_true ready⟩
  · intro given
    obtain ⟨first, since, old⟩ := given
    obtain ⟨first', known, le⟩ := tracks.first k first since
    rw [known]
    exact decide_eq_true (by omega)

end

/-! ## Tables -/

/-- A table that is computed round by round: the candidates of an input, if the
round gets that far, and when the round purges. -/
structure Rounds (ι α κ : Type*) where
  now : ι → Nat
  candidates : ι → Option (List α)
  key : α → κ
  lifetime : Nat
  gap : Nat
  purgeFirst : Bool

namespace Rounds

variable {ι α : Type*} [DecidableEq κ] (r : Rounds ι α κ)

/-- A round, and the candidates that go through. -/
def round (s : Seen κ) (i : ι) : Seen κ × List α :=
  match r.candidates i with
  | none => (s, [])
  | some candidates =>
      if r.purgeFirst then (s.purge r.gap (r.now i)).round r.key r.lifetime (r.now i) candidates
      else
        let (s, kept) := s.round r.key r.lifetime (r.now i) candidates
        (s.purge r.gap (r.now i), kept)

/-- The tables after the rounds of some inputs. -/
def after (inputs : List ι) : Seen κ :=
  inputs.foldl (fun s i => (r.round s i).1) Seen.none

def kept (inputs : List ι) (i : ι) : List α :=
  (r.round (r.after inputs) i).2

def events (i : ι) : List (Event κ) :=
  match r.candidates i with
  | none => []
  | some candidates =>
      if r.purgeFirst then [.purge (r.now i), .observe (r.now i) (candidates.map r.key)]
      else [.observe (r.now i) (candidates.map r.key), .purge (r.now i)]

/-- What has happened when a round looks at its candidates. -/
def before (inputs : List ι) (i : ι) : List (Event κ) :=
  inputs.flatMap r.events ++ if r.purgeFirst then [.purge (r.now i)] else []

/-- The inputs come in the order of time. -/
def Ordered (inputs : List ι) : Prop :=
  inputs.Pairwise fun i i' => r.now i ≤ r.now i'

/-- No key is a candidate twice in a round. -/
def Once : Prop :=
  ∀ i candidates, r.candidates i = some candidates → (candidates.map r.key).Nodup

variable {r} {inputs : List ι} {i : ι}

omit [DecidableEq κ] in
theorem time_of_mem_events {e : Event κ} (member : e ∈ r.events i) : e.time = r.now i := by
  unfold events at member
  split at member
  · cases member
  · split at member
    · rcases List.mem_pair.mp member with rfl | rfl
      · rfl
      · rfl
    · rcases List.mem_pair.mp member with rfl | rfl
      · rfl
      · rfl

omit [DecidableEq κ] in
theorem chronological_before (ordered : r.Ordered (inputs ++ [i])) :
    Chronological (r.before inputs i) := by
  have within : ∀ i, Chronological (r.events i) := by
    intro i
    unfold events
    split
    · exact List.Pairwise.nil
    · split
      · exact List.pairwise_pair.mpr (Nat.le_refl _)
      · exact List.pairwise_pair.mpr (Nat.le_refl _)
  obtain ⟨earlier, -, last⟩ := List.pairwise_append.mp ordered
  refine List.pairwise_append.mpr ⟨?_, ?_, fun e inside e' inside' => ?_⟩
  · refine List.pairwise_flatMap.mpr ⟨fun i _ => within i, earlier.imp fun le e inside e' inside' => ?_⟩
    rw [time_of_mem_events inside, time_of_mem_events inside']
    exact le
  · split
    · exact List.pairwise_singleton _ _
    · exact List.Pairwise.nil
  · split at inside'
    · obtain ⟨j, member, inside⟩ := List.mem_flatMap.mp inside
      rw [time_of_mem_events inside, List.mem_singleton.mp inside']
      exact last j member i List.mem_cons_self
    · cases inside'

theorem round_state (once : r.Once) (s : Seen κ) (i : ι) :
    (r.round s i).1 = (r.events i).foldl (Seen.apply r.gap) s := by
  unfold round events
  cases given : r.candidates i with
  | none => rfl
  | some candidates =>
      have nodup := once i candidates given
      cases r.purgeFirst with
      | true =>
          dsimp only
          rw [if_pos rfl, if_pos rfl, Seen.round_eq nodup]
          rfl
      | false =>
          dsimp only
          rw [if_neg Bool.false_ne_true, if_neg Bool.false_ne_true, Seen.round_eq nodup]
          rfl

theorem after_eq (once : r.Once) (inputs : List ι) :
    r.after inputs = Seen.applyAll r.gap (inputs.flatMap r.events) := by
  have general : ∀ s, inputs.foldl (fun s i => (r.round s i).1) s =
      (inputs.flatMap r.events).foldl (Seen.apply r.gap) s := by
    induction inputs with
    | nil => exact fun s => rfl
    | cons i inputs ih =>
        intro s
        rw [List.foldl_cons, ih, round_state once, List.flatMap_cons, List.foldl_append]
  exact general _

/-- The candidates that go through are those whose key was ready. -/
theorem kept_eq (once : r.Once) (inputs : List ι) (i : ι) :
    r.kept inputs i = ((r.candidates i).getD []).filter fun x =>
      (Seen.applyAll r.gap (r.before inputs i)).isReady r.lifetime (r.now i) (r.key x) := by
  unfold kept round before
  cases given : r.candidates i with
  | none => rfl
  | some candidates =>
      have nodup := once i candidates given
      cases r.purgeFirst with
      | true =>
          dsimp only
          rw [if_pos rfl, if_pos rfl, Seen.round_eq nodup, after_eq once, Seen.applyAll_append]
          rfl
      | false =>
          dsimp only
          rw [if_neg Bool.false_ne_true, if_neg Bool.false_ne_true, List.append_nil,
            Seen.round_eq nodup, after_eq once]
          rfl

/-- A candidate goes through if its key has been there for the lifetime. -/
theorem mem_kept_iff (once : r.Once) (ordered : r.Ordered (inputs ++ [i])) {x : α} :
    x ∈ r.kept inputs i ↔ x ∈ (r.candidates i).getD [] ∧
      ∃ first, Unbroken r.gap (r.before inputs i) (r.key x) first ∧ first + r.lifetime ≤ r.now i := by
  rw [kept_eq once, List.mem_filter, isReady_iff (chronological_before ordered)]

theorem nodup_kept (once : r.Once) (inputs : List ι) (i : ι) :
    ((r.kept inputs i).map r.key).Nodup := by
  have nodup : (((r.candidates i).getD []).map r.key).Nodup := by
    cases given : r.candidates i with
    | none => exact List.nodup_nil
    | some candidates => exact once i candidates given
  rw [kept_eq once]
  exact nodup.sublist (List.filter_sublist.map r.key)

end Rounds

end Presence
