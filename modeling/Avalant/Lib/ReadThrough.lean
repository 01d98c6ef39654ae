import Mathlib.Algebra.Order.Group.Basic
import Mathlib.Logic.Function.Basic
import Avalant.Lib.Run

/-!
Read-through caches with a lifetime, in front of a store that others write.

Each process keeps the answers it has read, with a stamp, and serves one as long
as the stamp is younger than the lifetime. A call takes the time, looks into the
cache, and on a miss reads the store and puts an entry; a write and the clearing
of the writer's own cache are two steps more. Anything may happen in between,
and the other processes are told nothing.

What such a cache guarantees is bounded staleness: every answer was right at a
moment less than the lifetime before the call (`Sound.returned`). In the
writer's own process the answers are right from the clearing on, unless a read
under way is put after it (`UpToDate`).

`past`, `readAt` and `returned` are for the statements.
-/

namespace ReadThrough

open Transition

/-- What is cached of the store, and for how long. -/
structure Cache (σ K V T : Type*) where
  query : K → σ → V
  ttl : T

structure Entry (V T : Type*) where
  value : V
  stamp : T
  readAt : T

/-- How far a call has come. -/
inductive Phase (V T : Type*)
  | asked
  | missed
  | answered (value : V) (readAt : T)

structure Call (P K V T : Type*) where
  process : P
  key : K
  now : T
  phase : Phase V T := .asked

/-- What a call returned, with the time it took at its start. -/
structure Returned (K V T : Type*) where
  key : K
  value : V
  now : T

/-- A write whose process has still to clear these keys. -/
structure Clearing (P K : Type*) where
  process : P
  keys : K → Bool

structure State (σ P K V T : Type*) where
  clock : T
  store : σ
  /-- The stores before this one, and when each was replaced. -/
  past : List (σ × T) := []
  cached : P → K → Option (Entry V T) := fun _ _ => none
  calls : List (Call P K V T) := []
  clearings : List (Clearing P K) := []
  returned : List (Returned K V T) := []

inductive Act (σ P K T : Type*)
  | wait (until_ : T)
  | ask (process : P) (key : K)
  | look (i : Nat)
  | read (i : Nat)
  | put (i : Nat)
  /-- The read raises, or its caller is cancelled. -/
  | abandon (i : Nat)
  | write (process : P) (store : σ) (keys : K → Bool)
  | clear (i : Nat)

variable {σ P K V T : Type*}

namespace State

/-! ## Entries -/

section

variable [DecidableEq P] {s : State σ P K V T}

def cleared (s : State σ P K V T) (clearing : Clearing P K) : P → K → Option (Entry V T) :=
  fun p k => if p = clearing.process ∧ clearing.keys k then none else s.cached p k

theorem cleared_eq_some {clearing : Clearing P K} {p : P} {k : K} {entry : Entry V T}
    (held : s.cleared clearing p k = some entry) : s.cached p k = some entry := by
  unfold cleared at held
  split at held
  · cases held
  · exact held

theorem cleared_of_keys {clearing : Clearing P K} {k : K} (keys : clearing.keys k = true) :
    s.cleared clearing clearing.process k = none :=
  if_pos ⟨rfl, keys⟩

variable [DecidableEq K]

def setCached (s : State σ P K V T) (p : P) (k : K) (entry : Entry V T) :
    P → K → Option (Entry V T) :=
  fun p' k' => if p' = p ∧ k' = k then some entry else s.cached p' k'

theorem setCached_eq_some {p p' : P} {k k' : K} {entry entry' : Entry V T}
    (held : s.setCached p k entry p' k' = some entry') :
    s.cached p' k' = some entry' ∨ p' = p ∧ k' = k ∧ entry' = entry := by
  unfold setCached at held
  split at held
  case isTrue same =>
    cases held
    exact .inr ⟨same.1, same.2, rfl⟩
  case isFalse => exact .inl held

end

/-! ## Answers that were right -/

section

variable [LinearOrder T] {cache : Cache σ K V T} {s s' : State σ P K V T}

/-- The answer has been right at some moment from `since` on. -/
def Fresh (cache : Cache σ K V T) (s : State σ P K V T) (k : K) (v : V) (since : T) : Prop :=
  cache.query k s.store = v ∨ ∃ old ∈ s.past, cache.query k old.1 = v ∧ since ≤ old.2

structure EntrySound (cache : Cache σ K V T) (s : State σ P K V T) (k : K) (entry : Entry V T) :
    Prop where
  fresh : s.Fresh cache k entry.value entry.readAt
  read : entry.readAt ≤ s.clock
  stamped : entry.stamp ≤ entry.readAt

structure CallSound (cache : Cache σ K V T) (s : State σ P K V T) (call : Call P K V T) : Prop where
  started : call.now ≤ s.clock
  answered : ∀ v readAt, call.phase = .answered v readAt →
    call.now ≤ readAt ∧ readAt ≤ s.clock ∧ s.Fresh cache call.key v readAt

/-- Time goes on, and a store that is replaced is remembered. -/
structure Later (s s' : State σ P K V T) : Prop where
  clock : s.clock ≤ s'.clock
  past : s'.store = s.store ∧ s'.past = s.past ∨ s'.past = s.past ++ [(s.store, s.clock)]

theorem Later.of_same (clock : s.clock ≤ s'.clock) (store : s'.store = s.store)
    (past : s'.past = s.past) : Later s s' :=
  ⟨clock, .inl ⟨store, past⟩⟩

theorem Fresh.later {k : K} {v : V} {since : T} (fresh : s.Fresh cache k v since)
    (later : Later s s') (known : since ≤ s.clock) : s'.Fresh cache k v since := by
  rcases later.past with ⟨store, past⟩ | past
  · unfold Fresh
    rw [store, past]
    exact fresh
  · right
    rw [past]
    rcases fresh with now | ⟨old, member, answers, recent⟩
    · exact ⟨(s.store, s.clock), List.mem_append_right _ (List.mem_singleton_self _), now, known⟩
    · exact ⟨old, List.mem_append_left _ member, answers, recent⟩

theorem EntrySound.later {k : K} {entry : Entry V T} (sound : s.EntrySound cache k entry)
    (later : Later s s') : s'.EntrySound cache k entry :=
  ⟨sound.fresh.later later sound.read, sound.read.trans later.clock, sound.stamped⟩

theorem CallSound.later {call : Call P K V T} (sound : s.CallSound cache call)
    (later : Later s s') : s'.CallSound cache call := by
  refine ⟨sound.started.trans later.clock, fun v readAt answered => ?_⟩
  obtain ⟨started, read, fresh⟩ := sound.answered v readAt answered
  exact ⟨started, read.trans later.clock, fresh.later later read⟩

end

/-! ## Steps -/

section

variable [AddCommGroup T] [LinearOrder T]

/-- What the cache of a process serves to a call that started at `now`. -/
def lookup (cache : Cache σ K V T) (s : State σ P K V T) (p : P) (k : K) (now : T) : Option V :=
  (s.cached p k).bind fun entry =>
    if now - entry.stamp < cache.ttl then some entry.value else none

variable [DecidableEq P] [DecidableEq K]

def step (cache : Cache σ K V T) (s : State σ P K V T) :
    Act σ P K T → Option (State σ P K V T)
  | .wait until_ => if s.clock ≤ until_ then some { s with clock := until_ } else none
  | .ask p k => some { s with calls := s.calls ++ [⟨p, k, s.clock, .asked⟩] }
  | .look i =>
      match s.calls[i]? with
      | some ⟨p, k, now, .asked⟩ =>
          match s.lookup cache p k now with
          | some v =>
              some { s with
                calls := s.calls.eraseIdx i, returned := s.returned ++ [⟨k, v, now⟩] }
          | none => some { s with calls := s.calls.set i ⟨p, k, now, .missed⟩ }
      | _ => none
  | .read i =>
      match s.calls[i]? with
      | some ⟨p, k, now, .missed⟩ =>
          some { s with
            calls := s.calls.set i ⟨p, k, now, .answered (cache.query k s.store) s.clock⟩ }
      | _ => none
  | .put i =>
      match s.calls[i]? with
      | some ⟨p, k, now, .answered v readAt⟩ =>
          some { s with
            cached := s.setCached p k ⟨v, now, readAt⟩
            calls := s.calls.eraseIdx i
            returned := s.returned ++ [⟨k, v, now⟩] }
      | _ => none
  | .abandon i => (s.calls[i]?).map fun _ => { s with calls := s.calls.eraseIdx i }
  | .write p store keys =>
      some { s with
        store := store
        past := s.past ++ [(s.store, s.clock)]
        clearings := s.clearings ++ [⟨p, keys⟩] }
  | .clear i =>
      s.clearings[i]?.map fun clearing =>
        { s with cached := s.cleared clearing, clearings := s.clearings.eraseIdx i }

/-- Every entry and call is sound, and what was returned had been right less than the lifetime
before the call. -/
structure Sound (cache : Cache σ K V T) (s : State σ P K V T) : Prop where
  cached : ∀ p k entry, s.cached p k = some entry → s.EntrySound cache k entry
  calls : ∀ call ∈ s.calls, s.CallSound cache call
  returned : ∀ r ∈ s.returned, ∃ since, r.now - cache.ttl < since ∧ since ≤ s.clock ∧
    s.Fresh cache r.key r.value since

variable {cache : Cache σ K V T} {s s' : State σ P K V T}

omit [DecidableEq P] [DecidableEq K] in
/-- What is in the later state is from the earlier one, or sound by itself. -/
theorem Sound.later (sound : s.Sound cache) (later : Later s s')
    (cached : ∀ p k entry, s'.cached p k = some entry →
      s.cached p k = some entry ∨ s'.EntrySound cache k entry)
    (calls : ∀ call ∈ s'.calls, call ∈ s.calls ∨ s'.CallSound cache call)
    (returned : ∀ r ∈ s'.returned, r ∈ s.returned ∨ ∃ since, r.now - cache.ttl < since ∧
      since ≤ s'.clock ∧ s'.Fresh cache r.key r.value since) : s'.Sound cache := by
  refine ⟨fun p k entry held => ?_, fun call member => ?_, fun r member => ?_⟩
  · rcases cached p k entry held with old | new
    · exact (sound.cached p k entry old).later later
    · exact new
  · rcases calls call member with old | new
    · exact (sound.calls call old).later later
    · exact new
  · rcases returned r member with old | new
    · obtain ⟨since, recent, known, fresh⟩ := sound.returned r old
      exact ⟨since, recent, known.trans later.clock, fresh.later later known⟩
    · exact new

theorem sound_preserved [IsOrderedAddMonoid T] (positive : 0 < cache.ttl) :
    Preserves (step (P := P) cache) (fun _ _ => True) (Sound cache) := by
  intro s a s' sound _ stepped
  have same : ∀ {s' : State σ P K V T}, s'.clock = s.clock → s'.store = s.store →
      s'.past = s.past → Later s s' :=
    fun clock store past => .of_same (le_of_eq clock.symm) store past
  cases a with
  | wait until_ =>
      simp only [step] at stepped
      split at stepped
      case isTrue later =>
        cases stepped
        exact sound.later (.of_same later rfl rfl) (fun _ _ _ => .inl) (fun _ => .inl) fun _ => .inl
      case isFalse => cases stepped
  | ask p k =>
      cases stepped
      refine sound.later (same rfl rfl rfl) (fun _ _ _ => .inl) (fun call member => ?_) fun _ => .inl
      rcases List.mem_append.mp member with old | new
      · exact .inl old
      · rw [List.mem_singleton.mp new]
        exact .inr ⟨le_rfl, fun _ _ none => nomatch none⟩
  | look i =>
      simp only [step] at stepped
      split at stepped
      case h_1 p k now here =>
        have started := (sound.calls _ (List.mem_of_getElem? here)).started
        split at stepped
        case h_1 v served =>
          cases stepped
          refine sound.later (same rfl rfl rfl) (fun _ _ _ => .inl)
            (fun _ member => .inl (List.mem_of_mem_eraseIdx member)) fun r member => ?_
          rcases List.mem_append.mp member with old | new
          · exact .inl old
          · rw [List.mem_singleton.mp new]
            obtain ⟨entry, held, fresh⟩ := Option.bind_eq_some_iff.mp served
            have known := sound.cached p k entry held
            split at fresh
            case isTrue young =>
              cases fresh
              exact .inr ⟨entry.readAt, (sub_lt_comm.mp young).trans_le known.stamped, known.read,
                known.fresh⟩
            case isFalse => cases fresh
        case h_2 =>
          cases stepped
          refine sound.later (same rfl rfl rfl) (fun _ _ _ => .inl) (fun call member => ?_)
            fun _ => .inl
          rcases List.mem_or_eq_of_mem_set member with old | rfl
          · exact .inl old
          · exact .inr ⟨started, fun _ _ none => nomatch none⟩
      case h_2 => cases stepped
  | read i =>
      simp only [step] at stepped
      split at stepped
      case h_1 p k now here =>
        cases stepped
        have started := (sound.calls _ (List.mem_of_getElem? here)).started
        refine sound.later (same rfl rfl rfl) (fun _ _ _ => .inl) (fun call member => ?_)
          fun _ => .inl
        rcases List.mem_or_eq_of_mem_set member with old | rfl
        · exact .inl old
        · refine .inr ⟨started, fun v readAt answered => ?_⟩
          cases answered
          exact ⟨started, le_rfl, .inl rfl⟩
      case h_2 => cases stepped
  | put i =>
      simp only [step] at stepped
      split at stepped
      case h_1 p k now v readAt here =>
        cases stepped
        obtain ⟨before, read, fresh⟩ :=
          (sound.calls _ (List.mem_of_getElem? here)).answered v readAt rfl
        refine sound.later (same rfl rfl rfl) (fun p' k' entry held => ?_)
          (fun _ member => .inl (List.mem_of_mem_eraseIdx member)) fun r member => ?_
        · rcases setCached_eq_some held with old | ⟨-, rfl, rfl⟩
          · exact .inl old
          · exact .inr ⟨fresh, read, before⟩
        · rcases List.mem_append.mp member with old | new
          · exact .inl old
          · rw [List.mem_singleton.mp new]
            exact .inr ⟨readAt, (sub_lt_self now positive).trans_le before, read, fresh⟩
      case h_2 => cases stepped
  | abandon i =>
      obtain ⟨-, -, rfl⟩ := Option.map_eq_some_iff.mp stepped
      exact sound.later (same rfl rfl rfl) (fun _ _ _ => .inl)
        (fun _ member => .inl (List.mem_of_mem_eraseIdx member)) fun _ => .inl
  | write p store keys =>
      cases stepped
      exact sound.later ⟨le_rfl, .inr rfl⟩ (fun _ _ _ => .inl) (fun _ => .inl) fun _ => .inl
  | clear i =>
      obtain ⟨clearing, -, rfl⟩ := Option.map_eq_some_iff.mp stepped
      exact sound.later (same rfl rfl rfl) (fun _ _ _ held => .inl (cleared_eq_some held))
        (fun _ => .inl) fun _ => .inl

omit [DecidableEq P] [DecidableEq K] in
/-- Caches that are empty, with no call under way. -/
theorem sound_initial (clock : T) (store : σ) :
    Sound cache ({ clock := clock, store := store } : State σ P K V T) := by
  refine ⟨fun p k entry held => ?_, fun call member => ?_, fun r member => ?_⟩
  · cases held
  · cases member
  · cases member

/-! ## The process of the writer -/

/-- The cache of a process, and what its calls have read and not put yet, are right for a key. -/
structure UpToDate (cache : Cache σ K V T) (p : P) (k : K) (s : State σ P K V T) : Prop where
  cached : ∀ entry, s.cached p k = some entry → cache.query k s.store = entry.value
  calls : ∀ call ∈ s.calls, call.process = p → call.key = k →
    ∀ v readAt, call.phase = .answered v readAt → cache.query k s.store = v

/-- The store goes on answering a key the same. -/
def Keeps (cache : Cache σ K V T) (k : K) (s : State σ P K V T) : Act σ P K T → Prop
  | .write _ store _ => cache.query k store = cache.query k s.store
  | _ => True

omit [DecidableEq P] [DecidableEq K] in
theorem UpToDate.lookup {p : P} {k : K} {now : T} {v : V} (current : UpToDate cache p k s)
    (served : s.lookup cache p k now = some v) : cache.query k s.store = v := by
  obtain ⟨entry, held, fresh⟩ := Option.bind_eq_some_iff.mp served
  split at fresh
  · cases fresh
    exact current.cached entry held
  · cases fresh

/-- Clearing a key, with no outdated answer waiting to be put. -/
theorem upToDate_clear {i : Nat} {clearing : Clearing P K} {k : K}
    (here : s.clearings[i]? = some clearing) (keys : clearing.keys k = true)
    (stepped : s.step cache (.clear i) = some s')
    (calls : ∀ call ∈ s.calls, call.process = clearing.process → call.key = k →
      ∀ v readAt, call.phase = .answered v readAt → cache.query k s.store = v) :
    UpToDate cache clearing.process k s' := by
  obtain ⟨clearing', there, rfl⟩ := Option.map_eq_some_iff.mp stepped
  rw [here] at there
  cases there
  refine ⟨fun entry held => ?_, calls⟩
  exact nomatch (cleared_of_keys keys).symm.trans held

theorem upToDate_preserved (p : P) (k : K) :
    Preserves (step (P := P) cache) (Keeps cache k) (UpToDate cache p k) := by
  intro s a s' current keeps stepped
  obtain ⟨cached, calls⟩ := current
  have erased : ∀ i, ∀ call ∈ s.calls.eraseIdx i, call.process = p → call.key = k →
      ∀ v readAt, call.phase = .answered v readAt → cache.query k s.store = v :=
    fun i call member => calls call (List.mem_of_mem_eraseIdx member)
  cases a with
  | wait until_ =>
      simp only [step] at stepped
      split at stepped
      · cases stepped
        exact ⟨cached, calls⟩
      · cases stepped
  | ask p' k' =>
      cases stepped
      refine ⟨cached, fun call member => ?_⟩
      rcases List.mem_append.mp member with old | new
      · exact calls call old
      · rw [List.mem_singleton.mp new]
        exact fun _ _ _ _ none => nomatch none
  | look i =>
      simp only [step] at stepped
      split at stepped
      · split at stepped
        · cases stepped
          exact ⟨cached, erased i⟩
        · cases stepped
          refine ⟨cached, fun call member => ?_⟩
          rcases List.mem_or_eq_of_mem_set member with old | rfl
          · exact calls call old
          · exact fun _ _ _ _ none => nomatch none
      · cases stepped
  | read i =>
      simp only [step] at stepped
      split at stepped
      · cases stepped
        refine ⟨cached, fun call member => ?_⟩
        rcases List.mem_or_eq_of_mem_set member with old | rfl
        · exact calls call old
        · intro _ key v readAt answered
          cases answered
          exact congrArg (fun k => cache.query k s.store) key.symm
      · cases stepped
  | put i =>
      simp only [step] at stepped
      split at stepped
      case h_1 p' k' now v readAt here =>
        cases stepped
        refine ⟨fun entry held => ?_, erased i⟩
        rcases setCached_eq_some held with old | ⟨process, key, rfl⟩
        · exact cached entry old
        · exact calls _ (List.mem_of_getElem? here) process.symm key.symm v readAt rfl
      case h_2 => cases stepped
  | abandon i =>
      obtain ⟨-, -, rfl⟩ := Option.map_eq_some_iff.mp stepped
      exact ⟨cached, erased i⟩
  | write p' store keys =>
      cases stepped
      have same : cache.query k store = cache.query k s.store := keeps
      exact ⟨fun entry held => same.trans (cached entry held),
        fun call member process key v readAt answered =>
          same.trans (calls call member process key v readAt answered)⟩
  | clear i =>
      obtain ⟨clearing, -, rfl⟩ := Option.map_eq_some_iff.mp stepped
      exact ⟨fun entry held => cached entry (cleared_eq_some held), calls⟩

end

end State

end ReadThrough
