import Avalant.Cache.Store
import Avalant.Lib.Run

/-!
The Redis mirror of the book of one pair.

Each update starts a goroutine of its own, which takes the lock of the writer, is dropped
if the last write of the key is too recent, and sends a SET otherwise. Nothing
orders the goroutines, nor the SETs on their way. Times are nanoseconds.
-/

namespace Avalant

namespace Cache

open Transition

/-- The updates of the pair are numbered in their order. -/
structure Update where
  no : Nat
  depth : Depth
  deriving DecidableEq

/-- What a SET stores, with the time the goroutine read under the lock. -/
structure Payload where
  update : Update
  stamp : Nat
  deriving DecidableEq

/-- The field `ts`, in milliseconds. -/
def Payload.ts (p : Payload) : Nat := unixMilli p.stamp

structure Stored where
  payload : Payload
  expires : Nat
  deriving DecidableEq

def obTTL : Nat := 10 * 1000000000

structure Mirror where
  now : Nat
  throttle : Nat
  updates : List Update
  /-- The goroutines that have not taken the lock. -/
  started : List Update
  lastWrite : Option Nat
  /-- The SETs on their way. -/
  flying : List Payload
  stored : Option Stored
  /-- The updates that were let through, and those that were dropped, with the time. -/
  admitted : List Payload
  dropped : List Payload

inductive MirrorAct
  | wait (d : Nat)
  | update (depth : Depth)
  /-- `WriteBook`, up to the unlock. -/
  | enter (u : Update)
  /-- A SET reaches the server. -/
  | set (p : Payload)

namespace Mirror

/-- `NewWriter`. -/
def initial (throttle : Int) : Mirror :=
  ⟨0, if throttle ≤ 0 then 50 * 1000000 else throttle.toNat, [], [], none, [], none, [], []⟩

def throttled (s : Mirror) : Bool :=
  s.lastWrite.any fun last => s.now - last < s.throttle

/-- An update is dropped, or stamped and sent. -/
def enter (s : Mirror) (u : Update) : Mirror :=
  if s.throttled then
    { s with started := s.started.erase u, dropped := s.dropped ++ [⟨u, s.now⟩] }
  else
    { s with
      started := s.started.erase u
      lastWrite := some s.now
      flying := s.flying ++ [⟨u, s.now⟩]
      admitted := s.admitted ++ [⟨u, s.now⟩] }

def step (s : Mirror) : MirrorAct → Option Mirror
  | .wait d => some { s with now := s.now + d }
  | .update depth =>
      let u : Update := ⟨s.updates.length, depth⟩
      some { s with updates := s.updates ++ [u], started := s.started ++ [u] }
  | .enter u => if u ∈ s.started then some (s.enter u) else none
  | .set p =>
      if p ∈ s.flying then
        some { s with flying := s.flying.erase p, stored := some ⟨p, s.now + obTTL⟩ }
      else none

/-- `GET`: the field `ts` and the book, until they expire. -/
def get (s : Mirror) : Option (Nat × Depth) :=
  (s.stored.filter fun e => s.now < e.expires).map fun e => (e.payload.ts, e.payload.update.depth)

/-- The updates and the writes that were started have come to an end. -/
def Quiet (s : Mirror) : Prop :=
  s.started = [] ∧ s.flying = []

end Mirror

/-! ## What the key holds -/

/-- In every run whose steps meet `ok`, the key never goes back to an older update, and holds the
last one when the writes have finished. -/
structure AlwaysMirrored (ok : Mirror → MirrorAct → Prop) : Prop where
  forward : ∀ throttle s s', Run Mirror.step ok (Mirror.initial throttle) s →
    Run Mirror.step ok s s' → ∀ e e', s.stored = some e → s'.stored = some e' →
      e.payload.update.no ≤ e'.payload.update.no
  last : ∀ throttle s, Run Mirror.step ok (Mirror.initial throttle) s → s.Quiet →
    s.stored.map (·.payload.update) = s.updates.getLast?

/-! ## What the writer does -/

namespace Mirror

/-- The throttle at work. -/
structure Throttles (s : Mirror) : Prop where
  /-- No update is forgotten. -/
  handled : ∀ u ∈ s.updates, u ∈ s.started ∨ u ∈ s.admitted.map Payload.update ∨
    u ∈ s.dropped.map Payload.update
  /-- Admitted updates are a throttle apart. -/
  spaced : s.admitted.Pairwise fun p p' => p.stamp + s.throttle ≤ p'.stamp
  /-- An update is dropped only within a throttle of one that is admitted. -/
  dropped : ∀ p ∈ s.dropped, ∃ p' ∈ s.admitted, p'.stamp ≤ p.stamp ∧ p.stamp < p'.stamp + s.throttle
  /-- What is stored was admitted, as were the SETs on their way. -/
  stored : ∀ e, s.stored = some e → e.payload ∈ s.admitted
  flying : ∀ p ∈ s.flying, p ∈ s.admitted

/-- The goroutines take the lock, and the SETs reach the server, in the order of their updates. -/
def InOrder (s : Mirror) : MirrorAct → Prop
  | .enter u => ∀ u' ∈ s.started, u.no ≤ u'.no
  | .set p => ∀ p' ∈ s.flying, p.update.no ≤ p'.update.no
  | _ => True

/-- The newest admitted update is stored, and each one after it was dropped within a throttle of
its stamp. -/
def HoldsNewest (s : Mirror) : Prop :=
  ∃ e, s.stored = some e ∧ (∀ p ∈ s.admitted, p.update.no ≤ e.payload.update.no) ∧
    ∀ u ∈ s.updates, e.payload.update.no < u.no → ∃ p ∈ s.dropped, p.update = u ∧
      e.payload.stamp ≤ p.stamp ∧ p.stamp < e.payload.stamp + s.throttle

end Mirror

/-- Every run is throttled; a run in order never goes back, and ends with the newest admitted
update. -/
structure AlwaysThrottled : Prop where
  throttles : ∀ throttle s, Run Mirror.step (fun _ _ => True) (Mirror.initial throttle) s →
    s.Throttles
  forward : ∀ throttle s s', Run Mirror.step Mirror.InOrder (Mirror.initial throttle) s →
    Run Mirror.step Mirror.InOrder s s' → ∀ e e', s.stored = some e → s'.stored = some e' →
      e.payload.update.no ≤ e'.payload.update.no
  newest : ∀ throttle s, Run Mirror.step Mirror.InOrder (Mirror.initial throttle) s → s.Quiet →
    s.updates ≠ [] → s.HoldsNewest

/-! ## The throttle -/

namespace Mirror

/-- The last write is the latest admitted stamp. -/
structure Timed (s : Mirror) : Prop where
  latest : ∀ p ∈ s.admitted, ∃ last, s.lastWrite = some last ∧ p.stamp ≤ last
  last : ∀ last, s.lastWrite = some last → last ≤ s.now ∧ ∃ p ∈ s.admitted, p.stamp = last

section

variable {s s' : Mirror} {u : Update}

theorem throttled_iff : s.throttled = true ↔
    ∃ last, s.lastWrite = some last ∧ s.now - last < s.throttle := by
  unfold throttled
  rw [Option.any_eq_true]
  simp only [decide_eq_true_eq]

/-- A throttled update is dropped within a throttle of the last write. -/
theorem Timed.within (timed : s.Timed) (throttled : s.throttled = true) :
    ∃ last, s.lastWrite = some last ∧ last ≤ s.now ∧ s.now < last + s.throttle := by
  obtain ⟨last, wrote, recent⟩ := throttled_iff.mp throttled
  have le := (timed.last last wrote).1
  exact ⟨last, wrote, le, by omega⟩

/-- An update that is let through comes a throttle after every one before. -/
theorem Timed.apart (timed : s.Timed) (through : ¬s.throttled = true) {p : Payload}
    (mem : p ∈ s.admitted) : p.stamp + s.throttle ≤ s.now := by
  obtain ⟨last, wrote, le⟩ := timed.latest p mem
  have old : ¬s.now - last < s.throttle := fun recent => through (throttled_iff.mpr ⟨last, wrote, recent⟩)
  have past := (timed.last last wrote).1
  omega

theorem enter_of_throttled (throttled : s.throttled = true) : s.enter u =
    { s with started := s.started.erase u, dropped := s.dropped ++ [⟨u, s.now⟩] } :=
  if_pos throttled

theorem enter_of_not_throttled (through : ¬s.throttled = true) : s.enter u =
    { s with
      started := s.started.erase u
      lastWrite := some s.now
      flying := s.flying ++ [⟨u, s.now⟩]
      admitted := s.admitted ++ [⟨u, s.now⟩] } :=
  if_neg through

theorem Timed.enter (timed : s.Timed) : (s.enter u).Timed := by
  by_cases throttled : s.throttled = true
  · rw [enter_of_throttled throttled]
    exact ⟨timed.latest, timed.last⟩
  · rw [enter_of_not_throttled throttled]
    constructor
    · intro p mem
      refine ⟨s.now, rfl, ?_⟩
      rcases List.mem_append.mp mem with old | new
      · have apart := timed.apart throttled old
        omega
      · rw [List.mem_singleton.mp new]
    · intro last given
      cases given
      exact ⟨Nat.le_refl _, ⟨u, s.now⟩, List.mem_append_right _ List.mem_cons_self, rfl⟩

theorem Timed.step (timed : s.Timed) {act : MirrorAct} (stepped : s.step act = some s') :
    s'.Timed := by
  cases act with
  | wait d =>
      cases stepped
      refine ⟨timed.latest, fun last wrote => ?_⟩
      obtain ⟨le, held⟩ := timed.last last wrote
      exact ⟨Nat.le_trans le (Nat.le_add_right _ _), held⟩
  | update depth =>
      cases stepped
      exact ⟨timed.latest, timed.last⟩
  | enter u =>
      obtain ⟨-, entered⟩ := Option.ite_none_right_eq_some.mp stepped
      cases entered
      exact timed.enter
  | set p =>
      obtain ⟨-, landed⟩ := Option.ite_none_right_eq_some.mp stepped
      cases landed
      exact ⟨timed.latest, timed.last⟩

theorem Throttles.enter (throttles : s.Throttles) (timed : s.Timed) : (s.enter u).Throttles := by
  -- the goroutine of `u` ends in one of the two lists
  have left : ∀ u', u' ∈ s.started → u' ∈ s.started.erase u ∨ u' = u := by
    intro u' mem
    by_cases here : u' = u
    · exact Or.inr here
    · exact Or.inl ((List.mem_erase_of_ne here).mpr mem)
  by_cases throttled : s.throttled = true
  · rw [enter_of_throttled throttled]
    constructor
    case handled =>
      intro u' mem
      rw [List.map_append, List.mem_append]
      rcases throttles.handled u' mem with waits | admitted | dropped
      · rcases left u' waits with rest | rfl
        · exact Or.inl rest
        · exact Or.inr (Or.inr (Or.inr List.mem_cons_self))
      · exact Or.inr (Or.inl admitted)
      · exact Or.inr (Or.inr (Or.inl dropped))
    case dropped =>
      intro p mem
      rcases List.mem_append.mp mem with old | new
      · exact throttles.dropped p old
      · obtain ⟨last, wrote, le, lt⟩ := timed.within throttled
        obtain ⟨p', admitted, rfl⟩ := (timed.last last wrote).2
        rw [List.mem_singleton.mp new]
        exact ⟨p', admitted, le, lt⟩
    case spaced => exact throttles.spaced
    case stored => exact throttles.stored
    case flying => exact throttles.flying
  · rw [enter_of_not_throttled throttled]
    constructor
    case handled =>
      intro u' mem
      rw [List.map_append, List.mem_append]
      rcases throttles.handled u' mem with waits | admitted | dropped
      · rcases left u' waits with rest | rfl
        · exact Or.inl rest
        · exact Or.inr (Or.inl (Or.inr List.mem_cons_self))
      · exact Or.inr (Or.inl (Or.inl admitted))
      · exact Or.inr (Or.inr dropped)
    case spaced =>
      rw [List.pairwise_append]
      refine ⟨throttles.spaced, List.pairwise_singleton _ _, fun p mem p' new => ?_⟩
      rw [List.mem_singleton.mp new]
      exact timed.apart throttled mem
    case dropped =>
      intro p mem
      obtain ⟨p', admitted, within⟩ := throttles.dropped p mem
      exact ⟨p', List.mem_append_left _ admitted, within⟩
    case stored =>
      intro e held
      exact List.mem_append_left _ (throttles.stored e held)
    case flying =>
      intro p mem
      rcases List.mem_append.mp mem with old | new
      · exact List.mem_append_left _ (throttles.flying p old)
      · exact List.mem_append_right _ new

theorem Throttles.step (throttles : s.Throttles) (timed : s.Timed) {act : MirrorAct}
    (stepped : s.step act = some s') : s'.Throttles := by
  cases act with
  | wait d =>
      cases stepped
      exact ⟨throttles.handled, throttles.spaced, throttles.dropped, throttles.stored,
        throttles.flying⟩
  | update depth =>
      cases stepped
      refine ⟨fun u mem => ?_, throttles.spaced, throttles.dropped, throttles.stored,
        throttles.flying⟩
      rcases List.mem_append.mp mem with old | new
      · exact (throttles.handled u old).imp_left (List.mem_append_left _)
      · exact Or.inl (List.mem_append_right _ new)
  | enter u =>
      obtain ⟨-, entered⟩ := Option.ite_none_right_eq_some.mp stepped
      cases entered
      exact throttles.enter timed
  | set p =>
      obtain ⟨mem, landed⟩ := Option.ite_none_right_eq_some.mp stepped
      cases landed
      refine ⟨throttles.handled, throttles.spaced, throttles.dropped, ?_, fun p' rest => ?_⟩
      · intro e given
        cases given
        exact throttles.flying p mem
      · exact throttles.flying p' (List.mem_of_mem_erase rest)

/-! ## Runs in order -/

/-- In a list of growing numbers the least is the first. -/
theorem eq_cons_erase_of_least {α : Type} [DecidableEq α] {f : α → Nat} {l : List α} {a : α}
    (grows : l.Pairwise fun b b' => f b < f b') (mem : a ∈ l) (least : ∀ b ∈ l, f a ≤ f b) :
    l = a :: l.erase a := by
  cases l with
  | nil => cases mem
  | cons b rest =>
      rcases List.mem_cons.mp mem with rfl | later
      · rw [List.erase_cons_head]
      · have lt := List.rel_of_pairwise_cons grows later
        have le := least b List.mem_cons_self
        omega

/-- The goroutines that wait are the last updates, and the SETs on their way the last that were
admitted; what is stored is the one before them, and each update after the newest admitted one
waits or was dropped within a throttle. -/
structure Ordered (s : Mirror) : Prop where
  numbered : s.updates.Pairwise fun u u' => u.no < u'.no
  below : ∀ u ∈ s.updates, u.no < s.updates.length
  waits : ∃ done, s.updates = done ++ s.started
  known : ∀ p ∈ s.admitted, p.update ∈ s.updates
  inOrder : s.admitted.Pairwise fun p p' => p.update.no < p'.update.no
  before : ∀ p ∈ s.admitted, ∀ u ∈ s.started, p.update.no < u.no
  landed : ∃ landed, s.admitted = landed ++ s.flying ∧ s.stored.map Stored.payload = landed.getLast?
  newest : ∀ p, s.admitted.getLast? = some p → s.lastWrite = some p.stamp ∧
    ∀ u ∈ s.updates, p.update.no < u.no → u ∈ s.started ∨
      ∃ d ∈ s.dropped, d.update = u ∧ p.stamp ≤ d.stamp ∧ d.stamp < p.stamp + s.throttle
  first : s.admitted = [] → s.updates = s.started

theorem Ordered.update (ordered : s.Ordered) (depth : Depth) :
    { s with
      updates := s.updates ++ [⟨s.updates.length, depth⟩]
      started := s.started ++ [⟨s.updates.length, depth⟩] : Mirror }.Ordered where
  numbered := by
    rw [List.pairwise_append]
    refine ⟨ordered.numbered, List.pairwise_singleton _ _, fun u mem u' new => ?_⟩
    rw [List.mem_singleton.mp new]
    exact ordered.below u mem
  below u mem := by
    rw [List.length_append, List.length_singleton]
    rcases List.mem_append.mp mem with old | new
    · have lt := ordered.below u old
      omega
    · rw [List.mem_singleton.mp new]
      exact Nat.lt_succ_self _
  waits := by
    obtain ⟨done, updates⟩ := ordered.waits
    refine ⟨done, ?_⟩
    rw [← List.append_assoc, ← updates]
  known p mem := List.mem_append_left _ (ordered.known p mem)
  inOrder := ordered.inOrder
  before p mem u waits := by
    rcases List.mem_append.mp waits with old | new
    · exact ordered.before p mem u old
    · rw [List.mem_singleton.mp new]
      exact ordered.below _ (ordered.known p mem)
  landed := ordered.landed
  newest p last := by
    obtain ⟨wrote, after⟩ := ordered.newest p last
    refine ⟨wrote, fun u mem later => ?_⟩
    rcases List.mem_append.mp mem with old | new
    · exact (after u old later).imp_left (List.mem_append_left _)
    · exact Or.inl (List.mem_append_right _ new)
  first none_ := by rw [ordered.first none_]

/-- The first of the goroutines that wait takes the lock. -/
theorem Ordered.enter (ordered : s.Ordered) (timed : s.Timed) (mem : u ∈ s.started)
    (least : ∀ u' ∈ s.started, u.no ≤ u'.no) : (s.enter u).Ordered := by
  obtain ⟨done, updates⟩ := ordered.waits
  have numbered := ordered.numbered
  rw [updates, List.pairwise_append] at numbered
  have queue := eq_cons_erase_of_least numbered.2.1 mem least
  have waits : s.updates = done ++ [u] ++ s.started.erase u := by
    rw [List.append_assoc, List.singleton_append, ← queue, updates]
  have before : ∀ p ∈ s.admitted, ∀ u' ∈ s.started.erase u, p.update.no < u'.no :=
    fun p held u' rest => ordered.before p held u' (List.mem_of_mem_erase rest)
  by_cases throttled : s.throttled = true
  · obtain ⟨last, wrote, le, lt⟩ := timed.within throttled
    rw [enter_of_throttled throttled]
    constructor
    case numbered => exact ordered.numbered
    case below => exact ordered.below
    case waits => exact ⟨_, waits⟩
    case known => exact ordered.known
    case inOrder => exact ordered.inOrder
    case before => exact before
    case landed => exact ordered.landed
    case newest =>
      intro p newest
      obtain ⟨wrote', after⟩ := ordered.newest p newest
      obtain rfl : last = p.stamp := Option.some.inj (wrote.symm.trans wrote')
      refine ⟨wrote', fun u' mem' later => ?_⟩
      rcases after u' mem' later with held | ⟨d, dropped, rest⟩
      · rw [queue] at held
        rcases List.mem_cons.mp held with rfl | held
        · exact Or.inr ⟨⟨u', s.now⟩, List.mem_append_right _ List.mem_cons_self, rfl, le, lt⟩
        · exact Or.inl held
      · exact Or.inr ⟨d, List.mem_append_left _ dropped, rest⟩
    case first =>
      intro empty
      obtain ⟨p, admitted, -⟩ := (timed.last last wrote).2
      rw [empty] at admitted
      cases admitted
  · rw [enter_of_not_throttled throttled]
    constructor
    case numbered => exact ordered.numbered
    case below => exact ordered.below
    case waits => exact ⟨_, waits⟩
    case known =>
      intro p held
      rcases List.mem_append.mp held with old | new
      · exact ordered.known p old
      · rw [List.mem_singleton.mp new, updates]
        exact List.mem_append_right _ mem
    case inOrder =>
      rw [List.pairwise_append]
      refine ⟨ordered.inOrder, List.pairwise_singleton _ _, fun p held p' new => ?_⟩
      rw [List.mem_singleton.mp new]
      exact ordered.before p held u mem
    case before =>
      intro p held u' rest
      rcases List.mem_append.mp held with old | new
      · exact before p old u' rest
      · have sorted := numbered.2.1
        rw [queue] at sorted
        rw [List.mem_singleton.mp new]
        exact List.rel_of_pairwise_cons sorted rest
    case landed =>
      obtain ⟨landed, admitted, stored⟩ := ordered.landed
      refine ⟨landed, ?_, stored⟩
      rw [← List.append_assoc, ← admitted]
    case newest =>
      intro p newest
      rw [List.getLast?_concat] at newest
      cases newest
      refine ⟨rfl, fun u' mem' later => Or.inl ?_⟩
      rw [waits] at mem'
      rcases List.mem_append.mp mem' with old | rest
      · rcases List.mem_append.mp old with older | same
        · exact absurd later (Nat.lt_asymm (numbered.2.2 u' older u mem))
        · rw [List.mem_singleton.mp same] at later
          exact absurd later (Nat.lt_irrefl _)
      · exact rest
    case first =>
      intro empty
      exact absurd empty (List.concat_ne_nil _ _)

/-- What is stored is older than every SET on its way. -/
theorem Ordered.stored_lt (ordered : s.Ordered) {e : Stored} (held : s.stored = some e)
    {p : Payload} (mem : p ∈ s.flying) : e.payload.update.no < p.update.no := by
  obtain ⟨landed, admitted, stored⟩ := ordered.landed
  have sorted := ordered.inOrder
  rw [admitted, List.pairwise_append] at sorted
  rw [held, Option.map_some, eq_comm] at stored
  exact sorted.2.2 _ (List.mem_of_getLast? stored) p mem

/-- The first of the SETs on their way reaches the server. -/
theorem Ordered.set (ordered : s.Ordered) {p : Payload} (mem : p ∈ s.flying)
    (least : ∀ p' ∈ s.flying, p.update.no ≤ p'.update.no) :
    { s with flying := s.flying.erase p, stored := some ⟨p, s.now + obTTL⟩ : Mirror }.Ordered where
  numbered := ordered.numbered
  below := ordered.below
  waits := ordered.waits
  known := ordered.known
  inOrder := ordered.inOrder
  before := ordered.before
  landed := by
    obtain ⟨landed, admitted, -⟩ := ordered.landed
    have sorted := ordered.inOrder
    rw [admitted, List.pairwise_append] at sorted
    have queue := eq_cons_erase_of_least sorted.2.1 mem least
    refine ⟨landed ++ [p], ?_, ?_⟩
    · rw [List.append_assoc, List.singleton_append, ← queue, admitted]
    · rw [List.getLast?_concat]
      rfl
  newest := ordered.newest
  first := ordered.first

theorem Ordered.step (ordered : s.Ordered) (timed : s.Timed) {act : MirrorAct}
    (inOrder : s.InOrder act) (stepped : s.step act = some s') : s'.Ordered := by
  cases act with
  | wait d =>
      cases stepped
      exact ⟨ordered.numbered, ordered.below, ordered.waits, ordered.known, ordered.inOrder,
        ordered.before, ordered.landed, ordered.newest, ordered.first⟩
  | update depth =>
      cases stepped
      exact ordered.update depth
  | enter u =>
      obtain ⟨mem, entered⟩ := Option.ite_none_right_eq_some.mp stepped
      cases entered
      exact ordered.enter timed mem inOrder
  | set p =>
      obtain ⟨mem, landed⟩ := Option.ite_none_right_eq_some.mp stepped
      cases landed
      exact ordered.set mem inOrder

/-- The key holds an update of at least a number. -/
def Past (n : Nat) (s : Mirror) : Prop :=
  ∃ e, s.stored = some e ∧ n ≤ e.payload.update.no

theorem Past.step {n : Nat} (past : s.Past n) (ordered : s.Ordered) {act : MirrorAct}
    (stepped : s.step act = some s') : s'.Past n := by
  cases act with
  | wait d =>
      cases stepped
      exact past
  | update depth =>
      cases stepped
      exact past
  | enter u =>
      obtain ⟨-, entered⟩ := Option.ite_none_right_eq_some.mp stepped
      cases entered
      by_cases throttled : s.throttled = true
      · rw [enter_of_throttled throttled]
        exact past
      · rw [enter_of_not_throttled throttled]
        exact past
  | set p =>
      obtain ⟨mem, landed⟩ := Option.ite_none_right_eq_some.mp stepped
      cases landed
      obtain ⟨e, held, le⟩ := past
      exact ⟨_, rfl, Nat.le_trans le (Nat.le_of_lt (ordered.stored_lt held mem))⟩

/-- Once the writes have finished, the newest admitted update is stored. -/
theorem Ordered.holdsNewest (ordered : s.Ordered) (quiet : s.Quiet) (updated : s.updates ≠ []) :
    s.HoldsNewest := by
  obtain ⟨still, arrived⟩ := quiet
  obtain ⟨landed, admitted, stored⟩ := ordered.landed
  rw [arrived, List.append_nil] at admitted
  rw [← admitted] at stored
  cases newest : s.admitted.getLast? with
  | none =>
      have waits := ordered.first (List.getLast?_eq_none_iff.mp newest)
      exact absurd (waits.trans still) updated
  | some p =>
      rw [newest] at stored
      obtain ⟨e, held, rfl⟩ := Option.map_eq_some_iff.mp stored
      obtain ⟨-, after⟩ := ordered.newest _ newest
      refine ⟨e, held, fun p mem => ?_, fun u mem later => ?_⟩
      · obtain ⟨older, split⟩ := List.getLast?_eq_some_iff.mp newest
        have sorted := ordered.inOrder
        rw [split, List.pairwise_append] at sorted
        rw [split] at mem
        rcases List.mem_append.mp mem with old | last
        · exact Nat.le_of_lt (sorted.2.2 p old _ List.mem_cons_self)
        · rw [List.mem_singleton.mp last]
      · rcases after u mem later with waits | dropped
        · rw [still] at waits
          cases waits
        · exact dropped

variable {throttle : Int}

theorem timed_initial : (initial throttle).Timed where
  latest _ mem := nomatch mem
  last _ wrote := nomatch wrote

theorem throttles_initial : (initial throttle).Throttles where
  handled _ mem := nomatch mem
  spaced := .nil
  dropped _ mem := nomatch mem
  stored _ held := nomatch held
  flying _ mem := nomatch mem

theorem ordered_initial : (initial throttle).Ordered where
  numbered := .nil
  below _ mem := nomatch mem
  waits := ⟨[], rfl⟩
  known _ mem := nomatch mem
  inOrder := .nil
  before _ mem := nomatch mem
  landed := ⟨[], rfl, rfl⟩
  newest _ last := nomatch last
  first _ := rfl

theorem preserves_timed {ok : Mirror → MirrorAct → Prop} : Preserves step ok Timed :=
  fun _ _ _ timed _ stepped => timed.step stepped

theorem preserves_ordered : Preserves step InOrder fun s => s.Timed ∧ s.Ordered :=
  preserves_timed.and fun _ _ _ timed ordered inOrder stepped => ordered.step timed inOrder stepped

end

end Mirror

/-! ## Every run -/

/-- The writer throttles every run; in order, the key never goes back, and ends with the newest
update that was let through. -/
theorem alwaysThrottled : AlwaysThrottled where
  throttles throttle s run :=
    run.stable Mirror.preserves_timed
      (fun _ _ _ timed throttles _ stepped => throttles.step timed stepped)
      Mirror.timed_initial Mirror.throttles_initial
  forward throttle s s' run run' e e' held held' := by
    have invariant := run.invariant Mirror.preserves_ordered
      ⟨Mirror.timed_initial, Mirror.ordered_initial⟩
    have past : s.Past e.payload.update.no := ⟨e, held, Nat.le_refl _⟩
    obtain ⟨e'', held'', le⟩ := run'.stable Mirror.preserves_ordered
      (fun _ _ _ both past _ stepped => past.step both.2 stepped) invariant past
    obtain rfl : e' = e'' := Option.some.inj (held'.symm.trans held'')
    exact le
  newest throttle s run quiet updated := by
    have invariant := run.invariant Mirror.preserves_ordered
      ⟨Mirror.timed_initial, Mirror.ordered_initial⟩
    exact invariant.2.holdsNewest quiet updated

instance (s : Mirror) : ∀ act, Decidable (s.InOrder act)
  | .enter u => inferInstanceAs (Decidable (∀ u' ∈ s.started, u.no ≤ u'.no))
  | .set p => inferInstanceAs (Decidable (∀ p' ∈ s.flying, p.update.no ≤ p'.update.no))
  | .wait _ | .update _ => isTrue trivial

instance (s : Mirror) : Decidable s.Quiet :=
  inferInstanceAs (Decidable (_ ∧ _))

/-- A book with one bid. -/
def oneBid (price : ℚ) : Depth := ⟨[(price, 1)], []⟩

/-- The second update is dropped, the third comes late enough. -/
example : (execGuarded Mirror.step Mirror.InOrder (Mirror.initial 0)
    [.update (oneBid 1), .enter ⟨0, oneBid 1⟩, .wait 20000000, .update (oneBid 2),
      .enter ⟨1, oneBid 2⟩, .wait 40000000, .update (oneBid 3), .enter ⟨2, oneBid 3⟩,
      .set ⟨⟨0, oneBid 1⟩, 0⟩, .set ⟨⟨2, oneBid 3⟩, 60000000⟩]).bind Mirror.get =
        some (60, oneBid 3) := by
  decide +kernel

/-- A run that has come to an end with another book in the key than the last. -/
theorem not_mirrored {ok : Mirror → MirrorAct → Prop} [∀ s act, Decidable (ok s act)]
    (as : List MirrorAct)
    (ran : (execGuarded Mirror.step ok (Mirror.initial 0) as).map (fun s =>
      (decide s.Quiet, decide (s.stored.map (·.payload.update) = s.updates.getLast?))) =
        some (true, false)) : ¬AlwaysMirrored ok := by
  intro always
  obtain ⟨s, executed, read⟩ := Option.map_eq_some_iff.mp ran
  obtain ⟨quiet, behind⟩ := Prod.mk.inj read
  exact of_decide_eq_false behind
    (always.last 0 s (Run.of_execGuarded executed) (of_decide_eq_true quiet))

def MirrorAct.IsEnter : MirrorAct → Bool
  | .enter _ => true
  | _ => false

/-- A last update within the throttle is dropped, also in a run in order; without a dropped update,
the SET of an older one can arrive last. -/
theorem alwaysMirrored_broken :
    (¬AlwaysMirrored Mirror.InOrder) ∧
      (¬AlwaysMirrored fun s act => act.IsEnter = true → s.throttled = false) ∧
        ¬AlwaysMirrored fun _ _ => True :=
  ⟨not_mirrored [.update (oneBid 1), .enter ⟨0, oneBid 1⟩, .update (oneBid 2),
      .enter ⟨1, oneBid 2⟩, .set ⟨⟨0, oneBid 1⟩, 0⟩] (by decide +kernel),
    not_mirrored [.update (oneBid 1), .enter ⟨0, oneBid 1⟩, .wait 50000000, .update (oneBid 2),
      .enter ⟨1, oneBid 2⟩, .set ⟨⟨1, oneBid 2⟩, 50000000⟩, .set ⟨⟨0, oneBid 1⟩, 0⟩]
        (by decide +kernel),
    not_mirrored [.update (oneBid 1), .enter ⟨0, oneBid 1⟩, .update (oneBid 2),
      .enter ⟨1, oneBid 2⟩, .set ⟨⟨0, oneBid 1⟩, 0⟩] (by decide +kernel)⟩

end Cache

end Avalant
