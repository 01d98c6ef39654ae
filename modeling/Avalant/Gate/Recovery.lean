import Avalant.Gate.Seeding
import Avalant.Lib.Run

/-!
The requests for snapshots of the Gate adapter.

A book that cannot take the next update waits for a snapshot. Only a gap behind a
seeded book starts a request; a gap in the buffer, a gap behind a snapshot, an
answer without a snapshot and a snapshot that the stream has passed leave the
book without one.
-/

namespace Avalant

namespace Gate

open Transition

/-! ## What a book can take -/

/-- A book that can take the next update: it has a base, and the stream has not passed it. -/
def Book.Able (bk : Book) (head : Nat) : Prop :=
  bk.baseID ≠ 0 ∧ (bk.seeded = true ∨ head ≤ bk.baseID)

instance (bk : Book) (head : Nat) : Decidable (bk.Able head) :=
  inferInstanceAs (Decidable (_ ∧ _))

/-- A book with a base waits for nothing. -/
def Book.Drained (bk : Book) : Prop :=
  bk.baseID ≠ 0 → bk.buffer = []

/-- An update that no book with a base drops its base at. -/
def Book.Keeps (bk : Book) (ev : Event) : Prop :=
  bk.seeded = true ∨ ev.u ≤ bk.baseID ∨ straddles ev bk.baseID = true

instance (bk : Book) (ev : Event) : Decidable (bk.Keeps ev) :=
  inferInstanceAs (Decidable (_ ∨ _))

/-- Updates that are seen already, or follow one another. -/
def Follows : Nat → List Event → Prop
  | _, [] => True
  | lastU, ev :: evs =>
      if ev.u ≤ lastU then Follows lastU evs else ev.U = lastU + 1 ∧ Follows ev.u evs

instance Follows.decidable : ∀ lastU evs, Decidable (Follows lastU evs)
  | _, [] => isTrue trivial
  | lastU, ev :: evs =>
      have := Follows.decidable lastU evs
      have := Follows.decidable ev.u evs
      inferInstanceAs (Decidable
        (if ev.u ≤ lastU then Follows lastU evs else ev.U = lastU + 1 ∧ Follows ev.u evs))

/-- A snapshot that fits the buffer. Before the first applied update, every newer one must have the
next id, and nothing may follow the last of them with a gap; without a newer one the stream must not
have passed the snapshot. -/
def Book.Takes (bk : Book) (doc : Doc) (head : Nat) : Prop :=
  if bk.seeded then Follows bk.lastU bk.buffer
  else
    (∀ ev ∈ bk.buffer, newer doc.id ev → straddles ev doc.id) ∧
      if bk.buffer.any (newer doc.id) then
        Follows (lastId bk.lastU (bk.buffer.filter (newer doc.id))) bk.buffer
      else head ≤ doc.id

instance (bk : Book) (doc : Doc) (head : Nat) : Decidable (bk.Takes doc head) := by
  unfold Book.Takes
  infer_instance

section

variable {bk : Book} {evs : List Event}

/-- An update behind a book that can take it starts a request or leaves it able, unless it is a gap
behind the snapshot. -/
theorem parse_able {head : Nat} (ev : Event) (able : bk.Able head) :
    ((bk.parseDepthUpdate ev).2 = .reseed ∨ (bk.parseDepthUpdate ev).1.Able (max head ev.u)) ↔
      bk.Keeps ev := by
  obtain ⟨based, reached⟩ := able
  unfold Book.parseDepthUpdate Book.Keeps
  rw [if_neg based]
  by_cases seeded : bk.seeded = true
  · rw [if_pos seeded]
    refine iff_of_true ?_ (Or.inl seeded)
    by_cases follows : ev.U = bk.lastU + 1
    · rw [if_pos follows]
      exact Or.inr ⟨based, Or.inl seeded⟩
    · rw [if_neg follows]
      exact Or.inl rfl
  · have behind : head ≤ bk.baseID := reached.resolve_left seeded
    rw [if_neg seeded]
    by_cases stale : ev.u ≤ bk.baseID
    · rw [if_pos stale]
      exact iff_of_true (Or.inr ⟨based, Or.inr (max_le behind stale)⟩) (Or.inr (Or.inl stale))
    · rw [if_neg stale]
      by_cases straddle : straddles ev bk.baseID = true
      · rw [if_pos straddle]
        exact iff_of_true (Or.inr ⟨based, Or.inl rfl⟩) (Or.inr (Or.inr straddle))
      · rw [if_neg straddle]
        refine iff_of_false ?_ ?_
        · intro either
          rcases either with reseed | able
          · cases reseed
          · exact able.1 rfl
        · intro either
          rcases either with known | old | next
          · exact seeded known
          · exact stale old
          · exact straddle next

theorem parse_drained {ev : Event} (drained : bk.Drained) :
    (bk.parseDepthUpdate ev).1.Drained := by
  unfold Book.parseDepthUpdate
  split
  case isTrue unbased => exact fun based => absurd unbased based
  case isFalse based =>
    split
    · split
      · exact drained
      · exact fun lost => absurd rfl lost
    · split
      · exact drained
      · split
        · exact drained
        · exact fun lost => absurd rfl lost

/-- The first loop comes to its end when every newer update has the next id. -/
theorem bootstrap_of_straddles (bk : Book)
    (next : ∀ ev ∈ evs, newer bk.baseID ev → straddles ev bk.baseID) :
    ∃ ladders, bk.bootstrap evs = (⟨ladders, bk.baseID,
      lastId bk.lastU (evs.filter (newer bk.baseID)),
      bk.seeded || evs.any (newer bk.baseID), bk.buffer⟩, true) := by
  induction evs generalizing bk with
  | nil => exact ⟨bk.ladders, by simp [Book.bootstrap, lastId]⟩
  | cons ev evs ih =>
      have later : ∀ ev ∈ evs, newer bk.baseID ev → straddles ev bk.baseID :=
        fun ev member => next ev (List.mem_cons_of_mem _ member)
      unfold Book.bootstrap
      by_cases stale : ev.u ≤ bk.baseID
      · have old : newer bk.baseID ev = false := decide_eq_false (Nat.not_lt.mpr stale)
        obtain ⟨ladders, rest⟩ := ih bk later
        rw [if_pos stale, rest, List.filter_cons_of_neg (by rw [old]; exact Bool.false_ne_true),
          List.any_cons, old, Bool.false_or]
        exact ⟨ladders, rfl⟩
      · have new : newer bk.baseID ev = true := decide_eq_true (Nat.lt_of_not_le stale)
        obtain ⟨ladders, rest⟩ := ih { bk.applyDelta ev with seeded := true } later
        rw [if_neg stale, if_pos (next ev List.mem_cons_self new), rest,
          List.filter_cons_of_pos new, lastId_cons, List.any_cons, new]
        exact ⟨ladders, by simp [Book.applyDelta]⟩

/-- Otherwise the base is dropped. -/
theorem bootstrap_of_gap (bk : Book)
    (gap : ¬∀ ev ∈ evs, newer bk.baseID ev → straddles ev bk.baseID) :
    (bk.bootstrap evs).2 = false ∧ (bk.bootstrap evs).1.baseID = 0 := by
  induction evs generalizing bk with
  | nil => exact absurd (fun _ member => by cases member) gap
  | cons ev evs ih =>
      unfold Book.bootstrap
      by_cases stale : ev.u ≤ bk.baseID
      · rw [if_pos stale]
        refine ih bk fun later => gap fun ev' member new => ?_
        rcases List.mem_cons.mp member with rfl | further
        · exact absurd stale (Nat.not_le.mpr (of_decide_eq_true new))
        · exact later ev' further new
      · rw [if_neg stale]
        by_cases straddle : straddles ev bk.baseID = true
        · rw [if_pos straddle]
          refine ih { bk.applyDelta ev with seeded := true }
            fun later => gap fun ev' member new => ?_
          rcases List.mem_cons.mp member with rfl | further
          · exact straddle
          · exact later ev' further new
        · rw [if_neg straddle]
          exact ⟨rfl, rfl⟩

/-- The second loop keeps the base when nothing follows with a gap. -/
theorem replay_of_follows (follows : Follows bk.lastU evs) :
    (bk.replay evs).2 = true ∧ (bk.replay evs).1.baseID = bk.baseID ∧
      (bk.replay evs).1.seeded = bk.seeded := by
  induction evs generalizing bk with
  | nil => exact ⟨rfl, rfl, rfl⟩
  | cons ev evs ih =>
      unfold Book.replay
      simp only [Follows] at follows
      by_cases stale : ev.u ≤ bk.lastU
      · rw [if_pos stale] at follows ⊢
        exact ih follows
      · rw [if_neg stale] at follows ⊢
        rw [if_pos follows.1]
        exact @ih (bk.applyDelta ev) follows.2

theorem replay_of_gap (gap : ¬Follows bk.lastU evs) :
    (bk.replay evs).2 = false ∧ (bk.replay evs).1.baseID = 0 := by
  induction evs generalizing bk with
  | nil => exact absurd trivial gap
  | cons ev evs ih =>
      unfold Book.replay
      simp only [Follows] at gap
      by_cases stale : ev.u ≤ bk.lastU
      · rw [if_pos stale] at gap ⊢
        exact ih gap
      · rw [if_neg stale] at gap ⊢
        by_cases follows : ev.U = bk.lastU + 1
        · rw [if_pos follows]
          exact @ih (bk.applyDelta ev) fun rest => gap ⟨follows, rest⟩
        · rw [if_neg follows]
          exact ⟨rfl, rfl⟩

/-- What the second loop leaves of a seeded book. -/
theorem replayed_able (bk : Book) (head : Nat) (based : bk.baseID ≠ 0) (seeded : bk.seeded = true) :
    Book.Able (match bk.replay bk.buffer with
      | (bk, false) => bk
      | (bk, true) => { bk with buffer := [] }) head ↔ Follows bk.lastU bk.buffer := by
  by_cases follows : Follows bk.lastU bk.buffer
  · obtain ⟨done, base, kept⟩ := replay_of_follows follows
    generalize bk.replay bk.buffer = replayed at done base kept
    obtain ⟨bk', ok⟩ := replayed
    subst done
    exact iff_of_true ⟨base ▸ based, Or.inl (kept.trans seeded)⟩ follows
  · obtain ⟨stopped, lost⟩ := replay_of_gap follows
    generalize bk.replay bk.buffer = replayed at stopped lost
    obtain ⟨bk', ok⟩ := replayed
    subst stopped
    exact iff_of_false (fun able => able.1 lost) follows

theorem drain_able {doc : Doc} {head : Nat} (ladders : Ladders) (based : doc.id ≠ 0) :
    Book.Able (Book.drainBuffer { bk with ladders, baseID := doc.id }) head ↔
      bk.Takes doc head := by
  unfold Book.drainBuffer Book.Takes
  by_cases seeded : bk.seeded = true
  · have replayed := replayed_able { bk with ladders, baseID := doc.id } head based seeded
    simp only [seeded, if_true]
    rw [seeded] at replayed
    exact replayed
  · simp only [seeded, if_false, Bool.false_eq_true]
    by_cases next : ∀ ev ∈ bk.buffer, newer doc.id ev → straddles ev doc.id
    · obtain ⟨ladders', done⟩ := bootstrap_of_straddles { bk with ladders, baseID := doc.id } next
      simp only [seeded, Bool.false_or] at done
      simp only [done, and_iff_right next]
      by_cases some : bk.buffer.any (newer doc.id) = true
      · simp only [some, if_true]
        exact replayed_able ⟨ladders', doc.id, _, true, bk.buffer⟩ head based rfl
      · simp only [some, if_false, Bool.false_eq_true]
        exact ⟨fun able => able.2.resolve_left Bool.false_ne_true, fun reached => ⟨based, Or.inr reached⟩⟩
    · obtain ⟨stopped, lost⟩ := bootstrap_of_gap { bk with ladders, baseID := doc.id } next
      simp only [seeded] at stopped lost
      generalize Book.bootstrap ⟨ladders, doc.id, bk.lastU, false, bk.buffer⟩ bk.buffer =
        drained at stopped lost
      obtain ⟨bk', ok⟩ := drained
      subst stopped
      exact iff_of_false (fun able => able.1 lost) fun takes => next takes.1

theorem seed_able {doc : Doc} {head : Nat} (based : doc.id ≠ 0) :
    (bk.seedREST doc).Able head ↔ bk.Takes doc head := by
  unfold Book.seedREST
  rw [if_neg based]
  exact drain_able doc.ladders based

/-- What is left in the buffer has no base. -/
theorem drain_drained (bk : Book) : bk.drainBuffer.Drained := by
  unfold Book.drainBuffer
  have booted : ∀ bk', (if bk.seeded then (bk, true) else bk.bootstrap bk.buffer) = (bk', false) →
      bk'.baseID = 0 := by
    intro bk' stopped
    split at stopped
    · cases stopped
    · by_cases next : ∀ ev ∈ bk.buffer, newer bk.baseID ev → straddles ev bk.baseID
      · obtain ⟨ladders, done⟩ := bootstrap_of_straddles bk next
        rw [done] at stopped
        cases stopped
      · have lost := (bootstrap_of_gap bk next).2
        rw [stopped] at lost
        exact lost
  split
  case h_1 bk' stopped => exact fun based => absurd (booted bk' stopped) based
  case h_2 bk' _ =>
    split
    case h_1 bk'' stopped =>
      split at stopped
      · by_cases follows : Follows bk'.lastU bk'.buffer
        · have done := (replay_of_follows follows).1
          rw [stopped] at done
          cases done
        · have lost := (replay_of_gap follows).2
          rw [stopped] at lost
          exact fun based => absurd lost based
      · cases stopped
    case h_2 => exact fun _ => rfl

theorem seed_drained {doc : Doc} (drained : bk.Drained) : (bk.seedREST doc).Drained := by
  unfold Book.seedREST
  split
  · exact drained
  · exact drain_drained _

end

/-! ## The adapter and its requests -/

/-- The adapter, the contracts it is subscribed to, the requests without an answer and the last
update that the stream of each contract has reached on this connection. -/
structure Session where
  adapter : Futures
  subscribed : List String
  seeds : List String
  heads : AList fun _ : String => Nat

inductive Act
  /-- `buildDepthSubscribe`. -/
  | subscribe (tokens : List String)
  | update (token : String) (ev : Event)
  /-- A request comes back, without a snapshot when it has failed. -/
  | answer (k : Nat) (doc : Option Doc)
  | reconnect

namespace Session

def initial : Session := ⟨Futures.new, [], [], ∅⟩

def head (s : Session) (token : String) : Nat :=
  (s.heads.lookup token).getD 0

def step (s : Session) : Act → Option Session
  | .subscribe tokens =>
      some { s with subscribed := s.subscribed ++ tokens, seeds := s.seeds ++ tokens }
  | .update token ev =>
      let (adapter, _, reseed) := s.adapter.parseDepthUpdate token ev
      some { s with
        adapter
        seeds := if reseed then s.seeds ++ [token] else s.seeds
        heads := s.heads.insert token (max (s.head token) ev.u) }
  | .answer k doc => do
      let token ← s.seeds[k]?
      some { s with
        adapter := (doc.map (s.adapter.seedREST token)).getD s.adapter
        seeds := s.seeds.eraseIdx k }
  | .reconnect =>
      some { s with adapter := s.adapter.onReconnect, subscribed := [], heads := ∅ }

/-- A subscribed contract whose book cannot take the next update has a request without an answer,
and so has one whose buffer grows. -/
structure Recovers (s : Session) : Prop where
  able : ∀ token ∈ s.subscribed, ¬(s.adapter.bookFor token).Able (s.head token) → token ∈ s.seeds
  bounded : ∀ token ∈ s.subscribed, (s.adapter.bookFor token).buffer ≠ [] → token ∈ s.seeds

/-- While no other request for a subscribed contract is without an answer: an update is not a gap
behind its snapshot, an answer without a snapshot finds a book that does not need it, and a snapshot
fits the buffer. -/
def Fits (s : Session) : Act → Prop
  | .update token ev =>
      token ∈ s.subscribed → token ∉ s.seeds → (s.adapter.bookFor token).Keeps ev
  | .answer k doc =>
      ∀ token ∈ s.seeds[k]?, token ∈ s.subscribed → token ∉ s.seeds.eraseIdx k →
        match doc.filter fun doc => doc.id ≠ 0 with
        | none => (s.adapter.bookFor token).Able (s.head token)
        | some doc => (s.adapter.bookFor token).Takes doc (s.head token)
  | .subscribe _ | .reconnect => True

instance (s : Session) (a : Act) : Decidable (s.Fits a) := by
  unfold Fits
  cases a with
  | subscribe => exact isTrue trivial
  | update => infer_instance
  | answer k doc =>
      dsimp only
      cases s.seeds[k]? with
      | none => exact isTrue fun _ found => by cases found
      | some token =>
          cases doc.filter fun doc => doc.id ≠ 0 with
          | none => exact decidable_of_iff (token ∈ s.subscribed → token ∉ s.seeds.eraseIdx k →
              (s.adapter.bookFor token).Able (s.head token)) (by simp)
          | some doc => exact decidable_of_iff (token ∈ s.subscribed → token ∉ s.seeds.eraseIdx k →
              (s.adapter.bookFor token).Takes doc (s.head token)) (by simp)
  | reconnect => exact isTrue trivial

end Session

/-- In every run whose steps meet `ok`. -/
def AlwaysRecovers (ok : Session → Act → Prop) : Prop :=
  ∀ s, Run Session.step ok Session.initial s → s.Recovers

/-! ## Each step -/

section

variable {a : Futures} {token other : String}

theorem bookFor_setBook_of_ne {bk : Book} (distinct : other ≠ token) :
    (a.setBook token bk).bookFor other = a.bookFor other := by
  unfold Futures.bookFor Futures.setBook
  rw [AList.lookup_insert_ne distinct]

/-- An update changes the book of its contract. -/
theorem parse_setBook (a : Futures) (token : String) (ev : Event) :
    (a.parseDepthUpdate token ev).1 =
        a.setBook token ((a.bookFor token).parseDepthUpdate ev).1 ∧
      ((a.parseDepthUpdate token ev).2.2 = true ↔
        ((a.bookFor token).parseDepthUpdate ev).2 = .reseed) := by
  unfold Futures.parseDepthUpdate
  generalize (a.bookFor token).parseDepthUpdate ev = parsed
  obtain ⟨bk, verdict⟩ := parsed
  cases verdict with
  | quiet => exact ⟨rfl, by simp⟩
  | applied => exact ⟨rfl, by simp⟩
  | reseed => exact ⟨rfl, by simp⟩

theorem seed_bookFor_of_ne {doc : Doc} (distinct : other ≠ token) :
    (a.seedREST token doc).bookFor other = a.bookFor other := by
  unfold Futures.seedREST
  split
  · rfl
  · exact bookFor_setBook_of_ne distinct

end

namespace Session

variable {s s' : Session}

/-- No book with a base waits. -/
def Drained (s : Session) : Prop :=
  ∀ token, (s.adapter.bookFor token).Drained

theorem step_update (s : Session) (token : String) (ev : Event) :
    s.step (.update token ev) = some
      { s with
        adapter := s.adapter.setBook token ((s.adapter.bookFor token).parseDepthUpdate ev).1
        seeds := if ((s.adapter.bookFor token).parseDepthUpdate ev).2 = .reseed then
          s.seeds ++ [token] else s.seeds
        heads := s.heads.insert token (max (s.head token) ev.u) } := by
  obtain ⟨book, reseed⟩ := parse_setBook s.adapter token ev
  unfold step
  dsimp only
  rw [book]
  simp only [reseed]

/-- What an answer leaves of the book of its contract. -/
def answered (bk : Book) (doc : Option Doc) : Book :=
  match doc.filter fun doc => doc.id ≠ 0 with
  | none => bk
  | some doc => bk.seedREST doc

theorem step_answer {k : Nat} {doc : Option Doc} (stepped : s.step (.answer k doc) = some s') :
    ∃ token adapter, s.seeds[k]? = some token ∧
      s' = { s with adapter, seeds := s.seeds.eraseIdx k } ∧
      adapter.bookFor token = answered (s.adapter.bookFor token) doc ∧
      ∀ other ≠ token, adapter.bookFor other = s.adapter.bookFor other := by
  obtain ⟨token, found, stepped⟩ := Option.bind_eq_some_iff.mp stepped
  refine ⟨token, _, found, (Option.some.inj stepped).symm, ?_⟩
  cases doc with
  | none => exact ⟨rfl, fun _ _ => rfl⟩
  | some doc =>
      refine ⟨?_, fun other distinct => seed_bookFor_of_ne distinct⟩
      refine (seed_bookFor s.adapter token doc).1.trans ?_
      unfold answered
      by_cases empty : doc.id = 0
      · rw [Option.filter_some_neg (by simpa using empty)]
        exact if_pos empty
      · rw [Option.filter_some_pos (by simpa using empty)]

theorem drained_step {a : Act} (drained : s.Drained) (stepped : s.step a = some s') :
    s'.Drained := by
  intro other
  cases a with
  | subscribe tokens =>
      cases stepped
      exact drained other
  | update token ev =>
      rw [step_update] at stepped
      cases stepped
      by_cases same : other = token
      · subst same
        rw [bookFor_setBook]
        exact parse_drained (drained other)
      · rw [bookFor_setBook_of_ne same]
        exact drained other
  | answer k doc =>
      obtain ⟨token, adapter, found, rfl, here, others⟩ := step_answer stepped
      dsimp only
      by_cases same : other = token
      · subst same
        rw [here]
        unfold answered
        split
        · exact drained other
        · exact seed_drained (drained other)
      · rw [others other same]
        exact drained other
  | reconnect =>
      cases stepped
      exact fun based => absurd rfl based

/-- The buffer of an able book is empty. -/
theorem recovers_of_able (drained : s.Drained)
    (able : ∀ token ∈ s.subscribed, ¬(s.adapter.bookFor token).Able (s.head token) →
      token ∈ s.seeds) : s.Recovers := by
  refine ⟨able, fun token member waits => able token member fun ready => ?_⟩
  exact waits (drained token ready.1)

/-- Where the other contracts recover, it is up to one. -/
theorem recovers_iff (token : String) (drained : s.Drained)
    (others : ∀ other ∈ s.subscribed, other ≠ token →
      ¬(s.adapter.bookFor other).Able (s.head other) → other ∈ s.seeds) :
    s.Recovers ↔ (token ∈ s.subscribed → token ∉ s.seeds →
      (s.adapter.bookFor token).Able (s.head token)) := by
  constructor
  · intro recovers member idle
    by_contra unable
    exact idle (recovers.able token member unable)
  · intro able
    refine recovers_of_able drained fun other member unable => ?_
    by_cases same : other = token
    · subst same
      by_contra idle
      exact unable (able member idle)
    · exact others other member same unable

theorem answered_able (bk : Book) (doc : Option Doc) (head : Nat) :
    (answered bk doc).Able head ↔
      match doc.filter fun doc => doc.id ≠ 0 with
      | none => bk.Able head
      | some doc => bk.Takes doc head := by
  unfold answered
  cases known : doc.filter fun doc => doc.id ≠ 0 with
  | none => exact Iff.rfl
  | some doc =>
      have based := (Option.filter_eq_some_iff.mp known).2
      exact seed_able (by simpa using based)

theorem head_insert (s : Session) (token other : String) (u : Nat) :
    ({ s with heads := s.heads.insert token u } : Session).head other =
      if other = token then u else s.head other := by
  unfold head
  split
  case isTrue same =>
    subst same
    rw [AList.lookup_insert]
    rfl
  case isFalse distinct => rw [AList.lookup_insert_ne distinct]

/-- A step keeps the recovery of the contracts exactly when it fits. -/
theorem recovers_step_iff {a : Act} (drained : s.Drained) (recovers : s.Recovers)
    (stepped : s.step a = some s') : s'.Recovers ↔ s.Fits a := by
  have drained' := drained_step drained stepped
  cases a with
  | subscribe tokens =>
      cases stepped
      refine iff_of_true (recovers_of_able drained' fun token member unable => ?_) trivial
      rcases List.mem_append.mp member with known | new
      · exact List.mem_append_left _ (recovers.able token known unable)
      · exact List.mem_append_right _ new
  | update token ev =>
      rw [step_update] at stepped
      cases stepped
      have moved := head_insert s token token (max (s.head token) ev.u)
      rw [if_pos rfl] at moved
      refine (recovers_iff token drained' fun other member distinct unable => ?_).trans ?_
      · rw [bookFor_setBook_of_ne distinct] at unable
        have same := head_insert s token other (max (s.head token) ev.u)
        rw [if_neg distinct] at same
        have known := recovers.able other member (same ▸ unable)
        dsimp only
        split
        · exact List.mem_append_left _ known
        · exact known
      · unfold Fits
        refine forall_congr' fun member => ?_
        have parsed : token ∉ s.seeds → _ := fun idle =>
          parse_able ev (by_contra fun unable => idle (recovers.able token member unable))
        change (token ∉ (if _ then _ else _) →
          Book.Able (Futures.bookFor (Futures.setBook _ _ _) _) (head { s with heads := _ } _)) ↔ _
        rw [moved, bookFor_setBook]
        constructor
        · intro holds idle
          refine (parsed idle).mp ?_
          by_cases reseed : ((s.adapter.bookFor token).parseDepthUpdate ev).2 = .reseed
          · exact Or.inl reseed
          · rw [if_neg reseed] at holds
            exact Or.inr (holds idle)
        · intro keeps waiting
          by_cases reseed : ((s.adapter.bookFor token).parseDepthUpdate ev).2 = .reseed
          · rw [if_pos reseed] at waiting
            exact absurd (List.mem_append_right _ (List.mem_singleton_self token)) waiting
          · rw [if_neg reseed] at waiting
            exact ((parsed waiting).mpr (keeps waiting)).resolve_left reseed
  | answer k doc =>
      obtain ⟨token, adapter, found, rfl, here, others⟩ := step_answer stepped
      refine (recovers_iff token drained' fun other member distinct unable => ?_).trans ?_
      · dsimp only at unable
        rw [others other distinct] at unable
        obtain ⟨i, at_⟩ := List.mem_iff_getElem?.mp (recovers.able other member unable)
        refine List.mem_eraseIdx_iff_getElem?.mpr ⟨i, ?_, at_⟩
        intro same
        subst same
        exact distinct (Option.some.inj (at_.symm.trans found))
      · unfold Fits
        dsimp only
        rw [here, found]
        have able := answered_able (s.adapter.bookFor token) doc (s.head token)
        constructor
        · intro holds _ given member idle
          cases given
          exact able.mp (holds member idle)
        · intro fits member idle
          exact able.mpr (fits token rfl member idle)
  | reconnect =>
      cases stepped
      refine iff_of_true (recovers_of_able drained' fun token member => ?_) trivial
      cases member

end Session

/-! ## Every run -/

/-- The condition under which the contracts recover: no step outside it keeps their recovery. -/
structure RecoversWhen (ok : Session → Act → Prop) : Prop where
  always : AlwaysRecovers ok
  only : ∀ s a s', Run Session.step ok Session.initial s → s.step a = some s' →
    s'.Recovers → ok s a

theorem recovers_run {s : Session}
    (run : Run Session.step Session.Fits Session.initial s) :
    s.Drained ∧ s.Recovers := by
  refine run.invariant (I := fun s => s.Drained ∧ s.Recovers) ?_ ⟨?_, ?_⟩
  · intro s a s' holds fits stepped
    rcases holds with ⟨drained, recovers⟩
    exact ⟨Session.drained_step drained stepped,
      (Session.recovers_step_iff drained recovers stepped).mpr fits⟩
  · exact fun token based => absurd rfl based
  · exact Session.recovers_of_able (fun token based => absurd rfl based)
      fun token member => by cases member

/-- Every run within the condition recovers, and a step outside it loses a contract. -/
theorem recoversWhen_fits {ok : Session → Act → Prop} (same : ∀ s a, ok s a ↔ s.Fits a) :
    RecoversWhen ok where
  always := fun _ run => (recovers_run (run.mono fun s a => (same s a).mp)).2
  only := fun s a _ run stepped recovers => by
    obtain ⟨drained, recovered⟩ := recovers_run (run.mono fun s a => (same s a).mp)
    exact (same s a).mpr ((Session.recovers_step_iff drained recovered stepped).mp recovers)

theorem recoversWhen_session_fits : RecoversWhen Session.Fits :=
  recoversWhen_fits fun _ _ => Iff.rfl

/-- A gap behind a seeded book starts a request, and its answer seeds the book again. -/
example : (execGuarded Session.step Session.Fits Session.initial
    [.subscribe ["BTC"], .update "BTC" ⟨100, 105, [], []⟩, .answer 0 (some ⟨102, [], []⟩),
      .update "BTC" ⟨120, 125, [], []⟩, .answer 0 (some ⟨125, [], []⟩)]).map
        (fun s => ((s.adapter.bookFor "BTC").baseID, s.seeds)) = some (125, []) := by
  decide +kernel

/-- A run that ends with a subscribed contract whose book has no base and no request. -/
theorem not_recovers {ok : Session → Act → Prop} (token : String) (as : List Act)
    (run : ∀ s, exec Session.step Session.initial as = some s →
      Run Session.step ok Session.initial s)
    (lost : (exec Session.step Session.initial as).map
      (fun s => ((s.adapter.bookFor token).baseID, s.seeds, decide (token ∈ s.subscribed))) =
        some (0, [], true)) : ¬AlwaysRecovers ok := by
  intro always
  obtain ⟨s, executed, view⟩ := Option.map_eq_some_iff.mp lost
  obtain ⟨base, view⟩ := Prod.ext_iff.mp view
  obtain ⟨seeds, member⟩ := Prod.ext_iff.mp view
  have outstanding := (always s (run s executed)).able token (of_decide_eq_true member)
    fun able => able.1 base
  dsimp only at seeds
  rw [seeds] at outstanding
  cases outstanding

/-- The answer to a request is a snapshot. -/
def Act.Answers : Act → Prop
  | .answer _ doc => doc.isSome
  | _ => True

/-- Two newer updates in the buffer. -/
def gapRun : List Act :=
  [.subscribe ["BTC"], .update "BTC" ⟨100, 105, [], []⟩, .update "BTC" ⟨106, 110, [], []⟩,
    .answer 0 (some ⟨99, [], []⟩)]

/-- A contract is lost by two newer updates in the buffer, and by a request that fails. -/
theorem alwaysRecovers_broken :
    ¬AlwaysRecovers (fun _ a => a.Answers) ∧ ¬AlwaysRecovers fun _ _ => True := by
  constructor
  · have answers : ∀ a ∈ gapRun, a.Answers := by
      simp [gapRun, Act.Answers]
    exact not_recovers "BTC" gapRun (fun _ => Run.of_exec_of_forall fun a member _ => answers a member)
      (by decide +kernel)
  · exact not_recovers "BTC" [.subscribe ["BTC"], .answer 0 none] (fun _ => Run.of_exec)
      (by decide +kernel)

end Gate

end Avalant
