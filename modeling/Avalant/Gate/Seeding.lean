import Avalant.Gate.Futures
import Mathlib.Tactic.NormNum

/-!
The seeding of a Gate book, whenever its snapshot arrives.

While no more than one buffered update is newer than the snapshot, the book ends
as if the snapshot had come first. `drainBuffer` measures every newer update
against the snapshot, not against the one before it, so a second one looks like a
gap: the base is dropped, and what follows is buffered for good.
-/

namespace Avalant

namespace Gate

/-! ## The stream of a venue -/

/-- Updates that follow one another from the id after `prev`. -/
def Chained : Nat → List Event → Prop
  | _, [] => True
  | prev, ev :: evs => ev.U = prev + 1 ∧ ev.U ≤ ev.u ∧ Chained ev.u evs

/-- The last id of a stream. -/
def lastId (prev : Nat) (evs : List Event) : Nat :=
  (evs.map Event.u).getLastD prev

/-- A contract: its book at every id, and the stream of updates after an id. -/
structure Venue where
  book : Nat → Ladders
  start : Nat
  events : List Event
  chained : Chained start events
  /-- An update brings the book at any id before or inside it to its last id. -/
  covers : ∀ ev ∈ events, ∀ k, ev.U ≤ k + 1 → k ≤ ev.u → (book k).apply ev = book ev.u

/-- A snapshot of the book at an id inside the stream. -/
structure Answer (v : Venue) where
  doc : Doc
  full : doc.ladders = v.book doc.id
  positive : 0 < doc.id
  inside : v.start ≤ doc.id

/-! ## Books of a stream -/

namespace Futures

/-- Updates one after the other: the adapter, and what it emits for each. -/
def feed (a : Futures) (token : String) : List Event → Futures × List (Event × Depth)
  | [] => (a, [])
  | ev :: evs =>
      let (a, emitted, _) := a.parseDepthUpdate token ev
      let (a, rest) := a.feed token evs
      (a, (emitted.map fun depth => (ev, depth)).toList ++ rest)

/-- The snapshot takes the lock after some updates. -/
def seededAfter (token : String) (doc : Doc) (before after : List Event) :
    Futures × List (Event × Depth) :=
  let (a, first) := new.feed token before
  let (a, second) := (a.seedREST token doc).feed token after
  (a, first ++ second)

end Futures

/-- The adapter ends as if the snapshot had come first, and emits the books of the venue. -/
structure SeedsAlike (token : String) (v : Venue) (answer : Answer v) (n : Nat) : Prop where
  ladders : (((Futures.seededAfter token answer.doc (v.events.take n) (v.events.drop n)).1).bookFor
    token).ladders = (((Futures.seededAfter token answer.doc [] v.events).1).bookFor token).ladders
  lastU : (((Futures.seededAfter token answer.doc (v.events.take n) (v.events.drop n)).1).bookFor
    token).lastU = (((Futures.seededAfter token answer.doc [] v.events).1).bookFor token).lastU
  seeded : (((Futures.seededAfter token answer.doc (v.events.take n) (v.events.drop n)).1).bookFor
    token).seeded = (((Futures.seededAfter token answer.doc [] v.events).1).bookFor token).seeded
  emitted : ∀ x ∈ (Futures.seededAfter token answer.doc (v.events.take n) (v.events.drop n)).2,
    x.2 = (v.book x.1.u).depth

/-! ## The book of one contract -/

namespace Book

/-- Updates one after the other: the book, and those that are emitted, each with the book then. -/
def feed (bk : Book) : List Event → Book × List (Event × Ladders)
  | [] => (bk, [])
  | ev :: evs =>
      let (bk, verdict) := bk.parseDepthUpdate ev
      let (last, rest) := bk.feed evs
      (last, if verdict = .applied then (ev, bk.ladders) :: rest else rest)

/-- Before there is a base, updates wait. -/
theorem feed_of_unbased (bk : Book) (unbased : bk.baseID = 0) (evs : List Event) :
    bk.feed evs = ({ bk with buffer := bk.buffer ++ evs }, []) := by
  induction evs generalizing bk with
  | nil =>
      rw [List.append_nil]
      rfl
  | cons ev evs ih =>
      have waits : bk.parseDepthUpdate ev = ({ bk with buffer := bk.buffer ++ [ev] }, .quiet) := by
        unfold parseDepthUpdate
        exact if_pos unbased
      have rest := ih { bk with buffer := bk.buffer ++ [ev] } unbased
      dsimp only [feed]
      rw [waits]
      dsimp only
      rw [rest]
      simp

end Book

/-- A book that is up to date: at the snapshot, or at the last update after it. -/
def Venue.bookAt (v : Venue) (id prev : Nat) : Book :=
  if prev ≤ id then ⟨v.book id, id, 0, false, []⟩ else ⟨v.book prev, id, prev, true, []⟩

section

variable {v : Venue} {id prev : Nat} {ev : Event} {evs : List Event}

theorem lastId_cons : lastId prev (ev :: evs) = lastId ev.u evs :=
  List.getLastD_cons

theorem lastId_append {evs' : List Event} :
    lastId prev (evs ++ evs') = lastId (lastId prev evs) evs' := by
  induction evs generalizing prev with
  | nil => rfl
  | cons ev evs ih => rw [List.cons_append, lastId_cons, lastId_cons, ih]

theorem chained_append {evs' : List Event} :
    Chained prev (evs ++ evs') ↔ Chained prev evs ∧ Chained (lastId prev evs) evs' := by
  induction evs generalizing prev with
  | nil => simp [Chained, lastId]
  | cons ev evs ih =>
      rw [List.cons_append, lastId_cons]
      simp only [Chained, ih, and_assoc]

theorem le_lastId (chained : Chained prev evs) : prev ≤ lastId prev evs := by
  induction evs generalizing prev with
  | nil => exact le_refl prev
  | cons ev evs ih =>
      obtain ⟨follows, ordered, rest⟩ := chained
      rw [lastId_cons]
      have further := ih rest
      omega

/-- The ids of a stream lie after its beginning and up to its end. -/
theorem bounds_of_chained (chained : Chained prev evs) :
    ∀ ev ∈ evs, prev < ev.u ∧ ev.u ≤ lastId prev evs := by
  induction evs generalizing prev with
  | nil =>
      intro ev member
      cases member
  | cons first evs ih =>
      obtain ⟨follows, ordered, rest⟩ := chained
      have further := le_lastId rest
      intro ev member
      rw [lastId_cons]
      rcases List.mem_cons.mp member with rfl | later
      · omega
      · have bounds := ih rest ev later
        omega

/-- The update that follows keeps a book up to date, and is emitted when it is newer. -/
theorem parse_bookAt (positive : 0 < id) (follows : ev.U = prev + 1) (ordered : ev.U ≤ ev.u)
    (covers : ∀ k, ev.U ≤ k + 1 → k ≤ ev.u → (v.book k).apply ev = v.book ev.u) :
    (v.bookAt id prev).parseDepthUpdate ev =
      (v.bookAt id ev.u, if ev.u ≤ id then .quiet else .applied) := by
  have based : id ≠ 0 := Nat.ne_of_gt positive
  unfold Venue.bookAt
  by_cases seen : prev ≤ id
  · rw [if_pos seen]
    unfold Book.parseDepthUpdate
    rw [if_neg based, if_neg Bool.false_ne_true]
    by_cases stale : ev.u ≤ id
    · rw [if_pos stale, if_pos stale, if_pos stale]
    · have straddle : straddles ev id = true := decide_eq_true ⟨by omega, by omega⟩
      have applied := covers id (by omega) (by omega)
      rw [if_neg stale, if_neg stale, if_neg stale, if_pos straddle]
      dsimp only [Book.applyDelta]
      rw [applied]
  · have stale : ¬ev.u ≤ id := by omega
    have applied := covers prev (by omega) (by omega)
    rw [if_neg seen, if_neg stale, if_neg stale]
    unfold Book.parseDepthUpdate
    rw [if_neg based, if_pos rfl, if_pos follows]
    dsimp only [Book.applyDelta]
    rw [applied]

/-- So does a whole stream, and what is emitted is the book of the venue. -/
theorem feed_bookAt (positive : 0 < id) (chained : Chained prev evs)
    (covers : ∀ ev ∈ evs, ∀ k, ev.U ≤ k + 1 → k ≤ ev.u → (v.book k).apply ev = v.book ev.u) :
    ((v.bookAt id prev).feed evs).1 = v.bookAt id (lastId prev evs) ∧
      ∀ x ∈ ((v.bookAt id prev).feed evs).2, x.2 = v.book x.1.u := by
  induction evs generalizing prev with
  | nil =>
      refine ⟨rfl, fun x member => ?_⟩
      cases member
  | cons ev evs ih =>
      obtain ⟨follows, ordered, rest⟩ := chained
      have parsed := parse_bookAt positive follows ordered (covers ev List.mem_cons_self)
      have later := ih rest fun ev' member => covers ev' (List.mem_cons_of_mem _ member)
      dsimp only [Book.feed]
      rw [parsed, lastId_cons]
      refine ⟨later.1, fun x member => ?_⟩
      by_cases stale : ev.u ≤ id
      · have quiet : Verdict.quiet ≠ Verdict.applied := by decide
        rw [if_pos stale] at member
        rw [if_neg quiet] at member
        exact later.2 x member
      · rw [if_neg stale, if_pos rfl] at member
        rcases List.mem_cons.mp member with rfl | further
        · dsimp only [Venue.bookAt]
          rw [if_neg stale]
        · exact later.2 x further

/-! ## The drain -/

/-- Whether an update is newer than a snapshot. -/
def newer (id : Nat) (ev : Event) : Bool :=
  decide (id < ev.u)

theorem newer_of_chained (id : Nat) (chained : Chained prev evs) (seen : id ≤ prev) :
    evs.countP (newer id) = evs.length := by
  rw [List.countP_eq_length]
  intro ev member
  have bounds := bounds_of_chained chained ev member
  exact decide_eq_true (by omega)

/-- One newer update at most: the first loop brings the book up to date. -/
theorem bootstrap_of_few {buffer : List Event} (chained : Chained prev evs) (seen : prev ≤ id)
    (covers : ∀ ev ∈ evs, ∀ k, ev.U ≤ k + 1 → k ≤ ev.u → (v.book k).apply ev = v.book ev.u)
    (few : evs.countP (newer id) ≤ 1) :
    Book.bootstrap ⟨v.book id, id, 0, false, buffer⟩ evs =
      ({ v.bookAt id (lastId prev evs) with buffer }, true) := by
  induction evs generalizing prev with
  | nil =>
      unfold Venue.bookAt
      rw [show lastId prev [] = prev from rfl, if_pos seen]
      rfl
  | cons ev evs ih =>
      obtain ⟨follows, ordered, rest⟩ := chained
      rw [lastId_cons]
      unfold Book.bootstrap
      by_cases stale : ev.u ≤ id
      · rw [if_pos stale]
        refine ih rest stale (fun ev' member => covers ev' (List.mem_cons_of_mem _ member)) ?_
        have fewer := (List.sublist_cons_self ev evs).countP_le (p := newer id)
        exact fewer.trans few
      · have straddle : straddles ev id = true := decide_eq_true ⟨by omega, by omega⟩
        have applied := covers ev List.mem_cons_self id (by omega) (by omega)
        have last : evs = [] := by
          have all := newer_of_chained id rest (by omega)
          have one : newer id ev = true := decide_eq_true (by omega)
          rw [List.countP_cons_of_pos one, all] at few
          exact List.length_eq_zero_iff.mp (by omega)
        subst last
        rw [if_neg stale, if_pos straddle]
        dsimp only [Book.applyDelta, Book.bootstrap, Venue.bookAt]
        rw [applied, show lastId ev.u [] = ev.u from rfl, if_neg stale]

/-- More than one: the second looks like a gap. -/
theorem bootstrap_of_many (buffer : List Event) (chained : Chained prev evs) (seen : prev ≤ id)
    (many : 1 < evs.countP (newer id)) :
    ∃ ladders u, Book.bootstrap ⟨v.book id, id, 0, false, buffer⟩ evs =
      (⟨ladders, 0, u, true, []⟩, false) ∧ id < u ∧ u < lastId prev evs := by
  induction evs generalizing prev with
  | nil => cases many
  | cons ev evs ih =>
      obtain ⟨follows, ordered, rest⟩ := chained
      rw [lastId_cons]
      unfold Book.bootstrap
      by_cases stale : ev.u ≤ id
      · have old : ¬newer id ev = true := by
          unfold newer
          rw [decide_eq_true_eq]
          omega
        rw [List.countP_cons_of_neg old] at many
        rw [if_pos stale]
        exact ih rest stale many
      · have straddle : straddles ev id = true := decide_eq_true ⟨by omega, by omega⟩
        have one : newer id ev = true := decide_eq_true (by omega)
        rw [List.countP_cons_of_pos one] at many
        rw [if_neg stale, if_pos straddle]
        cases evs with
        | nil =>
            rw [List.countP_nil] at many
            omega
        | cons second evs =>
            obtain ⟨follows', ordered', rest'⟩ := rest
            have apart : ¬second.u ≤ id := by omega
            have gap : ¬straddles second id = true := by
              unfold straddles
              rw [decide_eq_true_eq]
              omega
            dsimp only [Book.applyDelta]
            unfold Book.bootstrap
            rw [if_neg apart, if_neg gap]
            refine ⟨_, ev.u, rfl, by omega, ?_⟩
            have further := le_lastId rest'
            rw [lastId_cons]
            omega

theorem replay_of_done {bk : Book} (done : ∀ ev ∈ evs, ev.u ≤ bk.lastU) :
    bk.replay evs = (bk, true) := by
  induction evs with
  | nil => rfl
  | cons ev evs ih =>
      unfold Book.replay
      rw [if_pos (done ev List.mem_cons_self)]
      exact ih fun ev' member => done ev' (List.mem_cons_of_mem _ member)

/-- A snapshot for a new book drains its buffer. -/
theorem seed_new {doc : Doc} (positive : 0 < doc.id) (full : doc.ladders = v.book doc.id) :
    ({ Book.new with buffer := evs } : Book).seedREST doc =
      Book.drainBuffer ⟨v.book doc.id, doc.id, 0, false, evs⟩ := by
  unfold Book.seedREST
  rw [if_neg (Nat.ne_of_gt positive), full]
  rfl

theorem drain_of_bootstrap {ladders : Ladders} {bk : Book} {ok : Bool}
    (drained : Book.bootstrap ⟨ladders, id, 0, false, evs⟩ evs = (bk, ok)) :
    Book.drainBuffer ⟨ladders, id, 0, false, evs⟩ =
      if ok then
        match if bk.seeded then bk.replay bk.buffer else (bk, true) with
        | (bk, false) => bk
        | (bk, true) => { bk with buffer := [] }
      else bk := by
  simp only [Book.drainBuffer, Bool.false_eq_true, if_false, drained]
  cases ok with
  | false => rfl
  | true => rfl

/-- A snapshot for a book whose buffer has one newer update at most. -/
theorem seed_of_few {doc : Doc} (positive : 0 < doc.id) (full : doc.ladders = v.book doc.id)
    (chained : Chained prev evs) (seen : prev ≤ doc.id)
    (covers : ∀ ev ∈ evs, ∀ k, ev.U ≤ k + 1 → k ≤ ev.u → (v.book k).apply ev = v.book ev.u)
    (few : evs.countP (newer doc.id) ≤ 1) :
    ({ Book.new with buffer := evs } : Book).seedREST doc = v.bookAt doc.id (lastId prev evs) := by
  rw [seed_new positive full, drain_of_bootstrap (bootstrap_of_few chained seen covers few)]
  rw [if_pos rfl]
  unfold Venue.bookAt
  by_cases stale : lastId prev evs ≤ doc.id
  · rw [if_pos stale]
    rfl
  · have done : ∀ ev ∈ evs, ev.u ≤ lastId prev evs :=
      fun ev member => (bounds_of_chained chained ev member).2
    rw [if_neg stale]
    dsimp only
    rw [if_pos rfl, replay_of_done done]

/-- A snapshot for a book whose buffer has more: there is no base, and the end is not reached. -/
theorem seed_of_many {doc : Doc} (positive : 0 < doc.id) (full : doc.ladders = v.book doc.id)
    (chained : Chained prev evs) (seen : prev ≤ doc.id) (many : 1 < evs.countP (newer doc.id)) :
    ∃ bk : Book, ({ Book.new with buffer := evs } : Book).seedREST doc = bk ∧ bk.baseID = 0 ∧
      doc.id < bk.lastU ∧ bk.lastU < lastId prev evs := by
  obtain ⟨ladders, u, drained, after, before⟩ :=
    bootstrap_of_many evs chained seen many
  refine ⟨⟨ladders, 0, u, true, []⟩, ?_, rfl, after, before⟩
  rw [seed_new positive full, drain_of_bootstrap drained, if_neg Bool.false_ne_true]

end

/-! ## The adapter -/

section

variable {a : Futures} {token : String}

theorem seeded_of_applied (bk : Book) (ev : Event)
    (applied : (bk.parseDepthUpdate ev).2 = .applied) : (bk.parseDepthUpdate ev).1.seeded = true := by
  unfold Book.parseDepthUpdate at applied ⊢
  split at applied
  · cases applied
  case isFalse based =>
    rw [if_neg based]
    split at applied
    case isTrue seeded =>
      split at applied
      case isTrue follows =>
        rw [if_pos seeded, if_pos follows]
        exact seeded
      case isFalse => cases applied
    case isFalse unseeded =>
      rw [if_neg unseeded]
      split at applied
      · cases applied
      case isFalse new =>
        rw [if_neg new]
        split at applied
        case isTrue straddle => rw [if_pos straddle]
        case isFalse => cases applied

theorem bookFor_setBook {bk : Book} : (a.setBook token bk).bookFor token = bk := by
  unfold Futures.bookFor Futures.setBook
  rw [AList.lookup_insert]
  rfl

/-- Without best prices an update does to its book what it does to the book alone. -/
theorem parse_bookFor (alone : a.bbo.lookup token = none) (ev : Event) :
    (a.parseDepthUpdate token ev).1.bookFor token = ((a.bookFor token).parseDepthUpdate ev).1 ∧
      (a.parseDepthUpdate token ev).1.bbo = a.bbo ∧
      (a.parseDepthUpdate token ev).2.1 =
        if ((a.bookFor token).parseDepthUpdate ev).2 = .applied then
          some ((a.bookFor token).parseDepthUpdate ev).1.ladders.depth
        else none := by
  have seeded := seeded_of_applied (a.bookFor token) ev
  unfold Futures.parseDepthUpdate
  generalize (a.bookFor token).parseDepthUpdate ev = parsed at seeded ⊢
  obtain ⟨bk, verdict⟩ := parsed
  cases verdict with
  | quiet => exact ⟨bookFor_setBook, rfl, rfl⟩
  | reseed => exact ⟨bookFor_setBook, rfl, rfl⟩
  | applied =>
      refine ⟨bookFor_setBook, rfl, ?_⟩
      have merged : (a.setBook token bk).mergedSnapshot token = bk.ladders.depth := by
        unfold Futures.mergedSnapshot
        have same : (a.setBook token bk).bbo.lookup token = none := alone
        have here : (a.setBook token bk).books.lookup token = some bk := AList.lookup_insert _
        rw [same, here]
        dsimp only
        rw [if_pos (seeded rfl)]
      dsimp only
      rw [merged, if_pos rfl]

theorem feed_bookFor (alone : a.bbo.lookup token = none) (evs : List Event) :
    (a.feed token evs).1.bookFor token = ((a.bookFor token).feed evs).1 ∧
      (a.feed token evs).1.bbo = a.bbo ∧
      (a.feed token evs).2 = ((a.bookFor token).feed evs).2.map fun x => (x.1, x.2.depth) := by
  induction evs generalizing a with
  | nil => exact ⟨rfl, rfl, rfl⟩
  | cons ev evs ih =>
      obtain ⟨book, bbo, emitted⟩ := parse_bookFor alone ev
      have rest := ih (a := (a.parseDepthUpdate token ev).1) (by rw [bbo]; exact alone)
      dsimp only [Futures.feed, Book.feed]
      rw [emitted]
      rw [book] at rest
      refine ⟨rest.1, rest.2.1.trans bbo, ?_⟩
      rw [rest.2.2]
      split
      · rfl
      · rfl

theorem seed_bookFor (a : Futures) (token : String) (doc : Doc) :
    (a.seedREST token doc).bookFor token = (a.bookFor token).seedREST doc ∧
      (a.seedREST token doc).bbo = a.bbo := by
  unfold Futures.seedREST
  split
  case isTrue empty =>
    unfold Book.seedREST
    rw [if_pos empty]
    exact ⟨rfl, rfl⟩
  case isFalse => exact ⟨bookFor_setBook, rfl⟩

/-- What a snapshot after some updates leaves of a book, and what is emitted. -/
theorem seededAfter_bookFor (token : String) (doc : Doc) (before after : List Event) :
    (Futures.seededAfter token doc before after).1.bookFor token =
        ((({ Book.new with buffer := before } : Book).seedREST doc).feed after).1 ∧
      (Futures.seededAfter token doc before after).2 =
        ((({ Book.new with buffer := before } : Book).seedREST doc).feed after).2.map
          fun x => (x.1, x.2.depth) := by
  have waits := Book.feed_of_unbased Book.new rfl before
  have blank : Futures.new.bbo.lookup token = none := rfl
  obtain ⟨book, bbo, emitted⟩ := feed_bookFor blank before
  obtain ⟨seeded, bbo'⟩ := seed_bookFor (Futures.new.feed token before).1 token doc
  have alone : ((Futures.new.feed token before).1.seedREST token doc).bbo.lookup token = none := by
    rw [bbo', bbo]
    rfl
  obtain ⟨last, -, emitted'⟩ := feed_bookFor alone after
  have start : (Futures.new.feed token before).1.bookFor token =
      { Book.new with buffer := before } := by
    rw [book, show Futures.new.bookFor token = Book.new from rfl, waits]
    rfl
  have silent : (Futures.new.feed token before).2 = [] := by
    rw [emitted, show Futures.new.bookFor token = Book.new from rfl, waits]
    rfl
  unfold Futures.seededAfter
  dsimp only
  rw [last, emitted', seeded, start, silent]
  exact ⟨rfl, rfl⟩

end

/-! ## Every stream -/

section

variable {token : String} {v : Venue} {answer : Answer v} {n : Nat}

theorem covers_of_sublist {evs : List Event} (part : evs.Sublist v.events) :
    ∀ ev ∈ evs, ∀ k, ev.U ≤ k + 1 → k ≤ ev.u → (v.book k).apply ev = v.book ev.u :=
  fun ev member => v.covers ev (part.subset member)

/-- The stream before and after the snapshot takes the lock. -/
theorem chained_take_drop :
    Chained v.start (v.events.take n) ∧
      Chained (lastId v.start (v.events.take n)) (v.events.drop n) ∧
      lastId (lastId v.start (v.events.take n)) (v.events.drop n) = lastId v.start v.events := by
  have split : v.events.take n ++ v.events.drop n = v.events := List.take_append_drop n v.events
  obtain ⟨before, after⟩ := chained_append.mp (split ▸ v.chained)
  refine ⟨before, after, ?_⟩
  rw [← lastId_append, split]

/-- When the snapshot comes first, the book follows the stream. -/
theorem seededFirst (token : String) (answer : Answer v) :
    (Futures.seededAfter token answer.doc [] v.events).1.bookFor token =
      v.bookAt answer.doc.id (lastId v.start v.events) := by
  have seeded := seed_of_few answer.positive answer.full (show Chained v.start [] from trivial)
    answer.inside (covers_of_sublist (List.nil_sublist _)) (Nat.zero_le 1)
  rw [(seededAfter_bookFor token answer.doc [] v.events).1, seeded]
  exact (feed_bookAt answer.positive v.chained v.covers).1

theorem seedsAlike_of_few (few : (v.events.take n).countP (newer answer.doc.id) ≤ 1) :
    SeedsAlike token v answer n := by
  obtain ⟨before, after, last⟩ := chained_take_drop (v := v) (n := n)
  have seeded := seed_of_few answer.positive answer.full before answer.inside
    (covers_of_sublist (List.take_sublist n _)) few
  obtain ⟨fed, books⟩ := feed_bookAt answer.positive after
    (covers_of_sublist (List.drop_sublist n _))
  obtain ⟨late, emitted⟩ :=
    seededAfter_bookFor token answer.doc (v.events.take n) (v.events.drop n)
  have early := seededFirst token answer
  rw [seeded, fed, last] at late
  rw [seeded] at emitted
  refine ⟨by rw [late, early], by rw [late, early], by rw [late, early], fun x member => ?_⟩
  rw [emitted] at member
  obtain ⟨y, known, rfl⟩ := List.mem_map.mp member
  dsimp only
  rw [books y known]

/-- Otherwise the last update is never reached. -/
theorem few_of_seedsAlike (alike : SeedsAlike token v answer n) :
    (v.events.take n).countP (newer answer.doc.id) ≤ 1 := by
  by_contra some
  obtain ⟨before, after, last⟩ := chained_take_drop (v := v) (n := n)
  obtain ⟨bk, seeded, unbased, past, short⟩ :=
    seed_of_many answer.positive answer.full before answer.inside (Nat.lt_of_not_le some)
  have late := (seededAfter_bookFor token answer.doc (v.events.take n) (v.events.drop n)).1
  have lastU := alike.lastU
  rw [late, seededFirst, seeded, Book.feed_of_unbased bk unbased] at lastU
  have further := le_lastId after
  rw [last] at further
  have beyond : ¬lastId v.start v.events ≤ answer.doc.id := by omega
  unfold Venue.bookAt at lastU
  rw [if_neg beyond] at lastU
  dsimp only at lastU
  omega

end

/-- The adapter ends as if the snapshot had come first exactly when no more than one buffered update
is newer than it. -/
theorem seedsAlike_iff (token : String) (v : Venue) (answer : Answer v) (n : Nat) :
    SeedsAlike token v answer n ↔ (v.events.take n).countP (newer answer.doc.id) ≤ 1 :=
  ⟨few_of_seedsAlike, seedsAlike_of_few⟩

/-! ## Two updates in the buffer -/

def oneBid (size : ℚ) : Ladders := ⟨(∅ : Side).insert 1 size, ∅⟩

/-- A bid that is changed twice. -/
def twice : Venue where
  book k := oneBid (if k < 105 then 3 else if k < 110 then 5 else 7)
  start := 99
  events := [⟨100, 105, [⟨1, 5⟩], []⟩, ⟨106, 110, [⟨1, 7⟩], []⟩]
  chained := by simp [Chained]
  covers := by
    intro ev member k early late
    have placed (old new : ℚ) (known : new ≠ 0) : (oneBid old).apply ⟨ev.U, ev.u, [⟨1, new⟩], []⟩ =
        oneBid new := by
      simp [Ladders.apply, setLevel, oneBid, known]
    rcases List.mem_pair.mp member with rfl | rfl
    · exact placed _ 5 (by norm_num)
    · exact placed _ 7 (by norm_num)

def snapshot : Answer twice where
  doc := ⟨99, [⟨1, 3⟩], []⟩
  full := by
    simp only [Doc.ladders, seedSide, List.foldl, twice, oneBid]
    norm_num
  positive := by decide
  inside := by decide

/-- The buffer holds both updates when the snapshot takes the lock. -/
theorem seedsAlike_broken : ¬SeedsAlike "BTC" twice snapshot 2 :=
  fun alike => absurd (few_of_seedsAlike alike) (by decide)

end Gate

end Avalant
