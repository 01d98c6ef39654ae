import Avalant.Gate.Futures
import Avalant.Lib.Python

/-!
The orderbook adapter of Backpack futures.

The stream has differences only. A REST snapshot is merged into the book, whatever the
differences have made of it meanwhile, and nothing orders the two. Prices and sizes are what
`strconv.ParseFloat` gives.
-/

namespace Avalant

namespace Backpack

open Gate (BookLevel Ladders setLevel)

/-! ## The adapter -/

/-- A depth frame of the stream. -/
structure Message where
  stream : String
  symbol : String
  bids : List (List ℚ)
  asks : List (List ℚ)
  /-- The time of the event in microseconds. -/
  E : ℤ

/-- The answer of the REST interface. -/
structure Doc where
  bids : List (List ℚ)
  asks : List (List ℚ)

structure Book where
  ladders : Ladders
  seeded : Bool

def Book.new : Book := ⟨⟨∅, ∅⟩, false⟩

structure Snapshot where
  symbol : String
  depth : Depth
  eventTime : Option ℤ

structure Futures where
  books : AList fun _ : String => Book

/-- Rows with less than two columns are skipped. -/
def level? : List ℚ → Option BookLevel
  | px :: sz :: _ => some ⟨px, sz⟩
  | _ => none

def levels (rows : List (List ℚ)) : List BookLevel :=
  rows.filterMap level?

/-- A row of a snapshot: a size of zero takes no level out. -/
def seedLevel (side : Gate.Side) (level : BookLevel) : Gate.Side :=
  if 0 < level.s then side.insert level.p level.s else side

namespace Futures

def new : Futures := ⟨∅⟩

def bookFor (a : Futures) (token : String) : Book :=
  (a.books.lookup token).getD Book.new

def setBook (a : Futures) (token : String) (bk : Book) : Futures :=
  ⟨a.books.insert token bk⟩

/-- `seedRest`, once it has an answer. -/
def seedRest (a : Futures) (symbol : String) (doc : Doc) : Futures :=
  let ladders := (a.bookFor symbol).ladders
  a.setBook symbol ⟨⟨(levels doc.bids).foldl seedLevel ladders.bids,
    (levels doc.asks).foldl seedLevel ladders.asks⟩, true⟩

/-- `Parse`: a snapshot is emitted whether the book is seeded or not. -/
def parse (a : Futures) (msg : Message) : Futures × Option Snapshot :=
  if !"depth.".toList.isPrefixOf msg.stream.toList then (a, none)
  else if !Python.endsWith msg.symbol "_USDC_PERP" then (a, none)
  else
    let token := Python.dropLast 10 msg.symbol
    let bk := a.bookFor token
    let ladders : Ladders := ⟨(levels msg.bids).foldl setLevel bk.ladders.bids,
      (levels msg.asks).foldl setLevel bk.ladders.asks⟩
    (a.setBook token { bk with ladders },
      some ⟨token, ladders.depth, if 0 < msg.E then some msg.E else none⟩)

/-- `OnReconnect`. -/
def onReconnect (_ : Futures) : Futures := new

@[simp] theorem bookFor_setBook (a : Futures) (token : String) (bk : Book) :
    (a.setBook token bk).bookFor token = bk := by
  simp [bookFor, setBook]

end Futures

/-! ## The stream of a venue -/

/-- What one frame says of a contract. -/
structure Delta where
  bids : List (List ℚ)
  asks : List (List ℚ)
  E : ℤ

inductive BookSide
  | bids
  | asks

def Delta.on (d : Delta) : BookSide → List BookLevel
  | .bids => levels d.bids
  | .asks => levels d.asks

def ladder (ladders : Ladders) : BookSide → Gate.Side
  | .bids => ladders.bids
  | .asks => ladders.asks

/-- The levels of a side that some deltas set, one after the other. -/
def touched (side : BookSide) (deltas : List Delta) : List BookLevel :=
  deltas.flatMap (·.on side)

/-- A book after some deltas. -/
def after (book : Ladders) (deltas : List Delta) : Ladders :=
  ⟨(touched .bids deltas).foldl setLevel book.bids,
    (touched .asks deltas).foldl setLevel book.asks⟩

/-- A contract: its book when the stream begins, and the deltas. -/
structure Venue where
  symbol : String
  perp : Python.endsWith symbol "_USDC_PERP" = true
  book : Ladders
  deltas : List Delta

namespace Venue

def token (v : Venue) : String :=
  Python.dropLast 10 v.symbol

/-- The book after a number of deltas. -/
def bookAt (v : Venue) (n : Nat) : Ladders :=
  after v.book (v.deltas.take n)

/-- The book at the last delta. -/
def last (v : Venue) : Ladders :=
  after v.book v.deltas

def message (v : Venue) (d : Delta) : Message :=
  ⟨"depth." ++ v.symbol, v.symbol, d.bids, d.asks, d.E⟩

end Venue

/-- A snapshot of the whole book at some point of the stream. -/
structure Answer (v : Venue) where
  doc : Doc
  taken : Nat
  full : (⟨(levels doc.bids).foldl seedLevel ∅, (levels doc.asks).foldl seedLevel ∅⟩ : Ladders) =
    v.bookAt taken

/-! ## Safe seeding -/

/-- Deltas one after the other. -/
def Futures.feed (a : Futures) (v : Venue) (deltas : List Delta) : Futures :=
  deltas.foldl (fun a d => (a.parse (v.message d)).1) a

/-- The seed takes the lock after `n` deltas. -/
def Futures.seededAfter (v : Venue) (doc : Doc) (n : Nat) : Futures :=
  ((new.feed v (v.deltas.take n)).seedRest v.token doc).feed v (v.deltas.drop n)

/-- The adapter ends with the book of the venue. -/
def SeedsSafely (v : Venue) (answer : Answer v) (n : Nat) : Prop :=
  ((Futures.seededAfter v answer.doc n).bookFor v.token).ladders = v.last

/-- Deltas set the level of a price. -/
def Touches (side : BookSide) (price : ℚ) (deltas : List Delta) : Prop :=
  price ∈ (touched side deltas).map BookLevel.p

instance (side : BookSide) (price : ℚ) (deltas : List Delta) :
    Decidable (Touches side price deltas) :=
  inferInstanceAs (Decidable (price ∈ (touched side deltas).map BookLevel.p))

/-- A level of the snapshot that newer deltas have set before the seed has its size again by
then, or is set once more later. -/
def Superseded (v : Venue) (answer : Answer v) (n : Nat) : Prop :=
  ∀ side price size, (ladder (v.bookAt answer.taken) side).lookup price = some size →
    Touches side price ((v.deltas.take n).drop answer.taken) →
    Touches side price (v.deltas.drop n) ∨ (ladder (v.bookAt n) side).lookup price = some size

/-! ## Levels and prices -/

section

variable {side : Gate.Side} {price : ℚ} {set : List BookLevel}

theorem lookup_setLevel_of_ne {level : BookLevel} (other : price ≠ level.p) :
    (setLevel side level).lookup price = side.lookup price := by
  unfold setLevel
  split
  · exact Finmap.lookup_erase_ne other
  · exact Finmap.lookup_insert_of_ne side other

theorem lookup_setLevel_self (side' : Gate.Side) (level : BookLevel) :
    (setLevel side level).lookup level.p = (setLevel side' level).lookup level.p := by
  unfold setLevel
  split
  · rw [Finmap.lookup_erase, Finmap.lookup_erase]
  · rw [Finmap.lookup_insert, Finmap.lookup_insert]

/-- A price that is not set keeps its level. -/
theorem lookup_of_untouched (untouched : price ∉ set.map BookLevel.p) :
    (set.foldl setLevel side).lookup price = side.lookup price := by
  induction set generalizing side with
  | nil => rfl
  | cons level set ih =>
      rw [List.map_cons, List.mem_cons, not_or] at untouched
      rw [List.foldl_cons, ih untouched.2, lookup_setLevel_of_ne untouched.1]

/-- A price that is set forgets the level that it had. -/
theorem lookup_of_touched (side' : Gate.Side) (touched : price ∈ set.map BookLevel.p) :
    (set.foldl setLevel side).lookup price = (set.foldl setLevel side').lookup price := by
  induction set generalizing side side' with
  | nil => cases touched
  | cons level set ih =>
      rw [List.foldl_cons, List.foldl_cons]
      by_cases again : price ∈ set.map BookLevel.p
      · exact ih _ again
      · obtain rfl : price = level.p := by
          rw [List.map_cons, List.mem_cons] at touched
          exact touched.resolve_right again
        rw [lookup_of_untouched again, lookup_of_untouched again]
        exact lookup_setLevel_self side' level

/-- A seed writes over what is there, and takes nothing out. -/
theorem lookup_seed (side : Gate.Side) (set : List BookLevel) (price : ℚ) :
    (set.foldl seedLevel side).lookup price =
      ((set.foldl seedLevel ∅).lookup price).or (side.lookup price) := by
  induction set using List.reverseRecOn with
  | nil => rfl
  | append_singleton set level ih =>
      rw [List.foldl_append, List.foldl_append]
      dsimp only [List.foldl_cons, List.foldl_nil, seedLevel]
      split
      · by_cases same : price = level.p
        · rw [same, Finmap.lookup_insert, Finmap.lookup_insert]
          rfl
        · rw [Finmap.lookup_insert_of_ne _ same, Finmap.lookup_insert_of_ne _ same, ih]
      · exact ih

end

/-! ## The book of one contract -/

variable {v : Venue} {answer : Answer v} {n : Nat} {side : BookSide} {price : ℚ}
  {deltas : List Delta}

theorem touched_append (deltas' : List Delta) :
    touched side (deltas ++ deltas') = touched side deltas ++ touched side deltas' :=
  List.flatMap_append

theorem ladder_after (book : Ladders) (deltas : List Delta) :
    ladder (after book deltas) side = (touched side deltas).foldl setLevel (ladder book side) := by
  cases side with
  | bids => rfl
  | asks => rfl

theorem after_append (book : Ladders) (deltas deltas' : List Delta) :
    after book (deltas ++ deltas') = after (after book deltas) deltas' := by
  unfold after
  simp only [touched_append, List.foldl_append]

theorem ladders_ext {book book' : Ladders} (same : ∀ side price,
    (ladder book side).lookup price = (ladder book' side).lookup price) : book = book' := by
  obtain ⟨bids, asks⟩ := book
  obtain ⟨bids', asks'⟩ := book'
  obtain rfl : bids = bids' := Finmap.ext_lookup (same .bids)
  obtain rfl : asks = asks' := Finmap.ext_lookup (same .asks)
  rfl

/-- A frame of the contract sets its levels. -/
theorem ladders_parse (a : Futures) (v : Venue) (d : Delta) :
    ((a.parse (v.message d)).1.bookFor v.token).ladders =
      after (a.bookFor v.token).ladders [d] := by
  have stream : "depth.".toList.isPrefixOf (v.message d).stream.toList = true := by
    rw [List.isPrefixOf_iff_prefix]
    change "depth.".toList <+: ("depth." ++ v.symbol).toList
    rw [String.toList_append]
    exact List.prefix_append _ _
  have perp : Python.endsWith (v.message d).symbol "_USDC_PERP" = true := v.perp
  have token : Python.dropLast 10 (v.message d).symbol = v.token := rfl
  unfold Futures.parse
  rw [stream, perp]
  simp only [Bool.not_true, Bool.false_eq_true, if_false, token, Futures.bookFor_setBook]
  simp only [after, touched, List.flatMap_cons, List.flatMap_nil, List.append_nil]
  rfl

theorem ladders_feed (a : Futures) (v : Venue) (deltas : List Delta) :
    ((a.feed v deltas).bookFor v.token).ladders = after (a.bookFor v.token).ladders deltas := by
  induction deltas generalizing a with
  | nil => rfl
  | cons d deltas ih =>
      have rest := ih (a.parse (v.message d)).1
      rw [ladders_parse, ← after_append] at rest
      exact rest

theorem lookup_after_of_untouched {book : Ladders} (untouched : ¬Touches side price deltas) :
    (ladder (after book deltas) side).lookup price = (ladder book side).lookup price := by
  rw [ladder_after]
  exact lookup_of_untouched untouched

theorem lookup_after_of_touched {book : Ladders} (book' : Ladders)
    (touches : Touches side price deltas) :
    (ladder (after book deltas) side).lookup price =
      (ladder (after book' deltas) side).lookup price := by
  rw [ladder_after, ladder_after]
  exact lookup_of_touched _ touches

theorem touches_append {deltas' : List Delta} : Touches side price (deltas ++ deltas') ↔
    Touches side price deltas ∨ Touches side price deltas' := by
  unfold Touches
  rw [touched_append, List.map_append, List.mem_append]

theorem bookAt_after (v : Venue) (n : Nat) : v.last = after (v.bookAt n) (v.deltas.drop n) := by
  rw [Venue.bookAt, ← after_append, List.take_append_drop]
  rfl

/-- A later book, by the deltas between the two. -/
theorem bookAt_of_le (v : Venue) {n n' : Nat} (later : n ≤ n') :
    v.bookAt n' = after (v.bookAt n) ((v.deltas.take n').drop n) := by
  have split := List.take_append_drop n (v.deltas.take n')
  rw [List.take_take, Nat.min_eq_left later] at split
  rw [Venue.bookAt, Venue.bookAt, ← after_append, split]

/-! ## The merge -/

/-- The book that a seed after `n` deltas leaves. -/
def merged (v : Venue) (doc : Doc) (n : Nat) : Ladders :=
  let ladders := after ⟨∅, ∅⟩ (v.deltas.take n)
  ⟨(levels doc.bids).foldl seedLevel ladders.bids, (levels doc.asks).foldl seedLevel ladders.asks⟩

theorem ladders_seededAfter (v : Venue) (doc : Doc) (n : Nat) :
    ((Futures.seededAfter v doc n).bookFor v.token).ladders =
      after (merged v doc n) (v.deltas.drop n) := by
  have fresh : (Futures.new.bookFor v.token).ladders = ⟨∅, ∅⟩ := rfl
  unfold Futures.seededAfter
  rw [ladders_feed, Futures.seedRest, Futures.bookFor_setBook, ladders_feed, fresh]
  rfl

/-- What the snapshot has, else what the deltas have set. -/
theorem lookup_merged (answer : Answer v) (n : Nat) (side : BookSide) (price : ℚ) :
    (ladder (merged v answer.doc n) side).lookup price =
      ((ladder (v.bookAt answer.taken) side).lookup price).or
        ((ladder (after ⟨∅, ∅⟩ (v.deltas.take n)) side).lookup price) := by
  rw [← answer.full]
  cases side with
  | bids => exact lookup_seed _ _ price
  | asks => exact lookup_seed _ _ price

/-- A price that no delta sets between the snapshot and the seed, in whichever order they come,
and none after both, is in the venue's book as in the snapshot. -/
theorem lookup_bookAt (quiet : ¬Touches side price ((v.deltas.take n).drop answer.taken))
    (later : ¬Touches side price (v.deltas.drop n)) :
    (ladder (v.bookAt n) side).lookup price =
      (ladder (v.bookAt answer.taken) side).lookup price := by
  rcases Nat.le_total answer.taken n with newer | older
  · rw [bookAt_of_le v newer]
    exact lookup_after_of_untouched quiet
  · rw [bookAt_of_le v older]
    refine (lookup_after_of_untouched fun touches => later ?_).symm
    have rest : v.deltas.drop n = (v.deltas.take answer.taken).drop n ++ v.deltas.drop answer.taken := by
      conv_lhs => rw [← List.take_append_drop answer.taken v.deltas]
      rw [List.drop_append]
      have beyond : n - (v.deltas.take answer.taken).length = 0 ∨ v.deltas.drop answer.taken = [] := by
        rw [List.length_take, List.drop_eq_nil_iff]
        omega
      rcases beyond with zero | nothing
      · rw [zero, List.drop_zero]
      · rw [nothing, List.drop_nil]
    rw [rest, touches_append]
    exact .inl touches

/-- A price that is not set after the seed is as in the venue's book, if a level of the snapshot
that newer deltas have set has its size again. -/
theorem lookup_merged_of_superseded (superseded : Superseded v answer n)
    (later : ¬Touches side price (v.deltas.drop n)) :
    (ladder (merged v answer.doc n) side).lookup price = (ladder (v.bookAt n) side).lookup price := by
  rw [lookup_merged]
  cases had : (ladder (v.bookAt answer.taken) side).lookup price with
  | some size =>
      by_cases touches : Touches side price ((v.deltas.take n).drop answer.taken)
      · exact ((superseded side price size had touches).resolve_left later).symm
      · rw [lookup_bookAt touches later, had]
        rfl
  | none =>
      rw [Option.none_or]
      by_cases touches : Touches side price (v.deltas.take n)
      · exact lookup_after_of_touched v.book touches
      · have quiet : ¬Touches side price ((v.deltas.take n).drop answer.taken) := by
          intro touches'
          refine touches ?_
          rw [← List.take_append_drop answer.taken (v.deltas.take n), touches_append]
          exact .inr touches'
        rw [lookup_bookAt quiet later, had, lookup_after_of_untouched touches]
        cases side with
        | bids => rfl
        | asks => rfl

/-- A seed is safe if and only if every level of the snapshot that newer deltas have changed by
then is changed back, or set once more. -/
theorem seedsSafely_iff (v : Venue) (answer : Answer v) (n : Nat) :
    SeedsSafely v answer n ↔ Superseded v answer n := by
  unfold SeedsSafely
  rw [ladders_seededAfter, bookAt_after v n]
  constructor
  · intro safe side price size had touches
    by_cases later : Touches side price (v.deltas.drop n)
    · exact .inl later
    · have same := congrArg (fun book => (ladder book side).lookup price) safe
      rw [lookup_after_of_untouched later, lookup_after_of_untouched later, lookup_merged, had] at same
      exact .inr same.symm
  · intro superseded
    refine ladders_ext fun side price => ?_
    by_cases later : Touches side price (v.deltas.drop n)
    · exact lookup_after_of_touched _ later
    · rw [lookup_after_of_untouched later, lookup_after_of_untouched later]
      exact lookup_merged_of_superseded superseded later

/-! ## A level that comes back -/

/-- One bid, which the first delta takes out. -/
def cleared : Venue where
  symbol := "BTC_USDC_PERP"
  perp := by decide +kernel
  book := ⟨Finmap.singleton 100 1, ∅⟩
  deltas := [⟨[[100, 0]], [], 1⟩]

/-- The snapshot is from before the delta, and arrives after it. -/
def stale : Answer cleared where
  doc := ⟨[[100, 1]], []⟩
  taken := 0
  full := by decide +kernel

theorem seedsSafely_broken : ¬SeedsSafely cleared stale 1 := by
  rw [SeedsSafely, ladders_seededAfter]
  decide +kernel

end Backpack

end Avalant
