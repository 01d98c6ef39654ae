import Avalant.Exchange.Session
import Avalant.Lib.Go
import Avalant.Lib.Streamed
import Mathlib.Data.List.Infix

/-!
The adapters that keep a book from full frames and deltas with no numbers: WhiteBIT,
Lighter, Extended and Paradex.

A frame says whether it is full, and has rows of levels; a frame that is not full is
applied to whatever book there is. The adapters differ in how they find the book of a
frame, in the form of the rows, and in what they make of a number that does not
parse.

The session of a venue is that of `Streamed`: the venue sends what has changed of its
books, in its own frames, and an adapter is its client.
-/

namespace Avalant

namespace Exchange

open Gate (BookLevel Ladders setLevel)
open Streamed (Frame)
open Transition

/-- What `strconv.ParseFloat` makes of a price and a size; none is a syntax error. -/
abbrev Row := Option ℚ × Option ℚ

/-- The books of an adapter. -/
structure RowBooks (ι : Type) [DecidableEq ι] where
  books : AList fun _ : ι => Ladders

namespace RowBooks

variable {ι : Type} [DecidableEq ι]

def new : RowBooks ι := ⟨∅⟩

def bookFor (a : RowBooks ι) (key : ι) : Ladders := (a.books.lookup key).getD ⟨∅, ∅⟩

/-- A full frame begins with empty sides. -/
def update (a : RowBooks ι) (key : ι) (full : Bool) (apply : Ladders → Ladders) : RowBooks ι :=
  ⟨a.books.insert key (apply (if full then ⟨∅, ∅⟩ else a.bookFor key))⟩

/-- Only WhiteBIT forgets the books of the markets that it leaves. -/
def drop (a : RowBooks ι) (key : ι) : RowBooks ι := ⟨a.books.erase key⟩

@[simp] theorem bookFor_update_self (a : RowBooks ι) (key : ι) (full : Bool)
    (apply : Ladders → Ladders) :
    (a.update key full apply).bookFor key = apply (if full then ⟨∅, ∅⟩ else a.bookFor key) := by
  simp [bookFor, update]

theorem bookFor_update_of_ne {key key' : ι} (other : key' ≠ key) (a : RowBooks ι) (full : Bool)
    (apply : Ladders → Ladders) : (a.update key full apply).bookFor key' = a.bookFor key' := by
  simp [bookFor, update, AList.lookup_insert_ne other]

@[simp] theorem bookFor_drop_self (a : RowBooks ι) (key : ι) :
    (a.drop key).bookFor key = ⟨∅, ∅⟩ := by
  simp [bookFor, drop]

theorem bookFor_drop_of_ne {key key' : ι} (other : key' ≠ key) (a : RowBooks ι) :
    (a.drop key).bookFor key' = a.bookFor key' := by
  simp [bookFor, drop, AList.lookup_erase_ne other]

/-- A frame of a book, and what is emitted. -/
def emit (a : RowBooks ι) (key : ι) (symbol : String) (full : Bool) (apply : Ladders → Ladders)
    (time : Option ℤ) : RowBooks ι × Parsed :=
  (a.update key full apply,
    .snapshot ⟨symbol, ((a.update key full apply).bookFor key).depth, time⟩)

end RowBooks

/-- `time.UnixMilli` of a time that is there. -/
def eventTime (ms : ℤ) : Option ℤ := if 0 < ms then some ms else none

/-! ## WhiteBIT -/

namespace Whitebit

structure Body where
  bids : List Row
  asks : List Row
  timestamp : Option ℚ

/-- The parameters are none if there are fewer than three; the body is none if it is no object. -/
structure Message where
  method : String
  params : Option (Bool × Option Body × String)

/-- Rows with a number that does not parse are skipped. -/
def applyRow (side : Gate.Side) : Row → Gate.Side
  | (some px, some sz) => if sz = 0 then side.erase px else side.insert px sz
  | _ => side

/-- `Parse`. -/
def parse (a : RowBooks String) (msg : Message) : RowBooks String × Parsed :=
  if msg.method ≠ "depth_update" then (a, .nothing)
  else
    match msg.params with
    | some (isFull, some body, market) =>
        if Go.hasSuffix market "_PERP" then
          a.emit (Go.trimSuffix market "_PERP") (Go.trimSuffix market "_PERP") isFull
            (fun bk => ⟨body.bids.foldl applyRow bk.bids, body.asks.foldl applyRow bk.asks⟩)
            ((body.timestamp.filter fun ts => 0 < ts).map fun ts => (ts * 1000).floor)
        else (a, .nothing)
    | _ => (a, .nothing)

end Whitebit

/-! ## Lighter -/

namespace Lighter

structure Message where
  type_ : String
  channel : String
  timestamp : ℤ
  bids : List Row
  asks : List Row
  bookTimestamp : ℤ

/-- A number that does not parse is 0. -/
def applyRow (side : Gate.Side) (row : Row) : Gate.Side :=
  setLevel side ⟨row.1.getD 0, row.2.getD 0⟩

/-- The market of a channel. -/
def market? (channel : String) : Option ℤ :=
  if Go.hasPrefix channel "order_book/" then Go.atoi (Go.trimPrefix channel "order_book/")
  else if Go.hasPrefix channel "order_book:" then Go.atoi (Go.trimPrefix channel "order_book:")
  else none

/-- `Parse`, where `ids` has the symbols of the markets. -/
def parse (ids : ℤ → String) (a : RowBooks ℤ) (msg : Message) : RowBooks ℤ × Parsed :=
  match market? msg.channel with
  | none => (a, .nothing)
  | some id =>
      if ids id = "" then (a, .nothing)
      else
        a.emit id (ids id) (Go.hasPrefix msg.type_ "subscribed/")
          (fun bk => ⟨msg.bids.foldl applyRow bk.bids, msg.asks.foldl applyRow bk.asks⟩)
          (if 0 < msg.bookTimestamp then some msg.bookTimestamp else eventTime msg.timestamp)

end Lighter

/-! ## Extended -/

namespace Extended

structure Message where
  ts : ℤ
  type_ : String
  dataType : String
  market : String
  bids : List Row
  asks : List Row

/-- `Parse`. -/
def parse (a : RowBooks String) (msg : Message) : RowBooks String × Parsed :=
  let frameType := if msg.dataType = "" then msg.type_ else msg.dataType
  if frameType ≠ "SNAPSHOT" ∧ frameType ≠ "DELTA" then (a, .nothing)
  else if Go.hasSuffix msg.market "-USD" then
    a.emit (Go.trimSuffix msg.market "-USD") (Go.trimSuffix msg.market "-USD")
      (frameType = "SNAPSHOT")
      (fun bk => ⟨msg.bids.foldl Whitebit.applyRow bk.bids,
        msg.asks.foldl Whitebit.applyRow bk.asks⟩)
      (eventTime msg.ts)
  else (a, .nothing)

end Extended

/-! ## Paradex -/

namespace Paradex

structure LevelOp where
  side : String
  price : Option ℚ
  size : Option ℚ

structure Message where
  method : String
  channel : String
  market : String
  lastUpdated : ℤ
  updateType : String
  inserts : List LevelOp
  updates : List LevelOp
  deletes : List LevelOp
  bids : List Row
  asks : List Row

/-- The first levels; nothing is kept of them. -/
def parseBBO (msg : Message) : Parsed :=
  if Go.hasSuffix msg.market "-USD-PERP" then
    match msg.bids, msg.asks with
    | bid :: _, ask :: _ =>
        if bid.1.getD 0 ≤ 0 ∨ ask.1.getD 0 ≤ 0 then .nothing
        else .snapshot ⟨Go.trimSuffix msg.market "-USD-PERP",
          ⟨[(bid.1.getD 0, bid.2.getD 0)], [(ask.1.getD 0, ask.2.getD 0)]⟩,
          eventTime msg.lastUpdated⟩
    | _, _ => .nothing
  else .nothing

/-- One level of a side. A size that does not parse, or is not positive, takes it out. -/
def setOp (removing : Bool) (px : ℚ) (size : Option ℚ) (side : Gate.Side) : Gate.Side :=
  if removing then side.erase px
  else
    match size with
    | some sz => if sz ≤ 0 then side.erase px else side.insert px sz
    | none => side.erase px

/-- `apply`. -/
def applyOp (removing : Bool) (bk : Ladders) (op : LevelOp) : Ladders :=
  match op.price with
  | none => bk
  | some px =>
      if op.side = "BUY" then { bk with bids := setOp removing px op.size bk.bids }
      else if op.side = "SELL" then { bk with asks := setOp removing px op.size bk.asks }
      else bk

def parseDeltas (a : RowBooks String) (msg : Message) : RowBooks String × Parsed :=
  if Go.hasSuffix msg.market "-USD-PERP" then
    a.emit (Go.trimSuffix msg.market "-USD-PERP") (Go.trimSuffix msg.market "-USD-PERP")
      (msg.updateType = "s")
      (fun bk => msg.deletes.foldl (applyOp true)
        (msg.updates.foldl (applyOp false) (msg.inserts.foldl (applyOp false) bk)))
      (eventTime msg.lastUpdated)
  else (a, .nothing)

/-- `Parse`. -/
def parse (a : RowBooks String) (msg : Message) : RowBooks String × Parsed :=
  if msg.method ≠ "subscription" then (a, .nothing)
  else if Go.hasPrefix msg.channel "bbo." then (a, parseBBO msg)
  else if Go.contains msg.channel "order_book." && Go.hasSuffix msg.channel ".deltas" then
    parseDeltas a msg
  else (a, .nothing)

end Paradex

/-! ## A venue and its adapter -/

/-- What a venue sends, and how its adapter takes it: each frame of a market changes the book of the
market, and is emitted. -/
structure RowVenue (κ ι C μ : Type) [DecidableEq ι] where
  /-- The key of a market's book. -/
  key : κ → ι
  injective : Function.Injective key
  symbol : κ → String
  apply : Ladders → C → Ladders
  message : κ → Frame C → μ
  parse : RowBooks ι → μ → RowBooks ι × Parsed
  parse_message : ∀ a k f, ∃ time, parse a (message k f) =
    a.emit (key k) (symbol k) f.full (fun bk => apply bk f.change) time

namespace RowVenue

variable {κ ι C μ : Type} [DecidableEq κ] [DecidableEq ι]

/-- The books of a venue. -/
def domain (v : RowVenue κ ι C μ) : Streamed.Domain Ladders C := ⟨⟨∅, ∅⟩, v.apply⟩

omit [DecidableEq κ] in
theorem parse_fst (v : RowVenue κ ι C μ) (a : RowBooks ι) (k : κ) (f : Frame C) :
    (v.parse a (v.message k f)).1 = a.update (v.key k) f.full fun bk => v.apply bk f.change := by
  obtain ⟨time, emitted⟩ := v.parse_message a k f
  rw [emitted]
  rfl

/-- The adapter, as the client of the venue. -/
def client (v : RowVenue κ ι C μ) : Streamed.Client v.domain (RowBooks ι) κ where
  fresh := .new
  look a k := a.bookFor (v.key k)
  take a k f := (v.parse a (v.message k f)).1
  drop a k := a.drop (v.key k)
  look_fresh _ := rfl
  look_take a k f := by
    rw [parse_fst, RowBooks.bookFor_update_self]
    rfl
  look_take_of_ne a f k k' other := by
    rw [parse_fst, RowBooks.bookFor_update_of_ne fun same => other (v.injective same)]
  look_drop a k := a.bookFor_drop_self _
  look_drop_of_ne a k k' other := a.bookFor_drop_of_ne fun same => other (v.injective same)

/-- In every session, once a market's full frame is there, each frame emits the book that the venue
had when it sent the frame; and with no frame under way the adapter has the venue's book. -/
def Reconstructs (v : RowVenue κ ι C μ) : Prop :=
  ∀ (source : κ → Ladders) (s : Streamed.State (RowBooks ι) κ Ladders C),
    Run (Streamed.State.step v.client) (Streamed.State.Opens v.domain)
        { source, client := .new } s →
      (∀ x rest, s.wire = x :: rest → (x.frame.full = true ∨ s.synced x.key = true) →
        ∃ time, (v.parse s.client (v.message x.key x.frame)).2 =
          .snapshot ⟨v.symbol x.key, x.after.depth, time⟩) ∧
      ∀ k, s.opened k = true → s.synced k = true → s.wireOf k = [] →
        s.client.bookFor (v.key k) = s.source k

theorem reconstructs (v : RowVenue κ ι C μ) : v.Reconstructs := by
  intro source s run
  refine ⟨fun x rest wire inStep => ?_, fun k opened synced quiet =>
    Streamed.State.look_of_quiet run opened synced quiet⟩
  have book := Streamed.State.look_take_head run wire inStep
  obtain ⟨time, emitted⟩ := v.parse_message s.client x.key x.frame
  refine ⟨time, ?_⟩
  rw [emitted]
  have kept : ((v.parse s.client (v.message x.key x.frame)).1).bookFor (v.key x.key) = x.after :=
    book
  rw [emitted] at kept
  rw [← kept]
  rfl

end RowVenue

/-! ## The four venues -/

/-- The new sizes of some levels, 0 where a level is gone. -/
structure RowChange where
  bids : List BookLevel
  asks : List BookLevel
  time : ℤ

def RowChange.over (book : Ladders) (c : RowChange) : Ladders :=
  ⟨c.bids.foldl setLevel book.bids, c.asks.foldl setLevel book.asks⟩

/-- A level as the venues write it. -/
def row (level : BookLevel) : Row := (some level.p, some level.s)

theorem foldl_row {f : Gate.Side → Row → Gate.Side}
    (agrees : ∀ side level, f side (row level) = setLevel side level) (levels : List BookLevel)
    (side : Gate.Side) : (levels.map row).foldl f side = levels.foldl setLevel side := by
  rw [List.foldl_map]
  exact List.foldl_ext _ _ _ fun side level _ => agrees side level

def Whitebit.message (token : String) (f : Frame RowChange) : Whitebit.Message where
  method := "depth_update"
  params := some (f.full, some ⟨f.change.bids.map row, f.change.asks.map row,
    some (f.change.time / 1000)⟩, token ++ "_PERP")

def whitebit : RowVenue String String RowChange Whitebit.Message where
  key := id
  injective := Function.injective_id
  symbol := id
  apply := RowChange.over
  message := Whitebit.message
  parse := Whitebit.parse
  parse_message a token f := by
    have rows := foldl_row (f := Whitebit.applyRow) fun _ _ => rfl
    refine ⟨((some (f.change.time / 1000 : ℚ)).filter fun ts => 0 < ts).map fun ts =>
      (ts * 1000).floor, ?_⟩
    unfold Whitebit.parse Whitebit.message
    dsimp only
    rw [if_neg fun other => other rfl, Go.hasSuffix_append, if_pos rfl, Go.trimSuffix_append]
    simp only [rows]
    rfl

/-- A market of Lighter with a symbol. -/
abbrev Lighter.Market (ids : ℤ → String) := { n : ℕ // n < 2 ^ 63 ∧ ids n ≠ "" }

def Lighter.message {ids : ℤ → String} (market : Lighter.Market ids) (f : Frame RowChange) :
    Lighter.Message where
  type_ := (if f.full then "subscribed/" else "update/") ++ "order_book"
  channel := "order_book:" ++ toString market.1
  timestamp := f.change.time
  bids := f.change.bids.map row
  asks := f.change.asks.map row
  bookTimestamp := 0

theorem Lighter.market?_channel {n : ℕ} (small : n < 2 ^ 63) :
    Lighter.market? ("order_book:" ++ toString n) = some (n : ℤ) := by
  have other : Go.hasPrefix ("order_book:" ++ toString n) "order_book/" = false := by
    unfold Go.hasPrefix
    rw [String.toList_append]
    rfl
  unfold Lighter.market?
  rw [other, if_neg Bool.false_ne_true, Go.hasPrefix_append, if_pos rfl, Go.trimPrefix_append,
    Go.atoi_toString small]

def lighter (ids : ℤ → String) :
    RowVenue (Lighter.Market ids) ℤ RowChange Lighter.Message where
  key market := market.1
  injective market market' same := Subtype.ext (Int.ofNat.inj same)
  symbol market := ids market.1
  apply := RowChange.over
  message := Lighter.message
  parse := Lighter.parse ids
  parse_message a market f := by
    have rows := foldl_row (f := Lighter.applyRow) fun _ _ => rfl
    have full : Go.hasPrefix (Lighter.message market f).type_ "subscribed/" = f.full := by
      unfold Lighter.message
      cases f.full with
      | true => exact Go.hasPrefix_append ..
      | false =>
          change Go.hasPrefix ("update/" ++ "order_book") "subscribed/" = false
          decide +kernel
    refine ⟨eventTime f.change.time, ?_⟩
    unfold Lighter.parse
    rw [full, show (Lighter.message market f).channel = "order_book:" ++ toString market.1 from rfl,
      Lighter.market?_channel market.2.1]
    dsimp only
    rw [if_neg market.2.2]
    unfold Lighter.message
    simp only [rows]
    rfl

def Extended.message (token : String) (f : Frame RowChange) : Extended.Message where
  ts := f.change.time
  type_ := if f.full then "SNAPSHOT" else "DELTA"
  dataType := if f.full then "SNAPSHOT" else "DELTA"
  market := token ++ "-USD"
  bids := f.change.bids.map row
  asks := f.change.asks.map row

def extended : RowVenue String String RowChange Extended.Message where
  key := id
  injective := Function.injective_id
  symbol := id
  apply := RowChange.over
  message := Extended.message
  parse := Extended.parse
  parse_message a token f := by
    have rows := foldl_row (f := Whitebit.applyRow) fun _ _ => rfl
    refine ⟨eventTime f.change.time, ?_⟩
    unfold Extended.parse Extended.message
    dsimp only
    rw [Go.hasSuffix_append, Go.trimSuffix_append]
    simp only [rows]
    cases f.full with
    | true => rfl
    | false => rfl

/-- What a frame of Paradex says: a side is `true` for the bids. -/
structure OpChange where
  inserts : List (Bool × BookLevel)
  updates : List (Bool × BookLevel)
  deletes : List (Bool × ℚ)
  time : ℤ

def onSide (bid : Bool) (f : Gate.Side → Gate.Side) (book : Ladders) : Ladders :=
  if bid then { book with bids := f book.bids } else { book with asks := f book.asks }

/-- The levels that are new or have changed, then those that are gone. -/
def OpChange.over (book : Ladders) (c : OpChange) : Ladders :=
  c.deletes.foldl (fun book gone => onSide gone.1 (fun side => side.erase gone.2) book)
    ((c.inserts ++ c.updates).foldl
      (fun book set => onSide set.1 (fun side => Paradex.setOp false set.2.p (some set.2.s) side) book)
      book)

def Paradex.op (bid : Bool) (price : ℚ) (size : Option ℚ) : Paradex.LevelOp :=
  ⟨if bid then "BUY" else "SELL", some price, size⟩

def Paradex.message (token : String) (f : Frame OpChange) : Paradex.Message where
  method := "subscription"
  channel := "order_book." ++ (token ++ "-USD-PERP") ++ ".deltas"
  market := token ++ "-USD-PERP"
  lastUpdated := f.change.time
  updateType := if f.full then "s" else "d"
  inserts := f.change.inserts.map fun set => Paradex.op set.1 set.2.p (some set.2.s)
  updates := f.change.updates.map fun set => Paradex.op set.1 set.2.p (some set.2.s)
  deletes := f.change.deletes.map fun gone => Paradex.op gone.1 gone.2 none
  bids := []
  asks := []

theorem Paradex.applyOp_op (removing bid : Bool) (price : ℚ) (size : Option ℚ) (book : Ladders) :
    Paradex.applyOp removing book (Paradex.op bid price size) =
      onSide bid (Paradex.setOp removing price size) book := by
  cases bid with
  | true => rfl
  | false => rfl

theorem Paradex.parse_deltas (a : RowBooks String) (token : String) (f : Frame OpChange) :
    Paradex.parse a (Paradex.message token f) =
      Paradex.parseDeltas a (Paradex.message token f) := by
  have channel : (Paradex.message token f).channel.toList =
      "order_book.".toList ++ ((token ++ "-USD-PERP").toList ++ ".deltas".toList) := by
    unfold Paradex.message
    rw [String.toList_append, String.toList_append, List.append_assoc]
  have bbo : Go.hasPrefix (Paradex.message token f).channel "bbo." = false := by
    unfold Go.hasPrefix
    rw [channel]
    rfl
  have deltas : Go.hasSuffix (Paradex.message token f).channel ".deltas" = true :=
    Go.hasSuffix_append ..
  have books : Go.contains (Paradex.message token f).channel "order_book." = true := by
    unfold Go.contains
    rw [channel, List.any_eq_true]
    exact ⟨_, (List.mem_tails _ _).mpr List.suffix_rfl,
      List.isPrefixOf_iff_prefix.mpr (List.prefix_append ..)⟩
  unfold Paradex.parse
  rw [bbo, deltas, books]
  rfl

def paradex : RowVenue String String OpChange Paradex.Message where
  key := id
  injective := Function.injective_id
  symbol := id
  apply := OpChange.over
  message := Paradex.message
  parse := Paradex.parse
  parse_message a token f := by
    have full : (Paradex.message token f).updateType = "s" ↔ f.full = true := by
      unfold Paradex.message
      cases f.full with
      | true => exact ⟨fun _ => rfl, fun _ => rfl⟩
      | false => exact iff_of_false (show "d" ≠ "s" by decide) Bool.false_ne_true
    refine ⟨eventTime f.change.time, ?_⟩
    rw [Paradex.parse_deltas]
    unfold Paradex.parseDeltas
    rw [show (Paradex.message token f).market = token ++ "-USD-PERP" from rfl, Go.hasSuffix_append,
      if_pos rfl, Go.trimSuffix_append]
    simp only [full, Bool.decide_eq_true]
    unfold Paradex.message OpChange.over
    simp only [List.foldl_map, Paradex.applyOp_op, List.foldl_append]
    rfl

/-- The books of WhiteBIT, Lighter, Extended and Paradex. -/
theorem books_reconstructed (ids : ℤ → String) : whitebit.Reconstructs ∧
    (lighter ids).Reconstructs ∧ extended.Reconstructs ∧ paradex.Reconstructs :=
  ⟨whitebit.reconstructs, (lighter ids).reconstructs, extended.reconstructs, paradex.reconstructs⟩

/-- A market that is opened with one bid, which then grows while another comes. -/
theorem books_reconstructed_bids : ∃ s : Streamed.State (RowBooks String) String Ladders RowChange,
    s.synced "BTC" = true ∧ s.wireOf "BTC" = [] ∧ s.client.bookFor "BTC" = s.source "BTC" ∧
      (s.client.bookFor "BTC").bids.lookup 100 = some 3 := by
  have executed : (execGuarded (Streamed.State.step whitebit.client)
      (Streamed.State.Opens whitebit.domain)
      { source := fun _ => ⟨Finmap.singleton 100 1, ∅⟩, client := .new }
      [.open_ "BTC" ⟨[⟨100, 1⟩], [], 0⟩, .change "BTC" ⟨[⟨100, 3⟩, ⟨99, 2⟩], [], 1⟩,
        .deliver, .deliver]).map (fun s =>
      (s.opened "BTC", s.synced "BTC", (s.wireOf "BTC").isEmpty,
        (s.source "BTC").bids.lookup 100)) = some (true, true, true, some 3) := by
    decide +kernel
  obtain ⟨s, executed, view⟩ := Option.map_eq_some_iff.mp executed
  obtain ⟨opened, rest⟩ := Prod.ext_iff.mp view
  obtain ⟨synced, rest⟩ := Prod.ext_iff.mp rest
  obtain ⟨quiet, size⟩ := Prod.ext_iff.mp rest
  have nothing := List.isEmpty_iff.mp quiet
  have kept := ((books_reconstructed fun _ => "").1 _ s (Run.of_execGuarded executed)).2 "BTC"
    opened synced nothing
  exact ⟨s, synced, nothing, kept, (congrArg (fun book => book.bids.lookup 100) kept).trans size⟩

end Exchange

end Avalant
