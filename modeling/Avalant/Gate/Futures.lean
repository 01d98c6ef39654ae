import Avalant.Cache.Store
import Mathlib.Data.Finmap
import Mathlib.Data.Finset.Sort
import Mathlib.Algebra.Order.Ring.Rat

/-!
The orderbook adapter of Gate futures.

A book is seeded by a snapshot with an id and kept by numbered updates. Updates
that arrive before the snapshot wait in a buffer. Prices are what
`strconv.ParseFloat` gives, sizes are numbers.
-/

namespace Avalant

namespace Gate

structure BookLevel where
  p : ℚ
  s : ℚ
  deriving DecidableEq

/-- One side of a book: the size at each price. -/
abbrev Side := Finmap fun _ : ℚ => ℚ

structure Ladders where
  bids : Side
  asks : Side
  deriving DecidableEq

/-- One `order_book_update`: the updates from `U` to `u`, with the sizes after them. -/
structure Event where
  U : Nat
  u : Nat
  bids : List BookLevel
  asks : List BookLevel
  deriving DecidableEq

/-- The snapshot of the REST interface. -/
structure Doc where
  id : Nat
  bids : List BookLevel
  asks : List BookLevel

structure Book where
  ladders : Ladders
  baseID : Nat
  lastU : Nat
  seeded : Bool
  buffer : List Event
  deriving DecidableEq

def Book.new : Book := ⟨⟨∅, ∅⟩, 0, 0, false, []⟩

/-! ## Levels -/

def setLevel (side : Side) (level : BookLevel) : Side :=
  if level.s = 0 then side.erase level.p else side.insert level.p level.s

/-- `applyDelta`. -/
def Ladders.apply (book : Ladders) (ev : Event) : Ladders :=
  ⟨ev.bids.foldl setLevel book.bids, ev.asks.foldl setLevel book.asks⟩

/-- A side of a snapshot. -/
def seedSide (levels : List BookLevel) : Side :=
  levels.foldl (fun side level => if 0 < level.s then side.insert level.p level.s else side) ∅

def Doc.ladders (doc : Doc) : Ladders :=
  ⟨seedSide doc.bids, seedSide doc.asks⟩

/-! ## The buffer -/

/-- The first update after a snapshot has the next id. -/
def straddles (ev : Event) (baseID : Nat) : Bool :=
  decide (ev.U ≤ baseID + 1 ∧ baseID + 1 ≤ ev.u)

def Book.applyDelta (bk : Book) (ev : Event) : Book :=
  { bk with ladders := bk.ladders.apply ev, lastU := ev.u }

/-- The first loop of `drainBuffer`, and whether it has come to its end. -/
def Book.bootstrap (bk : Book) : List Event → Book × Bool
  | [] => (bk, true)
  | ev :: evs =>
      if ev.u ≤ bk.baseID then bk.bootstrap evs
      else if straddles ev bk.baseID then { bk.applyDelta ev with seeded := true }.bootstrap evs
      else ({ bk with buffer := [], baseID := 0 }, false)

/-- The second loop. -/
def Book.replay (bk : Book) : List Event → Book × Bool
  | [] => (bk, true)
  | ev :: evs =>
      if ev.u ≤ bk.lastU then bk.replay evs
      else if ev.U = bk.lastU + 1 then (bk.applyDelta ev).replay evs
      else ({ bk with ladders := ⟨∅, ∅⟩, baseID := 0, seeded := false, buffer := [] }, false)

def Book.drainBuffer (bk : Book) : Book :=
  match if bk.seeded then (bk, true) else bk.bootstrap bk.buffer with
  | (bk, false) => bk
  | (bk, true) =>
      match if bk.seeded then bk.replay bk.buffer else (bk, true) with
      | (bk, false) => bk
      | (bk, true) => { bk with buffer := [] }

/-- `seedREST`, once it has an answer. -/
def Book.seedREST (bk : Book) (doc : Doc) : Book :=
  if doc.id = 0 then bk else { bk with ladders := doc.ladders, baseID := doc.id }.drainBuffer

/-! ## Updates -/

inductive Verdict
  | quiet
  /-- The book is emitted. -/
  | applied
  /-- A new seed is started. -/
  | reseed
  deriving DecidableEq

/-- `parseDepthUpdate` on the book of its contract. -/
def Book.parseDepthUpdate (bk : Book) (ev : Event) : Book × Verdict :=
  if bk.baseID = 0 then ({ bk with buffer := bk.buffer ++ [ev] }, .quiet)
  else if bk.seeded then
    if ev.U = bk.lastU + 1 then (bk.applyDelta ev, .applied)
    else ({ bk with ladders := ⟨∅, ∅⟩, baseID := 0, seeded := false, lastU := 0 }, .reseed)
  else if ev.u ≤ bk.baseID then (bk, .quiet)
  else if straddles ev bk.baseID then ({ bk.applyDelta ev with seeded := true }, .applied)
  else ({ bk with baseID := 0 }, .quiet)

/-! ## The adapter -/

structure BboLevel where
  bidPx : ℚ
  bidSz : ℚ
  askPx : ℚ
  askSz : ℚ

structure Futures where
  books : AList fun _ : String => Book
  bbo : AList fun _ : String => BboLevel

namespace Futures

def new : Futures := ⟨∅, ∅⟩

/-- `bookFor`. -/
def bookFor (a : Futures) (token : String) : Book :=
  (a.books.lookup token).getD Book.new

def setBook (a : Futures) (token : String) (bk : Book) : Futures :=
  { a with books := a.books.insert token bk }

end Futures

/-- `ws.SortedLevels`: the levels with a size, in the order of their prices, up to a number. -/
def sortedLevels (side : Side) (r : ℚ → ℚ → Prop) [DecidableRel r] [IsTrans ℚ r] [Std.Antisymm r]
    [Std.Total r] (cap : Nat) : List Level :=
  (((side.keys.sort r).map fun price => (price, (side.lookup price).getD 0)).filter fun level =>
    0 < level.2).take cap

/-- Of the snapshots, both sides of the book. -/
def Ladders.depth (book : Ladders) : Depth :=
  ⟨sortedLevels book.bids (· ≥ ·) 200, sortedLevels book.asks (· ≤ ·) 200⟩

def spliceBBOBid (bids : List Level) (price size : ℚ) : List Level :=
  if price ≤ 0 then bids
  else
    match bids with
    | [] => [(price, size)]
    | best :: rest =>
        if best.1 < price then (price, size) :: best :: rest
        else if price = best.1 then (best.1, size) :: rest
        else best :: rest

def spliceBBOAsk (asks : List Level) (price size : ℚ) : List Level :=
  if price ≤ 0 then asks
  else
    match asks with
    | [] => [(price, size)]
    | best :: rest =>
        if price < best.1 then (price, size) :: best :: rest
        else if price = best.1 then (best.1, size) :: rest
        else best :: rest

/-- `mergedSnapshotLocked`: the book, with the best prices over it. -/
def Futures.mergedSnapshot (a : Futures) (token : String) : Depth :=
  let depth : Depth :=
    match a.books.lookup token with
    | some bk => if bk.seeded then bk.ladders.depth else ⟨[], []⟩
    | none => ⟨[], []⟩
  match a.bbo.lookup token with
  | none => depth
  | some b =>
      if b.bidPx ≤ 0 ∨ b.askPx ≤ 0 ∨ b.askPx ≤ b.bidPx then depth
      else
        ⟨spliceBBOBid (depth.bids.filter fun level => level.1 < b.askPx) b.bidPx b.bidSz,
          spliceBBOAsk (depth.asks.filter fun level => b.bidPx < level.1) b.askPx b.askSz⟩

/-- `parseDepthUpdate`: what is emitted, and whether a seed is started. -/
def Futures.parseDepthUpdate (a : Futures) (token : String) (ev : Event) :
    Futures × Option Depth × Bool :=
  let (bk, verdict) := (a.bookFor token).parseDepthUpdate ev
  let a := a.setBook token bk
  match verdict with
  | .quiet => (a, none, false)
  | .applied => (a, some (a.mergedSnapshot token), false)
  | .reseed => (a, none, true)

/-- `seedREST`, once it has an answer. -/
def Futures.seedREST (a : Futures) (token : String) (doc : Doc) : Futures :=
  if doc.id = 0 then a else a.setBook token ((a.bookFor token).seedREST doc)

/-- `OnReconnect`. -/
def Futures.onReconnect (_ : Futures) : Futures := new

end Gate

end Avalant
