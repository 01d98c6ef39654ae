import Avalant.Cache.Store
import Avalant.Lib.Python
import Avalant.Lib.Run
import Avalant.Ws.Feed

/-!
The in/out patcher of the long-short hub.

The patcher indexes the rows of three files by the books of their legs. When a book lands, it
computes the in and out values of the rows under it, and pushes those that have changed to the
hub. Values that the books do not give are the last good ones, for a while: all computations share
them, under the names of the legs.
-/

namespace Avalant

open Replica Transition

namespace InOut

/-- Decoded values with numbers. -/
structure Numbers (V : Type) extends Values V where
  /-- `v.(float64)`. -/
  asNumber : V → Option ℚ
  number : ℚ → V

/-- The kind of a row, its `_mode`. -/
inductive Mode
  | futures
  | spot
  | dex
  deriving DecidableEq

/-- The rows of the three files. -/
structure ArbTables (V : Type) where
  futures : List (Row V) := []
  spot : List (Row V) := []
  dex : List (Row V) := []

/-! ## In and out values -/

structure InOutPct where
  inPct : ℚ
  outPct : ℚ
  deriving DecidableEq

/-- Two venues of the books, and a symbol. -/
structure Legs where
  longEx : String
  shortEx : String
  symbol : String
  deriving DecidableEq

/-- `le+"|"+se+"|"+sym`. -/
def Legs.stickyKey (legs : Legs) : String :=
  joinBar [legs.longEx, legs.shortEx, legs.symbol]

/-- The same key for a price and a short venue: the long leg is called "dex". -/
def dexStickyKey (shortEx symbol : String) : String :=
  (Legs.mk "dex" shortEx symbol).stickyKey

def round4 (x : ℚ) : ℚ := Python.roundHalfUp (x * 10000) / 10000

/-- Best bid and best ask. -/
abbrev Top := ℚ × ℚ

/-- Of the tops of two books. -/
def pairValue (long short : Top) : InOutPct :=
  let ref := (long.2 + short.2) / 2
  ⟨round4 ((short.1 - long.2) / ref * 100), round4 ((long.1 - short.2) / ref * 100)⟩

/-- Of a price and the top of a book. -/
def dexValue (dexPrice : ℚ) (short : Top) : InOutPct :=
  let ref := (dexPrice + short.2) / 2
  ⟨round4 ((short.1 - dexPrice) / ref * 100), round4 ((dexPrice - short.2) / ref * 100)⟩

/-- The best bid and the best ask of a book, if both are good. -/
def bestOf (books : Cache.Store) (pair : Pair) : Option Top :=
  match (books.get pair).map Cache.Entry.depth with
  | some ⟨bid :: _, ask :: _⟩ => if 0 < ask.1 ∧ 0 < bid.1 then some (bid.1, ask.1) else none
  | _ => none

/-- `ComputeInOutPair`, from the books. -/
def quotePair (books : Cache.Store) (legs : Legs) : Option InOutPct :=
  match bestOf books ⟨legs.longEx, legs.symbol⟩, bestOf books ⟨legs.shortEx, legs.symbol⟩ with
  | some long, some short => some (pairValue long short)
  | _, _ => none

/-- `ComputeInOutDex`, from the book. -/
def quoteDex (books : Cache.Store) (shortEx symbol : String) (dexPrice : ℚ) : Option InOutPct :=
  (bestOf books ⟨shortEx, symbol⟩).map (dexValue dexPrice)

/-- The last good values of some legs, `inOutEntry`. -/
structure Sticky where
  value : InOutPct
  time : Nat
  deriving DecidableEq

/-- In nanoseconds. -/
def inOutStickyTTL : Nat := 2000000000

/-! ## The index -/

structure Index (V : Type) where
  affected : Store Pair (List String) := ∅
  pairs : Store String (Row V × Mode) := ∅

/-- `inoutAppendUniq`. -/
def appendUniq (keys : List String) (k : String) : List String :=
  if k ∈ keys then keys else keys ++ [k]

section

variable {V : Type} (values : Numbers V)

def Index.keysOf (index : Index V) (pair : Pair) : List String :=
  (index.affected.lookup pair).getD []

def Index.affect (index : Index V) (pair : Pair) (k : String) : Index V :=
  { index with affected := index.affected.insert pair (appendUniq (index.keysOf pair) k) }

/-- The field of the long leg. -/
def Mode.longField : Mode → String
  | .futures => "long_exchange"
  | .spot => "spot_exchange"
  | .dex => "dex_name"

/-- The key of a row, unless a name is missing. -/
def indexKey (mode : Mode) : Row V → Option String :=
  rowKey values.toValues ["symbol", mode.longField, "short_exchange"]

/-- One row of `loadBothSides`. -/
def loadBothSides (mode : Mode) (index : Index V) (opp : Row V) : Index V :=
  match indexKey values mode opp with
  | none => index
  | some k =>
      let sym := text values.toValues opp "symbol"
      let longEx := text values.toValues opp mode.longField
      let index := { index with pairs := index.pairs.insert k (opp, mode) }
      let index := index.affect ⟨text values.toValues opp "short_exchange", sym⟩ k
      index.affect ⟨if mode = .spot then longEx ++ "_spot" else longEx, sym⟩ k

/-- One row of `loadShortOnly`. -/
def loadShortOnly (mode : Mode) (index : Index V) (opp : Row V) : Index V :=
  match indexKey values mode opp with
  | none => index
  | some k =>
      let sym := text values.toValues opp "symbol"
      let index := { index with pairs := index.pairs.insert k (opp, mode) }
      index.affect ⟨text values.toValues opp "short_exchange", sym⟩ k

def refreshIndex (t : ArbTables V) : Index V :=
  let index := t.futures.foldl (loadBothSides values .futures) {}
  let index := t.spot.foldl (loadBothSides values .spot) index
  t.dex.foldl (loadShortOnly values .dex) index

/-! ## The patcher -/

/-- A row that was pushed, with the values put in it. -/
structure Push (V : Type) where
  row : Row V
  value : Option InOutPct
  time : Nat

structure Patcher (V : Type) where
  books : Cache.Store := .empty
  sticky : Store String Sticky := ∅
  now : Nat := 0
  /-- `hub.Count()`. -/
  viewers : Nat := 0
  index : Index V := {}
  lastVal : Store String (Option InOutPct) := ∅
  pushed : List (Push V) := []
  /-- The books of every moment so far, for the statements. -/
  past : List (Nat × Cache.Store) := [(0, .empty)]

inductive Act
  | book (pair : Pair) (depth : Depth) (source : String)
  | touch (pair : Pair)
  | prune (idle : Nat)
  | evictStale (staleAfter : Nat)
  | pass (elapsed : Nat)
  | connect
  | disconnect
  | refresh
  /-- One of the loops that write the files computes the values of two books. -/
  | compute (legs : Legs)
  | computeDex (shortEx symbol : String) (dexPrice : ℚ)

namespace Patcher

def put (s : Patcher V) (key : String) (value : InOutPct) : Patcher V :=
  { s with sticky := s.sticky.insert key ⟨value, s.now⟩ }

/-- The last good values, while they are. -/
def lastGood (s : Patcher V) (key : String) : Option InOutPct :=
  match s.sticky.lookup key with
  | some e => if inOutStickyTTL < s.now - e.time then none else some e.value
  | none => none

def computeInOut (s : Patcher V) (legs : Legs) : Option InOutPct × Patcher V :=
  match quotePair s.books legs with
  | some value => (some value, s.put legs.stickyKey value)
  | none => (s.lastGood legs.stickyKey, s)

def computeInOutDex (s : Patcher V) (shortEx symbol : String) (dexPrice : ℚ) :
    Option InOutPct × Patcher V :=
  if dexPrice ≤ 0 then (none, s)
  else
    match quoteDex s.books shortEx symbol dexPrice with
    | some value => (some value, s.put (dexStickyKey shortEx symbol) value)
    | none => (s.lastGood (dexStickyKey shortEx symbol), s)

/-- The values of a row, by its mode. -/
def inOut (s : Patcher V) (opp : Row V) (mode : Mode) : Option InOutPct × Patcher V :=
  let str := text values.toValues opp
  match mode with
  | .dex =>
      let dexPrice := ((opp "dex_price").bind values.asNumber).getD 0
      s.computeInOutDex (str "short_exchange") (str "symbol") dexPrice
  | .spot => s.computeInOut ⟨str "spot_exchange" ++ "_spot", str "short_exchange", str "symbol"⟩
  | .futures => s.computeInOut ⟨str "long_exchange", str "short_exchange", str "symbol"⟩

/-- The row that is sent: a copy without its mode and with the new values. -/
def patched (opp : Row V) (value : Option InOutPct) : Row V := fun field =>
  if field = "_mode" then none
  else if field = "in_pct" then (value.map InOutPct.inPct).map values.number
  else if field = "out_pct" then (value.map InOutPct.outPct).map values.number
  else opp field

/-- One row under the book. -/
def patch (s : Patcher V) (k : String) : Patcher V :=
  match s.index.pairs.lookup k with
  | none => s
  | some (opp, mode) =>
      let (value, s) := s.inOut values opp mode
      if (s.lastVal.lookup k).join = value then s
      else
        { s with
          lastVal := s.lastVal.insert k value
          pushed := s.pushed ++ [⟨patched values opp value, value, s.now⟩] }

def onBookUpdate (s : Patcher V) (pair : Pair) : Patcher V :=
  if s.viewers = 0 then s else (s.index.keysOf pair).foldl (patch values) s

/-- The books change. -/
def setBooks (s : Patcher V) (books : Cache.Store) : Patcher V :=
  { s with books, past := s.past ++ [(s.now, books)] }

def step (t : ArbTables V) (s : Patcher V) : Act → Option (Patcher V)
  | .book pair depth source =>
      some ((s.setBooks (s.books.store pair depth source s.now)).onBookUpdate values pair)
  | .touch pair => some (s.setBooks (s.books.touch pair s.now))
  | .prune idle => some (s.setBooks (s.books.prune idle s.now))
  | .evictStale staleAfter => some (s.setBooks (s.books.evictStale staleAfter s.now))
  | .pass elapsed =>
      some { s with now := s.now + elapsed, past := s.past ++ [(s.now + elapsed, s.books)] }
  | .connect => some { s with viewers := s.viewers + 1 }
  | .disconnect => if s.viewers = 0 then none else some { s with viewers := s.viewers - 1 }
  | .refresh => some { s with index := refreshIndex values t }
  | .compute legs => some (s.computeInOut legs).2
  | .computeDex shortEx symbol dexPrice => some (s.computeInOutDex shortEx symbol dexPrice).2

end Patcher

/-! ## Rows of the channel -/

/-- The table that the long-short channel publishes. -/
def published [DecidableEq V] (t : ArbTables V) : Store String (Row V) :=
  (longShort values.toValues).byKey t.futures

/-- The legs of a row of that table. -/
def legsOf (row : Row V) : Legs where
  longEx := text values.toValues row "long_exchange"
  shortEx := text values.toValues row "short_exchange"
  symbol := text values.toValues row "symbol"

/-- The values were given by the books of these legs, not longer ago than values stick. -/
def FromBooks (past : List (Nat × Cache.Store)) (legs : Legs) (value : InOutPct) (now : Nat) : Prop :=
  ∃ moment ∈ past, moment.1 ≤ now ∧ now ≤ moment.1 + inOutStickyTTL ∧
    quotePair moment.2 legs = some value

/-- The in and out fields of a row are these values, and null without them. -/
def Carries (row : Row V) (value : Option InOutPct) : Prop :=
  row "in_pct" = (value.map InOutPct.inPct).map values.number ∧
    row "out_pct" = (value.map InOutPct.outPct).map values.number

/-- Each row that was pushed has the key of a row that the channel publishes, and its in and out
values are from the books of its legs. -/
def OnlyPublished [DecidableEq V] (t : ArbTables V) (s : Patcher V) : Prop :=
  ∀ push ∈ s.pushed, ∃ k row, arbKey values.toValues push.row = some k ∧
    (published values t).lookup k = some row ∧ Carries values push.row push.value ∧
    ∀ value, push.value = some value → FromBooks s.past (legsOf values row) value push.time

/-- In every state of the runs under a condition. -/
def AlwaysOnlyPublished [DecidableEq V] (t : ArbTables V) (ok : Patcher V → Act → Prop) : Prop :=
  ∀ s, Run (Patcher.step values t) ok {} s → OnlyPublished values t s

/-- A row of the published table that has the sticky key of these legs has these legs. -/
def Apart [DecidableEq V] (t : ArbTables V) (legs : Legs) : Prop :=
  ∀ k row, (published values t).lookup k = some row →
    (legsOf values row).stickyKey = legs.stickyKey → legsOf values row = legs

/-- No spot row and no dex row has this key, and the published row of it is apart. -/
def Clear [DecidableEq V] (t : ArbTables V) (k : String) : Prop :=
  (∀ opp ∈ t.spot, indexKey values .spot opp ≠ some k) ∧
    (∀ opp ∈ t.dex, indexKey values .dex opp ≠ some k) ∧
    ∀ row, (published values t).lookup k = some row → Apart values t (legsOf values row)

/-- While there are viewers, a book lands only when the keys under it are clear; and the other
computations keep their values apart. -/
def Covered [DecidableEq V] (t : ArbTables V) (s : Patcher V) : Act → Prop
  | .book pair _ _ => s.viewers ≠ 0 → ∀ k ∈ (refreshIndex values t).keysOf pair, Clear values t k
  | .compute legs => Apart values t legs
  | .computeDex shortEx symbol _ => ∀ k row, (published values t).lookup k = some row →
      (legsOf values row).stickyKey ≠ dexStickyKey shortEx symbol
  | _ => True

end

end InOut

end Avalant
