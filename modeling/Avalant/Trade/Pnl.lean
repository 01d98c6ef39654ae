import Avalant.Db.Models
import Avalant.Lib.Python
import Mathlib.Data.List.Sort

/-!
`list_user_pnl`: the closed positions of a user's last days, as pairs and singles.

A spot long is put together with a futures short first, then a futures leg with one of the other
side. A pair of which a leg is open again, and a leg whose other side is still open, are left out:
they are closed in part, and belong to the live positions.
-/

namespace Avalant

open Relational

/-! ## Rows -/

/-- A row of `trade_positions`, with the columns that only this listing reads. -/
structure PnlPosition extends TradePosition where
  legAFeesUsd : Option ℚ
  legAMarket : String := "futures"
  source : String := "platform"
  deriving DecidableEq, Repr

instance : Keyed PnlPosition := ⟨fun p => p.id⟩

/-- The columns of `trade_pair_decisions` that are read. -/
structure TradePairDecision where
  userId : Nat
  legAKey : String
  legBKey : String
  decision : String
  deriving DecidableEq, Repr

structure PnlDb where
  positions : Table PnlPosition
  decisions : List TradePairDecision

namespace PnlPosition

def sym (p : PnlPosition) : String :=
  Python.upper p.symbol

def side (p : PnlPosition) : String :=
  Python.lower p.legASide

def exchange (p : PnlPosition) : String :=
  Python.lower p.legAExchange

/-- `leg_a_market or "futures"`. -/
def market (p : PnlPosition) : String :=
  Python.orStr (some p.legAMarket) "futures"

/-- `float(leg_a_entry_price or 0)`. -/
def entry (p : PnlPosition) : ℚ :=
  Python.orZero p.legAEntryPrice

/-- Realized and funding, less fees. -/
def totalPnl (p : PnlPosition) : ℚ :=
  Python.orZero p.legARealizedPnlUsd + Python.orZero p.legAFundingPnlUsd -
    Python.orZero p.legAFeesUsd

end PnlPosition

/-- `s.split("|")`. -/
def splitBar (s : String) : List String :=
  (s.toList.splitOn '|').map String.ofList

/-! ## Decisions -/

section Decisions

variable (db : PnlDb) (userId : Nat)

def PnlDb.decisionsOf : List TradePairDecision :=
  db.decisions.filter fun r => r.userId = userId

/-- The symbol and the two venues of a decision, where its keys have three parts. -/
def TradePairDecision.venues (r : TradePairDecision) : Option (String × String × String) :=
  match splitBar r.legAKey, splitBar r.legBKey with
  | [sym, longEx, _], [_, shortEx, _] =>
      some (Python.upper sym, Python.lower longEx, Python.lower shortEx)
  | _, _ => none

/-- `_pnl_pair_decisions`: the paired, or the others. -/
def PnlDb.pnlPairDecisions (paired : Bool) : List (String × String × String) :=
  ((db.decisionsOf userId).filter fun r => (r.decision == "paired") == paired).filterMap
    TradePairDecision.venues

/-- `_spot_short_paired_keys`. -/
def PnlDb.spotShortPairedKeys : List (String × String) :=
  ((db.decisionsOf userId).filter fun r => r.decision == "paired").filterMap fun r =>
    match splitBar r.legAKey, splitBar r.legBKey with
    | [sym, "spot", _], [_, shortEx, _] => some (Python.upper sym, Python.lower shortEx)
    | _, _ => none

/-- `_spot_short_decisions_keyed`: the paired, or the others. -/
def PnlDb.spotShortDecisionsKeyed (paired : Bool) : List (String × String) :=
  ((db.decisionsOf userId).filter fun r =>
    Python.contains r.legAKey "|spot|" && (r.decision == "paired") == paired).map fun r =>
      (r.legAKey, r.legBKey)

end Decisions

/-! ## The queries -/

/-- What `list_user_pnl` reads. -/
structure PnlQuery where
  closed : List PnlPosition
  openRows : List PnlPosition
  paired : List (String × String × String)
  unpaired : List (String × String × String)
  spotPairedKeys : List (String × String)
  spotPaired : List (String × String)
  spotUnpaired : List (String × String)

/-- Single rows closed since the cutoff, the last closed first, and those that are open. -/
def PnlDb.pnlQuery (db : PnlDb) (userId : Nat) (days : ℤ) (now : Time) : PnlQuery where
  closed :=
    (db.positions.where_ fun p =>
      p.userId = userId ∧ p.kind = .single ∧ p.status = .closed ∧
        p.closedAt.any fun closedAt => now - days * 86400 ≤ closedAt).insertionSort
      fun p p' => p'.closedAt.getD 0 ≤ p.closedAt.getD 0
  openRows :=
    db.positions.where_ fun p => p.userId = userId ∧ p.kind = .single ∧ p.status = .open_
  paired := db.pnlPairDecisions userId true
  unpaired := db.pnlPairDecisions userId false
  spotPairedKeys := db.spotShortPairedKeys userId
  spotPaired := db.spotShortDecisionsKeyed userId true
  spotUnpaired := db.spotShortDecisionsKeyed userId false

namespace PnlQuery

variable (q : PnlQuery)

/-- `_pnl_can_pair`. -/
def canPair (long short : PnlPosition) : Bool :=
  let key := (long.sym, long.exchange, short.exchange)
  if q.unpaired.contains key then false
  else if q.paired.contains key then true
  else if long.entry ≤ 0 ∨ short.entry ≤ 0 then false
  else
    let longN := long.legAQty * long.entry
    let shortN := short.legAQty * short.entry
    let maxN := max longN shortN
    if maxN ≤ 0 then false
    else
      let spreadPct := |(short.entry - long.entry) / long.entry| * 100
      let diffPct := |longN - shortN| / maxN * 100
      decide (|diffPct - spreadPct| ≤ 12) && decide (|long.openedAt - short.openedAt| ≤ 5 * 60)

/-- `_pnl_can_pair_spot_short`. -/
def canPairSpotShort (spotLong futuresShort : PnlPosition) : Bool :=
  let sym := spotLong.sym
  if futuresShort.sym ≠ sym then false
  else
    let legAKey := sym ++ "|spot|" ++ toString (spotLong.legAWalletId.getD 0)
    let legBKey :=
      sym ++ "|" ++ futuresShort.exchange ++ "|" ++ toString (futuresShort.legAWalletId.getD 0)
    if q.spotUnpaired.contains (legAKey, legBKey) then false
    else if q.spotPaired.contains (legAKey, legBKey) then true
    else if spotLong.entry ≤ 0 ∨ futuresShort.entry ≤ 0 then false
    else
      let longN := spotLong.legAQty * spotLong.entry
      let shortN := futuresShort.legAQty * futuresShort.entry
      let maxN := max longN shortN
      if maxN ≤ 0 then false
      else
        decide (|longN - shortN| / maxN * 100 ≤ 12) &&
          match spotLong.closedAt, futuresShort.closedAt with
          | some longAt, some shortAt => decide (|longAt - shortAt| ≤ 5 * 60)
          | _, _ => true

end PnlQuery

/-! ## Output rows -/

structure PnlSingle where
  kind : String
  id : Nat
  symbol : String
  exchange : String
  market : String
  side : String
  qty : ℚ
  entryPrice : Option ℚ
  exitPrice : Option ℚ
  realizedPnlUsd : Option ℚ
  fundingPnlUsd : Option ℚ
  feesUsd : Option ℚ
  totalPnlUsd : ℚ
  openedAt : Time
  closedAt : Option Time
  openedExternally : Bool
  closedExternally : Bool
  source : String
  pairedWithSpot : Bool
  deriving DecidableEq, Repr

/-- A leg of a pair; only those of a spot and a short tell the market. -/
structure PnlLeg where
  exchange : String
  market : Option String
  qty : ℚ
  entryPrice : Option ℚ
  exitPrice : Option ℚ
  realizedPnlUsd : ℚ
  fundingPnlUsd : ℚ
  feesUsd : ℚ
  openedExternally : Bool
  closedExternally : Bool
  deriving DecidableEq, Repr

/-- A pair, with the two numbers its id is made of. -/
structure PnlPair where
  pairKind : String
  id : Nat × Nat
  symbol : String
  long : PnlLeg
  short : PnlLeg
  totalRealizedPnlUsd : ℚ
  totalFundingPnlUsd : ℚ
  totalFeesUsd : ℚ
  totalPnlUsd : ℚ
  entrySpreadPct : Option ℚ
  openedAt : Time
  closedAt : Option Time
  deriving DecidableEq, Repr

inductive PnlRow
  | single (row : PnlSingle)
  | pair (row : PnlPair)
  deriving DecidableEq, Repr

/-- `_serialize_pnl_single`. -/
def serializePnlSingle (r : PnlPosition) (pairedWithSpot : Bool) : PnlRow :=
  .single
    { kind := if pairedWithSpot then "spot_short_paired" else "single"
      id := r.id
      symbol := r.symbol
      exchange := r.legAExchange
      market := r.market
      side := r.legASide
      qty := r.legAQty
      entryPrice := r.legAEntryPrice
      exitPrice := r.legAExitPrice
      realizedPnlUsd := r.legARealizedPnlUsd
      fundingPnlUsd := r.legAFundingPnlUsd
      feesUsd := r.legAFeesUsd
      totalPnlUsd := Python.orZero r.legARealizedPnlUsd + Python.orZero r.legAFundingPnlUsd -
        Python.orZero r.legAFeesUsd
      openedAt := r.openedAt
      closedAt := r.closedAt
      openedExternally := r.openedExternally
      closedExternally := r.closedExternally
      source := Python.orStr (some r.source) "platform"
      pairedWithSpot }

def pnlLeg (r : PnlPosition) (market : Option String) : PnlLeg where
  exchange := r.legAExchange
  market
  qty := r.legAQty
  entryPrice := r.legAEntryPrice
  exitPrice := r.legAExitPrice
  realizedPnlUsd := Python.orZero r.legARealizedPnlUsd
  fundingPnlUsd := Python.orZero r.legAFundingPnlUsd
  feesUsd := Python.orZero r.legAFeesUsd
  openedExternally := r.openedExternally
  closedExternally := r.closedExternally

/-- The later of two times, of which any may be missing. -/
def latest : Option Time → Option Time → Option Time
  | some t, some t' => some (max t t')
  | t, t' => t <|> t'

/-- What the serializers of both kinds of pairs share. -/
def serializePair (pairKind : String) (long short : PnlPosition) (longLeg shortLeg : PnlLeg) :
    PnlRow :=
  .pair
    { pairKind
      id := (long.id, short.id)
      symbol := long.symbol
      long := longLeg
      short := shortLeg
      totalRealizedPnlUsd := longLeg.realizedPnlUsd + shortLeg.realizedPnlUsd
      totalFundingPnlUsd := longLeg.fundingPnlUsd + shortLeg.fundingPnlUsd
      totalFeesUsd := longLeg.feesUsd + shortLeg.feesUsd
      totalPnlUsd := longLeg.realizedPnlUsd + shortLeg.realizedPnlUsd + longLeg.fundingPnlUsd +
        shortLeg.fundingPnlUsd - longLeg.feesUsd - shortLeg.feesUsd
      entrySpreadPct :=
        if 0 < long.entry then some (|(short.entry - long.entry) / long.entry| * 100) else none
      openedAt := max long.openedAt short.openedAt
      closedAt := latest long.closedAt short.closedAt }

/-- `_serialize_pnl_spot_short`. -/
def serializePnlSpotShort (spotLong futuresShort : PnlPosition) : PnlRow :=
  serializePair "spot_short" spotLong futuresShort (pnlLeg spotLong (some "spot"))
    (pnlLeg futuresShort (some "futures"))

/-- `_serialize_pnl_pair`. -/
def serializePnlPair (longPos shortPos : PnlPosition) : PnlRow :=
  serializePair "long_short" longPos shortPos (pnlLeg longPos none) (pnlLeg shortPos none)

/-! ## The two passes -/

/-- `used_ids` and `out`. -/
structure PnlState where
  usedIds : List Nat := []
  out : List PnlRow := []
  deriving DecidableEq, Repr

namespace PnlState

/-- `used_ids.add` for each. -/
def use (st : PnlState) (ids : List Nat) : PnlState :=
  { st with usedIds := ids ++ st.usedIds }

def emit (st : PnlState) (ids : List Nat) (row : PnlRow) : PnlState :=
  { st.use ids with out := st.out ++ [row] }

end PnlState

def oppSide (side : String) : String :=
  if side = "buy" then "sell" else "buy"

/-- `(r, c) if side == "buy" else (c, r)`. -/
def orient (r c : PnlPosition) : PnlPosition × PnlPosition :=
  if r.side = "buy" then (r, c) else (c, r)

namespace PnlQuery

variable (q : PnlQuery)

def spotLongs : List PnlPosition :=
  q.closed.filter fun c => c.market = "spot" ∧ c.side = "buy"

def futShorts : List PnlPosition :=
  q.closed.filter fun c => c.market = "futures" ∧ c.side = "sell"

/-- A spot long, with the first futures short that it can be paired with. -/
def spotStep (st : PnlState) (sl : PnlPosition) : PnlState :=
  if st.usedIds.contains sl.id then st
  else
    match q.futShorts.find? fun fs => !st.usedIds.contains fs.id && q.canPairSpotShort sl fs with
    | some fs => st.emit [sl.id, fs.id] (serializePnlSpotShort sl fs)
    | none => st

/-- The open rows of a symbol and a side. -/
def openBucket (sym side : String) : List PnlPosition :=
  q.openRows.filter fun op => op.sym = sym ∧ op.side = side

/-- The first futures leg of the other side that a leg can be paired with. -/
def findMatch (usedIds : List Nat) (r : PnlPosition) : Option PnlPosition :=
  let candidates := q.closed.filter fun c =>
    (c.sym = r.sym ∧ c.side = oppSide r.side) ∧ ¬usedIds.contains c.id ∧ c.market = "futures"
  candidates.find? fun c => q.canPair (orient r c).1 (orient r c).2

/-- `partner_open or this_open`. -/
def legOpen (r match_ : PnlPosition) : Bool :=
  ((q.openBucket r.sym (oppSide r.side)).any fun op => op.legAExchange = match_.legAExchange) ||
    (q.openBucket r.sym r.side).any fun op => op.legAExchange = r.legAExchange

/-- The other side of a leg is open. -/
def counterpartOpen (r : PnlPosition) : Bool :=
  match q.openBucket r.sym (oppSide r.side) with
  | op :: _ => q.canPair (orient r op).1 (orient r op).2
  | [] => false

/-- A closed row of the first pass. -/
def closedStep (st : PnlState) (r : PnlPosition) : PnlState :=
  if st.usedIds.contains r.id then st
  else if r.market ≠ "futures" then st.emit [r.id] (serializePnlSingle r false)
  else
    match q.findMatch st.usedIds r with
    | some match_ =>
        if q.legOpen r match_ then st.use [r.id, match_.id]
        else
          st.emit [r.id, match_.id] (serializePnlPair (orient r match_).1 (orient r match_).2)
    | none =>
        if q.counterpartOpen r then st.use [r.id]
        else
          let pairedWithSpot := r.side = "sell" ∧ q.spotPairedKeys.contains (r.sym, r.exchange)
          st.emit [r.id] (serializePnlSingle r pairedWithSpot)

def rows : List PnlRow :=
  (q.closed.foldl q.closedStep (q.spotLongs.foldl q.spotStep {})).out

end PnlQuery

/-- `list_user_pnl`. -/
def PnlDb.listUserPnl (db : PnlDb) (userId : Nat) (days : ℤ) (now : Time) : List PnlRow :=
  (db.pnlQuery userId days now).rows

end Avalant
