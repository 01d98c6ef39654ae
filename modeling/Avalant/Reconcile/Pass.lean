import Avalant.Reconcile.Live

/-!
One reconcile pass of a user: `_reconcile_user` and `_reconcile_arb_positions`.

The pass is two transactions over one live snapshot. The first settles the
single-leg rows (refresh, close, insert). The second walks the arbitrage
positions, finalises or shrinks them, cancels the triggers of the finalised
ones, and wraps unpaired single legs into new positions. Each is given as the
writes it leaves behind, computed from the database it loaded.
-/

namespace Avalant

open Relational

def openLinkWindowS : Time := 600
def closeLinkWindowS : Time := 600

/-! ## Single legs -/

/-- `ORDER BY created_at DESC LIMIT 1`. -/
def newestOrder (rows : List TradeOrder) : Option TradeOrder :=
  rows.foldl
    (fun best row =>
      match best with
      | none => some row
      | some b => if b.createdAt < row.createdAt then some row else some b)
    none

/-- `_link_recent_open_order`. -/
def Db.linkRecentOpenOrder (d : Db) (userId walletId : Nat) (symbol side : String)
    (now : Time) : Option Nat :=
  (newestOrder (d.tradeOrders.where_ fun o =>
    o.userId == userId && o.walletId == some walletId && o.symbol == Python.upper symbol &&
      o.side == Python.lower side && o.intent == .open_ && o.status == .filled &&
      o.positionId == none && decide (now - openLinkWindowS ≤ o.createdAt))).map TradeOrder.id

/-- `_link_recent_close_order`. -/
def Db.linkRecentCloseOrder (d : Db) (userId : Nat) (walletId : Option Nat) (symbol : String)
    (now : Time) : Option Nat :=
  (newestOrder (d.tradeOrders.where_ fun o =>
    o.userId == userId && o.walletId == walletId && o.symbol == Python.upper symbol &&
      o.intent == .close && o.status == .filled &&
      decide (now - closeLinkWindowS ≤ o.createdAt))).map TradeOrder.id

def TradePosition.fp (row : TradePosition) : Fingerprint :=
  ⟨row.legAWalletId.getD 0, Python.upper row.symbol, Python.lower row.legASide⟩

/-- Single-leg rows the pass considers open. -/
def Db.openSingles (d : Db) (userId : Nat) : List TradePosition :=
  d.tradePositions.where_ fun row =>
    row.userId == userId && row.status == .open_ && row.kind == .single

/-- Still open: refresh the evolving fields from the live row. -/
def TradePosition.refresh (row : TradePosition) (liveP : LiveRow) : TradePosition :=
  { row with
    legAQty := Python.orZero (Python.or_ liveP.quantity (some row.legAQty))
    legAEntryPrice := liveP.entryPrice.or row.legAEntryPrice
    legAFundingPnlUsd := liveP.fundingPnlUsd.or row.legAFundingPnlUsd }

/-- Disappeared from live: closed, linked to `closeOid` when an order of ours closed it. -/
def TradePosition.disappear (row : TradePosition) (closeOid : Option Nat) (now : Time) :
    TradePosition :=
  let sign : ℚ := if Python.lower row.legASide = "buy" then 1 else -1
  let realized : Option ℚ :=
    if Python.truthy row.legAEntryPrice && Python.truthy (some row.legAQty) &&
        Python.truthy row.legAExitPrice then
      some (sign * (row.legAExitPrice.getD 0 - row.legAEntryPrice.getD 0) * row.legAQty)
    else row.legARealizedPnlUsd
  { row with
    status := .closed
    closedAt := some now
    legACloseOrderId := closeOid.or row.legACloseOrderId
    closedExternally := closeOid.isNone || row.closedExternally
    legARealizedPnlUsd := realized
    realizedPnlUsd := realized }

/-- What step 1 makes of one open single-leg row. -/
def Db.settleSingle (d : Db) (userId : Nat) (live : List LiveRow) (now : Time)
    (row : TradePosition) : TradePosition :=
  match liveByFp live row.fp with
  | some liveP => row.refresh liveP
  | none =>
      row.disappear (d.linkRecentCloseOrder userId row.legAWalletId row.symbol now) now

theorem Db.settleSingle_status (d : Db) (userId : Nat) (live : List LiveRow) (now : Time)
    (row : TradePosition) :
    (d.settleSingle userId live now row).status =
      if liveByFp live row.fp = none then .closed else row.status := by
  unfold settleSingle
  split
  case h_1 seen => rw [seen, if_neg (Option.some_ne_none _)]; rfl
  case h_2 unseen => rw [if_pos unseen]; rfl

/-- Step 2: a live position without a row. -/
def Db.openedSingle (d : Db) (userId : Nat) (live : List LiveRow) (now : Time)
    (fp : Fingerprint) : TradeInsert :=
  let liveP := liveByFp live fp
  let openOid := d.linkRecentOpenOrder userId fp.walletId fp.symbol fp.side now
  { row :=
      { id := 0
        userId
        kind := .single
        status := .open_
        symbol := fp.symbol
        legAWalletId := some fp.walletId
        legAExchange := Python.lower ((liveP.map LiveRow.exchange).getD "")
        legASide := fp.side
        legAQty := Python.orZero (liveP.bind LiveRow.quantity)
        legAEntryPrice := liveP.bind LiveRow.entryPrice
        legAExitPrice := none
        legARealizedPnlUsd := none
        legAFundingPnlUsd := none
        legAOpenOrderId := openOid
        legACloseOrderId := none
        legBRealizedPnlUsd := none
        legBFundingPnlUsd := none
        realizedPnlUsd := none
        openedExternally := openOid.isNone
        closedExternally := false
        openedAt := now
        closedAt := none
        arbPositionId := none }
    backlink := openOid }

/-- The writes of the first transaction. -/
structure TradeWrites where
  sets : List (Nat × TradePositionSet)
  inserts : List TradeInsert
  deriving DecidableEq, Repr

def Db.reconcileTrades (d : Db) (userId : Nat) (live : List LiveRow) (now : Time) :
    TradeWrites :=
  let openRows := d.openSingles userId
  let seenFps := openRows.map TradePosition.fp
  { sets := openRows.map fun row =>
      (row.id, TradePositionSet.diff row (d.settleSingle userId live now row))
    inserts := ((liveKeys live).filter fun fp => !seenFps.contains fp).map
      (d.openedSingle userId live now) }

def TradeWrites.txn (w : TradeWrites) : Txn where
  trades := setClauses w.sets TradePositionSet.apply fun _ _ => rfl
  newTrades := w.inserts

/-! ## Arbitrage positions -/

def ArbPosition.longFp (ap : ArbPosition) : Fingerprint :=
  ⟨ap.longWalletId.getD 0, Python.upper ap.longSymbol, "buy"⟩

def ArbPosition.shortFp (ap : ArbPosition) : Fingerprint :=
  ⟨ap.shortWalletId.getD 0, Python.upper ap.shortSymbol, "sell"⟩

/-- `float((live or {}).get("quantity") or 0)`. -/
def liveQty (liveP : Option LiveRow) : ℚ :=
  Python.orZero (liveP.bind LiveRow.quantity)

/-- `(long_closed, short_closed)`. A partial position whose remaining leg is
gone counts as closed on both sides. -/
def ArbPosition.closedLegs (ap : ArbPosition) (longQtyLive shortQtyLive : ℚ) : Bool × Bool :=
  let longClosed : Bool := decide (longQtyLive = 0) && decide (0 < ap.longQty)
  let shortClosed : Bool := decide (shortQtyLive = 0) && decide (0 < ap.shortQty)
  if ap.status = .partial_ then
    if 0 < ap.longQty ∧ longQtyLive = 0 then (true, true)
    else if 0 < ap.shortQty ∧ shortQtyLive = 0 then (true, true)
    else (longClosed, shortClosed)
  else (longClosed, shortClosed)

/-- `(short - long) / long × 100` where the long price is there and positive. -/
def spreadPct (long short : Option ℚ) (current : Option ℚ) : Option ℚ :=
  match long, short with
  | some l, some s => if 0 < l then some ((s - l) / l * 100) else current
  | _, _ => current

/-- The exit price the wrapped legs of one side recorded; the last one wins. -/
def childExit (side : String) (children : List TradePosition) : Option ℚ :=
  children.foldl
    (fun found ch =>
      if ch.legASide = side ∧ Python.truthy ch.legAExitPrice = true then ch.legAExitPrice
      else found)
    none

/-- Externally closed on both sides: finalise. -/
def ArbPosition.finalise (ap : ArbPosition) (children : List TradePosition) (now : Time) :
    ArbPosition :=
  let longExit := (childExit "buy" children).or ap.longExitPrice
  let shortExit := (childExit "sell" children).or ap.shortExitPrice
  let realizedSum := (children.map fun ch =>
    Python.orZero ch.legARealizedPnlUsd + Python.orZero ch.legBRealizedPnlUsd).sum
  let fundingSum := (children.map fun ch =>
    Python.orZero ch.legAFundingPnlUsd + Python.orZero ch.legBFundingPnlUsd).sum
  { ap with
    status := .closed
    closedExternally := true
    closedAt := some now
    longExitPrice := longExit
    shortExitPrice := shortExit
    exitSpreadPct :=
      if Python.truthy shortExit then spreadPct longExit shortExit ap.exitSpreadPct
      else ap.exitSpreadPct
    realizedPnlUsd := some (realizedSum + fundingSum) }

/-- The loop body of `_reconcile_arb_positions` on one position. -/
def ArbPosition.reconcile (ap : ArbPosition) (live : List LiveRow)
    (children : List TradePosition) (now : Time) : ArbPosition :=
  let liveLong := liveByFp live ap.longFp
  let liveShort := liveByFp live ap.shortFp
  let longQtyLive := liveQty liveLong
  let shortQtyLive := liveQty liveShort
  match ap.closedLegs longQtyLive shortQtyLive with
  | (true, true) => ap.finalise children now
  | (false, false) =>
      -- both legs alive: sync quantities that drifted
      { ap with
        longQty :=
          if liveLong.isSome ∧ (1 / 1000000000 : ℚ) < |longQtyLive - ap.longQty| then longQtyLive
          else ap.longQty
        shortQty :=
          if liveShort.isSome ∧ (1 / 1000000000 : ℚ) < |shortQtyLive - ap.shortQty|
          then shortQtyLive else ap.shortQty }
  | (longClosed, shortClosed) =>
      -- one leg gone, the other still alive
      { ap with
        status := .partial_
        longQty :=
          if longClosed then 0 else if liveLong.isSome then longQtyLive else ap.longQty
        shortQty :=
          if shortClosed then 0 else if liveShort.isSome then shortQtyLive else ap.shortQty }

/-- The position is finalised by this pass, and its triggers cancelled. -/
def ArbPosition.finalised (ap : ArbPosition) (live : List LiveRow) : Bool :=
  ap.closedLegs (liveQty (liveByFp live ap.longFp)) (liveQty (liveByFp live ap.shortFp)) ==
    (true, true)

end Avalant
