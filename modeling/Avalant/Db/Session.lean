import Avalant.Db.Models

/-!
The database and what one transaction does to it.

A session loads rows, computes on them, and at `commit` emits its bulk `UPDATE`
statements and, per loaded row, a SET clause that holds the changed columns
only. Statements and SET clauses are evaluated against the rows as they are at
the commit, not as they were when loaded: everything the interleaving proofs
need about a writer is in the `Txn` it leaves behind.

A new row draws its id from the table's sequence. The id is drawn when the
INSERT is flushed and nothing outside the transaction reads it before the
commit, so drawing it at the commit is the same.
-/

namespace Avalant

open Relational

/-! ## SET clauses -/

/-- The columns of `arb_positions` that some code path updates. -/
structure PositionSet where
  longEntryPrice : Option (Option ℚ) := none
  shortEntryPrice : Option (Option ℚ) := none
  longQty : Option ℚ := none
  shortQty : Option ℚ := none
  entrySpreadPct : Option (Option ℚ) := none
  openedAt : Option (Option Time) := none
  exitSpreadPct : Option (Option ℚ) := none
  longExitPrice : Option (Option ℚ) := none
  shortExitPrice : Option (Option ℚ) := none
  realizedPnlUsd : Option (Option ℚ) := none
  closedAt : Option (Option Time) := none
  status : Option PositionStatus := none
  closedExternally : Option Bool := none
  deriving DecidableEq, Repr

/-- The SET clause a flush emits for a position loaded as `loaded` whose
attributes are now those of `new`. -/
def PositionSet.diff (loaded new : ArbPosition) : PositionSet where
  longEntryPrice := Python.dirty loaded.longEntryPrice new.longEntryPrice
  shortEntryPrice := Python.dirty loaded.shortEntryPrice new.shortEntryPrice
  longQty := Python.dirty loaded.longQty new.longQty
  shortQty := Python.dirty loaded.shortQty new.shortQty
  entrySpreadPct := Python.dirty loaded.entrySpreadPct new.entrySpreadPct
  openedAt := Python.dirty loaded.openedAt new.openedAt
  exitSpreadPct := Python.dirty loaded.exitSpreadPct new.exitSpreadPct
  longExitPrice := Python.dirty loaded.longExitPrice new.longExitPrice
  shortExitPrice := Python.dirty loaded.shortExitPrice new.shortExitPrice
  realizedPnlUsd := Python.dirty loaded.realizedPnlUsd new.realizedPnlUsd
  closedAt := Python.dirty loaded.closedAt new.closedAt
  status := Python.dirty loaded.status new.status
  closedExternally := Python.dirty loaded.closedExternally new.closedExternally

def PositionSet.apply (set : PositionSet) (row : ArbPosition) : ArbPosition :=
  { row with
    longEntryPrice := set.longEntryPrice.getD row.longEntryPrice
    shortEntryPrice := set.shortEntryPrice.getD row.shortEntryPrice
    longQty := set.longQty.getD row.longQty
    shortQty := set.shortQty.getD row.shortQty
    entrySpreadPct := set.entrySpreadPct.getD row.entrySpreadPct
    openedAt := set.openedAt.getD row.openedAt
    exitSpreadPct := set.exitSpreadPct.getD row.exitSpreadPct
    longExitPrice := set.longExitPrice.getD row.longExitPrice
    shortExitPrice := set.shortExitPrice.getD row.shortExitPrice
    realizedPnlUsd := set.realizedPnlUsd.getD row.realizedPnlUsd
    closedAt := set.closedAt.getD row.closedAt
    status := set.status.getD row.status
    closedExternally := set.closedExternally.getD row.closedExternally }

@[simp] theorem PositionSet.apply_id (set : PositionSet) (row : ArbPosition) :
    (set.apply row).id = row.id := rfl

@[simp] theorem PositionSet.apply_status (set : PositionSet) (row : ArbPosition) :
    (set.apply row).status = set.status.getD row.status := rfl

/-- Written back to the row it was loaded from, a flush gives the new status. -/
theorem PositionSet.apply_diff_status (loaded new : ArbPosition) :
    ((PositionSet.diff loaded new).apply loaded).status = new.status :=
  Python.dirty_getD_loaded _ _

/-- The columns of a trigger row that its worker writes. -/
structure OrderSet where
  portionsFilled : Option Nat := none
  status : Option TriggerStatus := none
  errorKind : Option ErrorKind := none
  errorMessage : Option String := none
  deriving DecidableEq, Repr

def OrderSet.apply (set : OrderSet) (row : ArbTriggerOrder) : ArbTriggerOrder :=
  { row with
    portionsFilled := set.portionsFilled.getD row.portionsFilled
    status := set.status.getD row.status
    errorKind := set.errorKind.or row.errorKind
    errorMessage := set.errorMessage.or row.errorMessage }

/-- The columns of a trigger row that `PATCH` writes; `status` is not one. -/
structure PatchSet where
  triggerSpreadPct : Option (Option ℚ) := none
  totalQtyToken : Option (Option ℚ) := none
  portionSizeToken : Option (Option ℚ) := none
  infiniteFill : Option Bool := none
  activateAt : Option (Option Time) := none
  leverage : Option (Option Nat) := none
  marginMode : Option String := none
  portionsTarget : Option (Option Nat) := none
  deriving DecidableEq, Repr

def PatchSet.diff (loaded new : ArbTriggerOrder) : PatchSet where
  triggerSpreadPct := Python.dirty loaded.triggerSpreadPct new.triggerSpreadPct
  totalQtyToken := Python.dirty loaded.totalQtyToken new.totalQtyToken
  portionSizeToken := Python.dirty loaded.portionSizeToken new.portionSizeToken
  infiniteFill := Python.dirty loaded.infiniteFill new.infiniteFill
  activateAt := Python.dirty loaded.activateAt new.activateAt
  leverage := Python.dirty loaded.leverage new.leverage
  marginMode := Python.dirty loaded.marginMode new.marginMode
  portionsTarget := Python.dirty loaded.portionsTarget new.portionsTarget

def PatchSet.apply (set : PatchSet) (row : ArbTriggerOrder) : ArbTriggerOrder :=
  { row with
    triggerSpreadPct := set.triggerSpreadPct.getD row.triggerSpreadPct
    totalQtyToken := set.totalQtyToken.getD row.totalQtyToken
    portionSizeToken := set.portionSizeToken.getD row.portionSizeToken
    infiniteFill := set.infiniteFill.getD row.infiniteFill
    activateAt := set.activateAt.getD row.activateAt
    leverage := set.leverage.getD row.leverage
    marginMode := set.marginMode.getD row.marginMode
    portionsTarget := set.portionsTarget.getD row.portionsTarget }

/-- The columns of a single-leg position that reconciliation writes. -/
structure TradePositionSet where
  status : Option TradePositionStatus := none
  legAQty : Option ℚ := none
  legAEntryPrice : Option (Option ℚ) := none
  legARealizedPnlUsd : Option (Option ℚ) := none
  legAFundingPnlUsd : Option (Option ℚ) := none
  legACloseOrderId : Option (Option Nat) := none
  realizedPnlUsd : Option (Option ℚ) := none
  closedExternally : Option Bool := none
  closedAt : Option (Option Time) := none
  deriving DecidableEq, Repr

def TradePositionSet.diff (loaded new : TradePosition) : TradePositionSet where
  status := Python.dirty loaded.status new.status
  legAQty := Python.dirty loaded.legAQty new.legAQty
  legAEntryPrice := Python.dirty loaded.legAEntryPrice new.legAEntryPrice
  legARealizedPnlUsd := Python.dirty loaded.legARealizedPnlUsd new.legARealizedPnlUsd
  legAFundingPnlUsd := Python.dirty loaded.legAFundingPnlUsd new.legAFundingPnlUsd
  legACloseOrderId := Python.dirty loaded.legACloseOrderId new.legACloseOrderId
  realizedPnlUsd := Python.dirty loaded.realizedPnlUsd new.realizedPnlUsd
  closedExternally := Python.dirty loaded.closedExternally new.closedExternally
  closedAt := Python.dirty loaded.closedAt new.closedAt

def TradePositionSet.apply (set : TradePositionSet) (row : TradePosition) : TradePosition :=
  { row with
    status := set.status.getD row.status
    legAQty := set.legAQty.getD row.legAQty
    legAEntryPrice := set.legAEntryPrice.getD row.legAEntryPrice
    legARealizedPnlUsd := set.legARealizedPnlUsd.getD row.legARealizedPnlUsd
    legAFundingPnlUsd := set.legAFundingPnlUsd.getD row.legAFundingPnlUsd
    legACloseOrderId := set.legACloseOrderId.getD row.legACloseOrderId
    realizedPnlUsd := set.realizedPnlUsd.getD row.realizedPnlUsd
    closedExternally := set.closedExternally.getD row.closedExternally
    closedAt := set.closedAt.getD row.closedAt }

theorem TradePositionSet.apply_diff_status (loaded new : TradePosition) :
    ((TradePositionSet.diff loaded new).apply loaded).status = new.status :=
  Python.dirty_getD_loaded _ _

end Avalant
