import Avalant.Reconcile.Pass
import Avalant.Trigger.Spread
import Avalant.Trade.Result

/-!
One firing of a trigger: `_execute_open_portion` and `_execute_close`.

Both load rows, send the two legs' orders, await them, and write the outcome.
Every commit in between expires the loaded rows, so what the outcome is
computed from is loaded again after the legs returned: each function below
takes the database as it is at that moment and returns the writes left for the
commit.
-/

namespace Avalant

open Relational

/-! ## Accumulating a fill -/

/-- `vwap_merge`. -/
def vwapMerge (prevPrice : Option ℚ) (prevQty newPrice newQty : ℚ) : ℚ :=
  match prevPrice with
  | none => newPrice
  | some prev =>
      if prevQty ≤ 0 then newPrice
      else
        let total := prevQty + newQty
        if total ≤ 0 then newPrice else (prev * prevQty + newPrice * newQty) / total

/-- A leg's fill as the portion reports it. -/
structure Fill where
  price : ℚ
  qty : ℚ
  deriving DecidableEq, Repr

/-- The row `accumulate_position` creates on the first fill. -/
def ArbTriggerOrder.newPosition (trigger : ArbTriggerOrder) (now : Time) : ArbPosition where
  id := 0
  userId := trigger.userId
  longExchange := trigger.longExchange.getD ""
  longSymbol := trigger.longSymbol.getD ""
  longWalletId := trigger.longWalletId
  shortExchange := trigger.shortExchange.getD ""
  shortSymbol := trigger.shortSymbol.getD ""
  shortWalletId := trigger.shortWalletId
  targetQtyToken := trigger.totalQtyToken
  leverage := trigger.leverage
  marginMode := trigger.marginMode
  entrySpreadPct := none
  longEntryPrice := none
  shortEntryPrice := none
  longQty := 0
  shortQty := 0
  openedAt := some now
  exitSpreadPct := none
  longExitPrice := none
  shortExitPrice := none
  realizedPnlUsd := none
  closedAt := none
  status := .open_
  closedExternally := false

/-- The body of `accumulate_position` on a loaded or new row. -/
def ArbPosition.accumulate (pos : ArbPosition) (long short : Fill) (now : Time) : ArbPosition :=
  let longEntry := vwapMerge pos.longEntryPrice pos.longQty long.price long.qty
  let shortEntry := vwapMerge pos.shortEntryPrice pos.shortQty short.price short.qty
  { pos with
    longEntryPrice := some longEntry
    shortEntryPrice := some shortEntry
    longQty := pos.longQty + long.qty
    shortQty := pos.shortQty + short.qty
    entrySpreadPct := spreadPct (some longEntry) (some shortEntry) pos.entrySpreadPct
    openedAt := pos.openedAt.or (some now)
    status := .open_ }

/-! ## Writes of a worker -/

/-- The bulk statements a worker runs besides the SET clauses of its own rows. -/
inductive WorkerStmt
  /-- `SET status='pending' WHERE parent_trigger_id=:self AND status='scheduled'` -/
  | promoteChildren
  /-- `SET status='cancelled' WHERE arb_position_id=:pid AND status IN
  ('pending','scheduled') AND id != :self` -/
  | cancelSiblings (pid : Nat)
  /-- `SET status='cancelled' WHERE arb_position_id=:pid AND kind='open' AND
  status='pending'` -/
  | cancelOpens (pid : Nat)
  deriving DecidableEq, Repr

def WorkerStmt.run (self : Nat) (row : ArbTriggerOrder) : WorkerStmt → ArbTriggerOrder
  | .promoteChildren =>
      if row.parentTriggerId = some self ∧ row.status = .scheduled then
        { row with status := .pending }
      else row
  | .cancelSiblings pid =>
      if row.arbPositionId = some pid ∧ row.status.editable = true ∧ row.id ≠ self then
        { row with status := .cancelled }
      else row
  | .cancelOpens pid =>
      if row.arbPositionId = some pid ∧ row.kind = .open_ ∧ row.status = .pending then
        { row with status := .cancelled }
      else row

/-- What a worker leaves for its commit. -/
structure WorkerWrite where
  order : OrderSet := {}
  stmts : List WorkerStmt := []
  position : Option (Nat × PositionSet) := none
  newPosition : Option ArbPosition := none
  deriving DecidableEq, Repr

theorem WorkerStmt.run_id (self : Nat) (row : ArbTriggerOrder) (stmt : WorkerStmt) :
    (stmt.run self row).id = row.id := by
  cases stmt <;> simp only [run] <;> split <;> rfl

/-- The statements in order. -/
def runStmts (self : Nat) (stmts : List WorkerStmt) (row : ArbTriggerOrder) : ArbTriggerOrder :=
  stmts.foldl (WorkerStmt.run self) row

theorem runStmts_id (self : Nat) (stmts : List WorkerStmt) (row : ArbTriggerOrder) :
    (runStmts self stmts row).id = row.id := by
  induction stmts generalizing row with
  | nil => rfl
  | cons stmt stmts ih => exact (ih _).trans (stmt.run_id self row)

/-- The statements, then the SET clause of the worker's own row. -/
def WorkerWrite.runOrder (w : WorkerWrite) (self : Nat) (row : ArbTriggerOrder) :
    ArbTriggerOrder :=
  let row' := runStmts self w.stmts row
  if row.id = self then w.order.apply row' else row'

theorem WorkerWrite.runOrder_id (w : WorkerWrite) (self : Nat) (row : ArbTriggerOrder) :
    (w.runOrder self row).id = row.id := by
  unfold runOrder
  split
  · exact runStmts_id self w.stmts row
  · exact runStmts_id self w.stmts row

def WorkerWrite.txn (w : WorkerWrite) (self : Nat) : Txn where
  orders := ⟨w.runOrder self, w.runOrder_id self⟩
  positions := setClauses w.position.toList PositionSet.apply PositionSet.apply_id
  newPositions := w.newPosition.toList.map fun row => { row, linkTrigger := some self }

/-! ## Outcomes -/

/-- `order.status = "failed"` with its kind and message. -/
def failedWrite (kind : ErrorKind) (message : String) : WorkerWrite where
  order := { status := some .failed, errorKind := some kind, errorMessage := some message }

/-- `accumulate_position`, with the status its caller leaves on the row: the writes on the
loaded position, or the new position. -/
def Db.accumulatePosition (d : Db) (trigger : ArbTriggerOrder) (long short : Fill)
    (status : PositionStatus) (now : Time) (w : WorkerWrite) : WorkerWrite :=
  match trigger.arbPositionId.bind d.arbPositions.get? with
  | some pos =>
      { w with
        position := some (pos.id,
          PositionSet.diff pos { pos.accumulate long short now with status }) }
  | none =>
      { w with
        newPosition := some { (trigger.newPosition now).accumulate long short now with status } }

/-- `avg_fill_price or price or 0` and `filled_qty or qty` of a returned leg. -/
def OrderResult.portionFill (res : OrderResult) (qty : ℚ) : Fill where
  price := Python.orZero (Python.or_ res.avgFillPrice (Python.or_ res.price (some 0)))
  qty := Python.orZero (Python.or_ res.filledQty (some qty))

/-- `avg_fill_price or 0`: what the one-leg branch reads. -/
def OrderResult.lonelyFill (res : OrderResult) (qty : ℚ) : Fill where
  price := Python.orZero (Python.or_ res.avgFillPrice (some 0))
  qty := Python.orZero (Python.or_ res.filledQty (some qty))

def legErrors (longTag shortTag : String) (long short : LegResult) : String :=
  let errMsgs := (if long.isOk then [] else [longTag ++ shortErr long]) ++
    (if short.isOk then [] else [shortTag ++ shortErr short])
  Python.take 400 ("; ".intercalate errMsgs)

/-- The status after a filled portion. -/
def ArbTriggerOrder.nextStatus (order : ArbTriggerOrder) : TriggerStatus :=
  if order.infiniteFill then .pending
  else if Python.orZero (Python.or_ (order.portionsTarget.map Nat.cast) (some 1)) ≤
      (order.portionsFilled + 1 : ℕ) then .fired
  else .pending

/-- The part of `_execute_open_portion` after the legs returned. -/
def Db.finishOpen (d : Db) (order : ArbTriggerOrder) (qty : ℚ) (long short : LegResult)
    (now : Time) : WorkerWrite :=
  match long, short with
  | .ok longRes, .ok shortRes =>
      d.accumulatePosition order (longRes.portionFill qty) (shortRes.portionFill qty) .open_ now
        { order :=
            { portionsFilled := some (order.portionsFilled + 1)
              status := Python.dirty order.status order.nextStatus }
          stmts := if order.nextStatus = .fired then [.promoteChildren] else [] }
  | .ok longRes, .error _ =>
      d.accumulatePosition order (longRes.lonelyFill qty) ⟨0, 0⟩ .partial_ now
        (failedWrite .partial_ (legErrors "long: " "short: " long short))
  | .error _, .ok shortRes =>
      d.accumulatePosition order ⟨0, 0⟩ (shortRes.lonelyFill qty) .partial_ now
        (failedWrite .partial_ (legErrors "long: " "short: " long short))
  | .error _, .error _ =>
      failedWrite .exchange (legErrors "long: " "short: " long short)

/-- The part of `_execute_close` after the legs returned. The position is not read again:
status, close time and exit prices are written as they are. -/
def finishClose (pid : Nat) (long short : LegResult) (now : Time) : WorkerWrite :=
  match long, short with
  | .ok longRes, .ok shortRes =>
      let longExit := Python.orZero (Python.or_ longRes.avgFillPrice (some 0))
      let shortExit := Python.orZero (Python.or_ shortRes.avgFillPrice (some 0))
      { order := { status := some .fired }
        stmts := [.cancelSiblings pid, .cancelOpens pid]
        position := some (pid,
          { status := some .closed
            closedAt := some (some now)
            longExitPrice := some (some longExit)
            shortExitPrice := some (some shortExit)
            exitSpreadPct :=
              if 0 < longExit ∧ shortExit ≠ 0 then
                some (some ((shortExit - longExit) / longExit * 100))
              else none }) }
  | .error _, .error _ =>
      { failedWrite .exchange (legErrors "long-close: " "short-close: " long short) with
        position := some (pid, { status := some .open_ }) }
  | _, _ =>
      { failedWrite .partial_ (legErrors "long-close: " "short-close: " long short) with
        position := some (pid, { status := some .partial_ }) }

/-! ## Before the legs -/

/-- What a claimed trigger does before its first venue call. -/
inductive Started
  | refused (w : WorkerWrite)
  | openLegs (qty : ℚ)
  | closing (pid : Nat) (set : PositionSet)
  deriving DecidableEq, Repr

/-- `db.query(Wallet).filter(Wallet.id == wid).first() if wid else None` is not `None`. -/
def Db.hasWallet (d : Db) (wid : Option Nat) : Bool :=
  match wid with
  | none | some 0 => false
  | some wid => (d.wallets.get? wid).isSome

/-- `_execute_open_portion` up to the orders. -/
def Db.startOpen (d : Db) (order : ArbTriggerOrder) : Started :=
  if Python.truthy order.portionQty then
    if d.hasWallet order.longWalletId && d.hasWallet order.shortWalletId then
      .openLegs (Python.orZero order.portionQty)
    else .refused (failedWrite .user "wallet missing")
  else .refused (failedWrite .user "trigger has no qty")

/-- `_execute_close` up to the orders. -/
def Db.startClose (d : Db) (order : ArbTriggerOrder) : Started :=
  match order.arbPositionId.bind d.arbPositions.get? with
  | none => .refused (failedWrite .user "no open position to close")
  | some pos =>
      if pos.status.closable then
        if (pos.longWalletId.getD 0) ≠ 0 ∧ (pos.shortWalletId.getD 0) ≠ 0 then
          .closing pos.id { status := some .closing }
        else .refused (failedWrite .user "position has no wallet refs")
      else .refused (failedWrite .user "no open position to close")

/-- `_execute_portion`: dispatch on the kind. -/
def Db.startPortion (d : Db) (order : ArbTriggerOrder) : Started :=
  match order.kind with
  | .open_ => d.startOpen order
  | .close | .tp | .sl => d.startClose order

end Avalant
