import Avalant.Reconcile.Pass

/-!
Auto-pairing of single legs, and the second transaction of a reconcile pass.

`auto_pair_internal_legs` wraps two mirror legs into a new arbitrage position.
It only inserts rows and links legs to them; no existing position or trigger is
touched.
-/

namespace Avalant

open Relational

/-- ±12 %, mirror of spot-short. -/
def symbolPairNotionalTolerance : ℚ := 12 / 100

/-- ±10 min. -/
def pairTimeWindowS : Time := 600

/-- `(leg_a_entry_price or 0) * (leg_a_qty or 0)`. -/
def TradePosition.notional (p : TradePosition) : ℚ :=
  Python.orZero p.legAEntryPrice * p.legAQty

/-- The match criteria of a pair. -/
def mirrorLegs (a b : TradePosition) : Bool :=
  let avg := (a.notional + b.notional) / 2
  a.legASide != b.legASide && a.legAExchange != b.legAExchange &&
    decide (0 < a.notional) && decide (0 < b.notional) &&
    decide (|a.notional - b.notional| / avg ≤ symbolPairNotionalTolerance) &&
    decide (|a.openedAt - b.openedAt| ≤ pairTimeWindowS)

/-- The position wrapping two mirror legs. -/
def pairedPosition (userId : Nat) (a b : TradePosition) : PositionInsert :=
  let (long, short) := if a.legASide = "buy" then (a, b) else (b, a)
  { row :=
      { id := 0
        userId
        longExchange := long.legAExchange
        longSymbol := long.symbol
        longWalletId := long.legAWalletId
        shortExchange := short.legAExchange
        shortSymbol := short.symbol
        shortWalletId := short.legAWalletId
        targetQtyToken := none
        leverage := none
        marginMode := "isolated"
        entrySpreadPct := spreadPct long.legAEntryPrice short.legAEntryPrice none
        longEntryPrice := long.legAEntryPrice
        shortEntryPrice := short.legAEntryPrice
        longQty := long.legAQty
        shortQty := short.legAQty
        openedAt := some (min long.openedAt short.openedAt)
        exitSpreadPct := none
        longExitPrice := none
        shortExitPrice := none
        realizedPnlUsd := none
        closedAt := none
        status := .open_
        closedExternally := false }
    linkTrades := [long.id, short.id] }

/-- Try every pair within a symbol bucket; `paired` holds the legs already wrapped. -/
def pairBucket (userId : Nat) : List TradePosition → List Nat → List PositionInsert
  | [], _ => []
  | a :: rest, paired =>
      if paired.contains a.id then pairBucket userId rest paired
      else
        match rest.find? fun b => !paired.contains b.id && mirrorLegs a b with
        | some b => pairedPosition userId a b :: pairBucket userId rest (b.id :: paired)
        | none => pairBucket userId rest paired

/-- `auto_pair_internal_legs`. -/
def Db.autoPairInternalLegs (d : Db) (userId : Nat) : List PositionInsert :=
  let openUnwrapped := d.tradePositions.where_ fun p =>
    p.userId == userId && p.arbPositionId == none && p.status == .open_ && p.kind == .single
  let symbols := (openUnwrapped.map fun p => Python.upper p.symbol).eraseDups
  symbols.flatMap fun symbol =>
    pairBucket userId (openUnwrapped.filter fun p => Python.upper p.symbol == symbol) []

/-! ## The second transaction -/

/-- Positions the pass walks: status open, partial or closing. -/
def Db.openArbs (d : Db) (userId : Nat) : List ArbPosition :=
  d.arbPositions.where_ fun ap => ap.userId == userId && ap.status.live

/-- The writes of the second transaction: SET clauses of walked positions, the
positions whose triggers are cancelled, and the auto-paired positions. -/
structure ArbWrites where
  sets : List (Nat × PositionSet)
  cancels : List Nat
  inserts : List PositionInsert
  deriving DecidableEq, Repr

/-- `_reconcile_arb_positions`. -/
def Db.reconcileArbs (d : Db) (userId : Nat) (live : List LiveRow) (now : Time) : ArbWrites :=
  let children (ap : ArbPosition) :=
    d.tradePositions.where_ fun ch => ch.arbPositionId == some ap.id
  { sets := (d.openArbs userId).map fun ap =>
      (ap.id, PositionSet.diff ap (ap.reconcile live (children ap) now))
    cancels := ((d.openArbs userId).filter fun ap => ap.finalised live).map ArbPosition.id
    inserts := d.autoPairInternalLegs userId }

/-- `UPDATE arb_trigger_orders SET status='cancelled', … WHERE arb_position_id=:pid AND
status IN ('pending','firing','scheduled')`, for every position in `cancels`. -/
def cancelLinked (cancels : List Nat) (row : ArbTriggerOrder) : ArbTriggerOrder :=
  if (cancels.any fun pid => row.arbPositionId == some pid) && row.status.active then
    { row with
      status := .cancelled
      errorKind := some .posClosedExt
      errorMessage := some "reconcile detected external close" }
  else row

theorem cancelLinked_id (cancels : List Nat) (row : ArbTriggerOrder) :
    (cancelLinked cancels row).id = row.id := by
  unfold cancelLinked
  split <;> rfl

def ArbWrites.txn (w : ArbWrites) : Txn where
  orders := ⟨cancelLinked w.cancels, cancelLinked_id w.cancels⟩
  positions := setClauses w.sets PositionSet.apply PositionSet.apply_id
  newPositions := w.inserts

/-- `_reconcile_user`: both transactions over one snapshot, with nothing in between. -/
def Db.reconcileUser (d : Db) (userId : Nat) (outcome : Nat → FetchOutcome) (now : Time) : Db :=
  let live := d.listUserPositions userId outcome
  let settled := d.commit (d.reconcileTrades userId live now).txn
  settled.commit (settled.reconcileArbs userId live now).txn

end Avalant
