import Avalant.Lib.Ascii
import Avalant.Lib.Go
import Avalant.Lib.Rounding
import Avalant.Trade.PlaceOrder
import Avalant.Trade.Requests

/-!
Which position a close hits, from the trigger service to the OKX and the Binance adapter.

A close request names the side of the position to close, which is the side that opened it. In hedge
mode an account has a long and a short position of a symbol at once, and an order names the one that
it is about.
-/

namespace Avalant

open GateTrade (Side)

/-- The orders that a call sends reduce the position on the side, and nothing else. -/
def ClosesOnly {Order : Type} (closes : Order → Option Side)
    (sent : Except String (Option Order)) (side : Side) : Prop :=
  ∀ order, sent = .ok (some order) → closes order = some side

theorem closesOnly_none {Order : Type} {closes : Order → Option Side} {side : Side} :
    ClosesOnly closes (.ok none) side := by
  intro order sent
  cases sent

theorem closesOnly_some {Order : Type} {closes : Order → Option Side} {side : Side}
    {order : Order} : ClosesOnly closes (.ok (some order)) side ↔ closes order = some side := by
  constructor
  · intro only
    exact only order rfl
  · intro closes order' sent
    cases sent
    exact closes

/-! ## OKX -/

namespace OkxTrade

open Engine (MarginMode OpenPosition)

def toOKXSymbol (sym : String) : String := Ascii.upper sym ++ "-USDT-SWAP"

structure PositionRow where
  instId : String
  /-- In contracts, signed in net mode. -/
  pos : ℚ
  posSide : String
  mgnMode : String
deriving DecidableEq

def PositionRow.side (p : PositionRow) : Side :=
  if Ascii.equalFold p.posSide "short" ∨ (Ascii.equalFold p.posSide "net" ∧ p.pos < 0) then .sell
  else .buy

structure Position extends OpenPosition where
  marginMode : MarginMode
deriving DecidableEq

/-- `ListPositions`, with the value of a contract that the instruments say. -/
def listPositions (ctVal : String → Option ℚ) (rows : List PositionRow) : List Position :=
  rows.filterMap fun p =>
    if p.pos = 0 then none
    else
      let ctVal := ((ctVal p.instId).filter fun v => 0 < v).getD 1
      some { symbol := Go.trimSuffix p.instId "-USDT-SWAP"
             side := p.side
             quantity := |p.pos| * ctVal
             marginMode := if Ascii.equalFold p.mgnMode "cross" then .cross else .isolated }

/-- The body of a `close-position`. -/
structure CloseBody where
  instId : String
  mgnMode : String
  posSide : String
deriving DecidableEq

/-- The position that is closed: the first of the side if one is named, else the first. -/
def target (positions : List Position) (side : Option Side) : Option Position :=
  let first := positions.head?
  match side with
  | some side =>
      match positions.find? fun q => q.side = side with
      | some p => if p.symbol = "" then first else some p
      | none => first
  | none => first

/-- What `ClosePosition` sends, and nothing where the account is flat. -/
def closePosition (ctVal : String → Option ℚ) (rows : Except String (List PositionRow))
    (req : GateTrade.CloseRequest) : Except String (Option CloseBody) := do
  if req.symbol = "" then .error "symbol required"
  let rows ← rows
  return (target (listPositions ctVal rows) req.side).map fun p =>
    { instId := toOKXSymbol req.symbol
      mgnMode := if p.marginMode = .cross then "cross" else "isolated"
      posSide := if p.side = .sell then "short" else "long" }

/-- `close-position` closes the position of its side. -/
def CloseBody.closes (body : CloseBody) : Option Side :=
  if body.posSide = "long" then some .buy
  else if body.posSide = "short" then some .sell
  else none

/-- The account has no position of the symbol, or one of the side. -/
def SideOpen (rows : List PositionRow) (side : Side) : Prop :=
  (∀ row ∈ rows, row.pos = 0) ∨ ∃ row ∈ rows, row.pos ≠ 0 ∧ row.side = side

instance (rows : List PositionRow) (side : Side) : Decidable (SideOpen rows side) := by
  unfold SideOpen
  infer_instance

variable {ctVal : String → Option ℚ} {rows : List PositionRow} {side : Side}

theorem mem_listPositions {p : Position} :
    p ∈ listPositions ctVal rows → ∃ row ∈ rows, row.pos ≠ 0 ∧ row.side = p.side ∧
      p.symbol = Go.trimSuffix row.instId "-USDT-SWAP" := by
  intro listed
  obtain ⟨row, member, read⟩ := List.mem_filterMap.mp listed
  split at read
  case isTrue => cases read
  case isFalse open_ =>
    cases read
    exact ⟨row, member, open_, rfl, rfl⟩

theorem exists_mem_listPositions (ctVal : String → Option ℚ) {row : PositionRow}
    (member : row ∈ rows) (open_ : row.pos ≠ 0) :
    ∃ p ∈ listPositions ctVal rows, p.side = row.side :=
  ⟨_, List.mem_filterMap.mpr ⟨row, member, if_neg open_⟩, rfl⟩

theorem listPositions_eq_nil_iff :
    listPositions ctVal rows = [] ↔ ∀ row ∈ rows, row.pos = 0 := by
  constructor
  · intro flat row member
    by_contra open_
    obtain ⟨p, listed, -⟩ := exists_mem_listPositions ctVal member open_
    rw [flat] at listed
    cases listed
  · intro flat
    refine List.eq_nil_iff_forall_not_mem.mpr fun p listed => ?_
    obtain ⟨row, member, open_, -⟩ := mem_listPositions listed
    exact open_ (flat row member)

/-- A position of the side is the one that is closed, and another one where there is none. -/
theorem target_side {positions : List Position} (named : ∀ p ∈ positions, p.symbol ≠ "")
    {p : Position} (found : target positions (some side) = some p) :
    p.side = side ↔ ∃ q ∈ positions, q.side = side := by
  unfold target at found
  dsimp only at found
  cases matched : positions.find? fun q => q.side = side with
  | some q =>
      rw [matched] at found
      dsimp only at found
      have listed := List.mem_of_find?_eq_some matched
      have same : q.side = side := by simpa using List.find?_some matched
      rw [if_neg (named q listed)] at found
      cases found
      exact ⟨fun _ => ⟨p, listed, same⟩, fun _ => same⟩
  | none =>
      rw [matched] at found
      have other : ∀ q ∈ positions, q.side ≠ side := by simpa using matched
      have listed := List.mem_of_mem_head? (Option.mem_def.mpr found)
      constructor
      · intro same
        exact absurd same (other p listed)
      · rintro ⟨q, member, same⟩
        exact absurd same (other q member)

theorem closes_of_side (instId mgnMode : String) (side : Side) :
    CloseBody.closes ⟨instId, mgnMode, if side = .sell then "short" else "long"⟩ = some side := by
  cases side <;> rfl

theorem target_eq_none_iff {positions : List Position} {side : Option Side} :
    target positions side = none ↔ positions = [] := by
  constructor
  · intro missing
    by_contra some_
    obtain ⟨p, rest, rfl⟩ := List.exists_cons_of_ne_nil some_
    unfold target at missing
    dsimp only at missing
    split at missing
    · split at missing
      · split at missing <;> cases missing
      · cases missing
    · cases missing
  · rintro rfl
    cases side <;> rfl

theorem sideOpen_iff (ctVal : String → Option ℚ) : SideOpen rows side ↔
    listPositions ctVal rows = [] ∨ ∃ p ∈ listPositions ctVal rows, p.side = side := by
  unfold SideOpen
  rw [listPositions_eq_nil_iff]
  refine or_congr_right ⟨?_, ?_⟩
  · rintro ⟨row, member, open_, same⟩
    obtain ⟨p, listed, copied⟩ := exists_mem_listPositions ctVal member open_
    exact ⟨p, listed, copied.trans same⟩
  · rintro ⟨p, listed, same⟩
    obtain ⟨row, member, open_, copied, -⟩ := mem_listPositions listed
    exact ⟨row, member, open_, copied.trans same⟩

theorem closesOnly_iff {symbol : String} (asked : symbol ≠ "")
    (reported : ∀ row ∈ rows, row.instId = toOKXSymbol symbol) :
    ClosesOnly CloseBody.closes (closePosition ctVal (.ok rows) ⟨symbol, some side⟩) side ↔
      SideOpen rows side := by
  have named : ∀ p ∈ listPositions ctVal rows, p.symbol ≠ "" := by
    intro p listed empty
    obtain ⟨row, member, -, -, symbol_eq⟩ := mem_listPositions listed
    rw [reported row member, toOKXSymbol, Go.trimSuffix_append] at symbol_eq
    exact asked (Ascii.upper_eq_empty.mp (symbol_eq.symm.trans empty))
  have sent : closePosition ctVal (.ok rows) ⟨symbol, some side⟩ =
      .ok ((target (listPositions ctVal rows) (some side)).map fun p =>
        { instId := toOKXSymbol symbol
          mgnMode := if p.marginMode = .cross then "cross" else "isolated"
          posSide := if p.side = .sell then "short" else "long" }) := by
    unfold closePosition
    rw [if_neg asked]
    rfl
  rw [sent, sideOpen_iff ctVal]
  cases found : target (listPositions ctVal rows) (some side) with
  | none => exact iff_of_true closesOnly_none (Or.inl (target_eq_none_iff.mp found))
  | some p =>
      have open_ : listPositions ctVal rows ≠ [] := by
        intro flat
        rw [target_eq_none_iff.mpr flat] at found
        cases found
      rw [Option.map_some, closesOnly_some, closes_of_side, Option.some.injEq, or_iff_right open_]
      exact target_side named found

end OkxTrade

/-! ## Binance -/

namespace BinanceTrade

def toBinanceSymbol (sym : String) : String := Ascii.upper sym ++ "USDT"

/-- A row of `positionRisk`. -/
structure PositionRow where
  positionAmt : ℚ
  positionSide : String
deriving DecidableEq

def PositionRow.side (row : PositionRow) : Side := if row.positionAmt < 0 then .sell else .buy

/-- What Binance reports: one row in one-way mode, a long and a short one in hedge mode. -/
def PositionRow.Reported (row : PositionRow) : Prop :=
  row.positionSide = "" ∨ row.positionSide = "BOTH" ∨
    (row.positionSide = "LONG" ∧ 0 ≤ row.positionAmt) ∨
    (row.positionSide = "SHORT" ∧ row.positionAmt ≤ 0)

instance (row : PositionRow) : Decidable row.Reported := by
  unfold PositionRow.Reported
  infer_instance

structure CloseParams where
  symbol : String
  side : String
  type : String
  quantity : ℚ
  reduceOnly : Bool
  positionSide : Option String
deriving DecidableEq

/-- The row that is closed: the first that is not flat. -/
def target (rows : List PositionRow) : Option PositionRow :=
  rows.find? fun row => row.positionAmt ≠ 0

/-- What `ClosePosition` sends, and nothing where the account is flat. The quantity is rounded to
the precision of the symbol. -/
def closePosition (quantityPrecision : String → ℕ) (rows : Except String (List PositionRow))
    (req : GateTrade.CloseRequest) : Except String (Option CloseParams) := do
  if req.symbol = "" then .error "symbol required"
  let sym := toBinanceSymbol req.symbol
  let rows ← rows
  return (target rows).map fun row : PositionRow =>
    let hedge : Bool := decide (row.positionSide ≠ "" ∧ row.positionSide ≠ "BOTH")
    { symbol := sym
      side := if row.positionAmt < 0 then "BUY" else "SELL"
      type := "MARKET"
      quantity := Python.round |row.positionAmt| (quantityPrecision sym)
      reduceOnly := !hedge
      positionSide := if hedge then some row.positionSide else none }

/-- The side that an order can only reduce: the opposite of a reduce-only order, or the position of
its `positionSide`. -/
def CloseParams.closes (order : CloseParams) : Option Side :=
  if order.reduceOnly then some (if order.side = "BUY" then .sell else .buy)
  else if order.positionSide = some "LONG" ∧ order.side = "SELL" then some .buy
  else if order.positionSide = some "SHORT" ∧ order.side = "BUY" then some .sell
  else none

variable {quantityPrecision : String → ℕ} {rows : List PositionRow} {side : Side}

/-- An order for a reported row reduces the position of the row. -/
theorem closes_row {row : PositionRow} (reported : row.Reported) (open_ : row.positionAmt ≠ 0)
    (sym : String) (quantity : ℚ) :
    CloseParams.closes
      { symbol := sym
        side := if row.positionAmt < 0 then "BUY" else "SELL"
        type := "MARKET"
        quantity := quantity
        reduceOnly := !decide (row.positionSide ≠ "" ∧ row.positionSide ≠ "BOTH")
        positionSide := if decide (row.positionSide ≠ "" ∧ row.positionSide ≠ "BOTH") then
          some row.positionSide else none } = some row.side := by
  unfold CloseParams.closes PositionRow.side
  rcases reported with oneWay | oneWay | ⟨long, sign⟩ | ⟨short, sign⟩
  · rw [oneWay]
    by_cases negative : row.positionAmt < 0 <;> simp [negative]
  · rw [oneWay]
    by_cases negative : row.positionAmt < 0 <;> simp [negative]
  · rw [long]
    simp [not_lt.mpr sign]
  · rw [short]
    simp [lt_of_le_of_ne sign open_]

theorem closesOnly_iff {symbol : String} (asked : symbol ≠ "")
    (reported : ∀ row ∈ rows, row.Reported) :
    ClosesOnly CloseParams.closes (closePosition quantityPrecision (.ok rows) ⟨symbol, some side⟩)
      side ↔ ∀ row ∈ target rows, row.side = side := by
  unfold closePosition
  rw [if_neg asked]
  change ClosesOnly _ (.ok ((target rows).map _)) side ↔ _
  cases found : target rows with
  | none => exact iff_of_true closesOnly_none (by simp)
  | some row =>
      have member := List.mem_of_find?_eq_some found
      have open_ : row.positionAmt ≠ 0 := by simpa using List.find?_some found
      rw [Option.map_some, closesOnly_some, closes_row (reported row member) open_,
        Option.some.injEq]
      simp

end BinanceTrade

/-! ## The trigger service -/

/-- The close requests of `_execute_close`, for the long and the short leg. -/
def closeLong (order : ArbTriggerOrder) (pos : ArbPosition) : CloseRequest :=
  { userId := order.userId, walletId := pos.longWalletId.getD 0, symbol := pos.longSymbol,
    side := some "sell" }

def closeShort (order : ArbTriggerOrder) (pos : ArbPosition) : CloseRequest :=
  { userId := order.userId, walletId := pos.shortWalletId.getD 0, symbol := pos.shortSymbol,
    side := some "buy" }

/-- `trade_proxy.close_position`: the request as the engine reads it. -/
def CloseRequest.engine (req : CloseRequest) : GateTrade.CloseRequest where
  symbol := Ascii.upper req.symbol
  side :=
    if req.side = some "buy" then some .buy
    else if req.side = some "sell" then some .sell
    else none

/-- The requests name the sides of the legs: the long leg was bought, and the short one sold. -/
structure RequestsLegs (order : ArbTriggerOrder) (pos : ArbPosition) : Prop where
  long : (closeLong order pos).engine.side = some .buy
  short : (closeShort order pos).engine.side = some .sell

theorem not_requestsLegs (order : ArbTriggerOrder) (pos : ArbPosition) :
    ¬RequestsLegs order pos := by
  intro requests
  cases requests.long

/-- In hedge mode the close of the long leg hits the short position, and leaves the long one. -/
theorem closeLong_hits_short {order : ArbTriggerOrder} {pos : ArbPosition}
    (named : pos.longSymbol ≠ "") {ctVal : String → Option ℚ} {rows : List OkxTrade.PositionRow}
    (ofSymbol : ∀ row ∈ rows, row.instId = OkxTrade.toOKXSymbol (Ascii.upper pos.longSymbol))
    (short : ∃ row ∈ rows, row.pos ≠ 0 ∧ row.side = .sell) :
    ClosesOnly OkxTrade.CloseBody.closes
      (OkxTrade.closePosition ctVal (.ok rows) (closeLong order pos).engine) .sell :=
  (OkxTrade.closesOnly_iff (mt Ascii.upper_eq_empty.mp named) ofSymbol).mpr (Or.inr short)

/-- Where the account has positions of the symbol, a close hits only its side if there is one of the
side, on Binance if it is the first. The trigger service names the other sides. -/
theorem closesOnly_side_iff {symbol : String} (asked : symbol ≠ "") (side : Side)
    (ctVal : String → Option ℚ) {okxRows : List OkxTrade.PositionRow}
    (ofSymbol : ∀ row ∈ okxRows, row.instId = OkxTrade.toOKXSymbol symbol)
    (quantityPrecision : String → ℕ) {binanceRows : List BinanceTrade.PositionRow}
    (reported : ∀ row ∈ binanceRows, row.Reported) :
    (ClosesOnly OkxTrade.CloseBody.closes
        (OkxTrade.closePosition ctVal (.ok okxRows) ⟨symbol, some side⟩) side ↔
      OkxTrade.SideOpen okxRows side) ∧
    (ClosesOnly BinanceTrade.CloseParams.closes
        (BinanceTrade.closePosition quantityPrecision (.ok binanceRows) ⟨symbol, some side⟩) side ↔
      ∀ row ∈ BinanceTrade.target binanceRows, row.side = side) ∧
    ∀ order pos, ¬RequestsLegs order pos := by
  exact ⟨OkxTrade.closesOnly_iff asked ofSymbol, BinanceTrade.closesOnly_iff asked reported,
    not_requestsLegs⟩

/-! ## Accounts -/

namespace OkxTrade

def longRow : PositionRow := ⟨"BTC-USDT-SWAP", 3, "long", "cross"⟩

def shortRow : PositionRow := ⟨"BTC-USDT-SWAP", 2, "short", "cross"⟩

end OkxTrade

namespace BinanceTrade

def longRow : PositionRow := ⟨3 / 100, "LONG"⟩

def shortRow : PositionRow := ⟨-2 / 100, "SHORT"⟩

end BinanceTrade

/-- In hedge mode, the short positions of both accounts. -/
theorem closesOnly_short :
    ClosesOnly OkxTrade.CloseBody.closes (OkxTrade.closePosition (fun _ => some (1 / 100))
        (.ok [OkxTrade.longRow, OkxTrade.shortRow]) ⟨"BTC", some .sell⟩) .sell ∧
      ClosesOnly BinanceTrade.CloseParams.closes (BinanceTrade.closePosition (fun _ => 3)
        (.ok [BinanceTrade.shortRow]) ⟨"BTC", some .sell⟩) .sell := by
  have ofSymbol : ∀ row ∈ [OkxTrade.longRow, OkxTrade.shortRow],
      row.instId = OkxTrade.toOKXSymbol "BTC" := by decide +kernel
  have reported : ∀ row ∈ [BinanceTrade.shortRow], row.Reported := by decide +kernel
  have hedge := closesOnly_side_iff (by decide) .sell (fun _ => some (1 / 100)) ofSymbol
    (fun _ => 3) reported
  exact ⟨hedge.1.mpr (by decide +kernel), hedge.2.1.mpr (by decide +kernel)⟩

/-- A close of the long side where OKX has a short position only, and one of the short side where
Binance reports the long position first. -/
theorem close_hits_other_side :
    ¬ClosesOnly OkxTrade.CloseBody.closes (OkxTrade.closePosition (fun _ => some (1 / 100))
        (.ok [OkxTrade.shortRow]) ⟨"BTC", some .buy⟩) .buy ∧
      ¬ClosesOnly BinanceTrade.CloseParams.closes (BinanceTrade.closePosition (fun _ => 3)
        (.ok [BinanceTrade.longRow, BinanceTrade.shortRow]) ⟨"BTC", some .sell⟩) .sell ∧
      ∀ order pos, ¬RequestsLegs order pos := by
  refine ⟨fun only => ?_, fun only => ?_, not_requestsLegs⟩
  · have other := only ⟨"BTC-USDT-SWAP", "cross", "short"⟩ (by decide +kernel)
    cases other
  · have other := only ⟨"BTCUSDT", "SELL", "MARKET", 3 / 100, false, some "LONG"⟩
      (by decide +kernel)
    cases other

end Avalant
