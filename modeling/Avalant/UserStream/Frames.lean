import Mathlib.Algebra.Order.Group.Unbundled.Abs
import Mathlib.Algebra.Order.Ring.Unbundled.Rat
import Avalant.UserStream.Supervisor

/-!
The account frames of five venues, and the one event that each becomes.

Every parser returns from inside its loop, at the first entry that it does not skip. The
numbers of a frame are decimal text or JSON numbers; some fields may be missing or empty.
-/

namespace Avalant

namespace UserStream

/-! ## Numbers -/

/-- A field that has a number, or the empty string in its place. -/
inductive Number
  | text (x : ℚ)
  | empty
  | num (x : ℚ)
  deriving DecidableEq

namespace Number

/-- `bool(x)`: the text of a zero is not empty. -/
def truthy : Option Number → Bool
  | none | some empty => false
  | some (text _) => true
  | some (num x) => x ≠ 0

/-- `float(x)`, where there is something to read. -/
def float : Option Number → Option ℚ
  | none | some empty => none
  | some (text x) | some (num x) => some x

/-- `float(x) if x else None`. -/
def ifTruthy (x : Option Number) : Option ℚ :=
  if truthy x then float x else none

/-- `float(x or 0)`, or zero when there is nothing to read. -/
def orZero (x : Option Number) : ℚ :=
  (float x).getD 0

/-- `x or y`. -/
def or_ (x y : Option Number) : Option Number :=
  if truthy x then x else y

end Number

/-! ## Events -/

inductive MarginMode
  | cross
  | isolated
  deriving DecidableEq

def MarginMode.ofText : String → Option MarginMode
  | "cross" => some cross
  | "isolated" => some isolated
  | _ => none

structure PositionUpdate extends Event where
  entryPrice : Option ℚ := none
  markPrice : Option ℚ := none
  unrealizedPnl : Option ℚ := none
  leverage : Option ℤ := none
  marginMode : Option MarginMode := none

inductive UserStreamEvent
  | positionUpdate (update : PositionUpdate)
  | balanceUpdate (balanceUsdt : Option ℚ)

/-- `int(float(x)) if x else None`. -/
def readLeverage (x : Option Number) : Option ℤ :=
  (Number.ifTruthy x).map Python.trunc

/-- Where the sign of a quantity says the side. -/
def signSide (x : ℚ) : Side :=
  if 0 < x then .buy else .sell

/-! ## Binance -/

structure BinanceBalance where
  a : Option String
  wb : Option Number

structure BinancePosition where
  s : Option String
  pa : Option Number
  ep : Option Number := none
  up : Option Number := none
  mp : Option Number := none
  ps : Option String := none

structure BinanceFrame where
  e : String
  balances : List BinanceBalance
  positions : List BinancePosition

namespace BinancePosition

/-- The side that an entry of hedge mode is about. -/
def hedgeSide (p : BinancePosition) : Option Side :=
  let posSide := Python.upper (p.ps.getD "")
  if posSide = "LONG" then some .buy else if posSide = "SHORT" then some .sell else none

def update (p : BinancePosition) : Option PositionUpdate :=
  let symFull := Python.upper (p.s.getD "")
  if Python.endsWith symFull "USDT" then
    let amt := Number.orZero p.pa
    let side := p.hedgeSide.getD (signSide amt)
    some {
      symbol := Python.dropLast 4 symFull
      side := if amt = 0 then none else some side
      qty := |amt|
      entryPrice := Number.ifTruthy p.ep
      markPrice := Number.ifTruthy p.mp
      unrealizedPnl := Number.ifTruthy p.up }
  else none

end BinancePosition

def BinanceBalance.isUsdt (b : BinanceBalance) : Bool :=
  Python.upper (b.a.getD "") = "USDT"

/-- `BinanceUserStream.parse_event`: a USDT balance goes before all positions. -/
def BinanceFrame.parseEvent (raw : BinanceFrame) : Option UserStreamEvent :=
  if raw.e = "ACCOUNT_UPDATE" then
    match raw.balances.find? BinanceBalance.isUsdt with
    | some b => some (.balanceUpdate (some (Number.orZero b.wb)))
    | none => (raw.positions.findSome? BinancePosition.update).map .positionUpdate
  else none

/-! ## Bybit -/

structure BybitPosition where
  symbol : Option String
  size : Option Number
  side : Option String
  entryPrice : Option Number := none
  avgPrice : Option Number := none
  markPrice : Option Number := none
  unrealisedPnl : Option Number := none
  leverage : Option Number := none
  tradeMode : Option Nat := none
  /-- 1 and 2 are the sides of hedge mode. -/
  positionIdx : Option Nat := none

structure BybitCoin where
  coin : Option String
  walletBalance : Option Number
  equity : Option Number

inductive BybitFrame
  | position (data : List BybitPosition)
  /-- The coins of each account. -/
  | wallet (data : List (List BybitCoin))
  | execution
  | other

namespace BybitPosition

def hedgeSide (p : BybitPosition) : Option Side :=
  match p.positionIdx with
  | some 1 => some .buy
  | some 2 => some .sell
  | _ => none

def sideRaw (p : BybitPosition) : Option Side :=
  match Python.lower (p.side.getD "") with
  | "buy" => some .buy
  | "sell" => some .sell
  | _ => none

def marginMode (p : BybitPosition) : Option MarginMode :=
  match p.tradeMode with
  | some 1 => some .isolated
  | some 0 => some .cross
  | _ => none

def update (p : BybitPosition) : Option PositionUpdate :=
  let symFull := Python.upper (p.symbol.getD "")
  if Python.endsWith symFull "USDT" then
    let size := Number.orZero p.size
    if size = 0 ∨ p.sideRaw = none then
      some { symbol := Python.dropLast 4 symFull, side := none, qty := 0 }
    else
      some {
        symbol := Python.dropLast 4 symFull
        side := p.sideRaw
        qty := |size|
        entryPrice := Number.ifTruthy (Number.or_ p.entryPrice p.avgPrice)
        markPrice := Number.ifTruthy p.markPrice
        unrealizedPnl := Number.ifTruthy p.unrealisedPnl
        leverage := readLeverage p.leverage
        marginMode := p.marginMode }
  else none

end BybitPosition

def BybitCoin.isUsdt (c : BybitCoin) : Bool :=
  Python.upper (c.coin.getD "") = "USDT"

/-- `BybitUserStream.parse_event`. -/
def BybitFrame.parseEvent : BybitFrame → Option UserStreamEvent
  | .position data => (data.findSome? BybitPosition.update).map .positionUpdate
  | .wallet data =>
      (data.flatten.find? BybitCoin.isUsdt).map fun c =>
        .balanceUpdate (Number.float (Number.or_ c.walletBalance c.equity))
  | .execution | .other => none

/-! ## OKX -/

structure OkxPosition where
  instId : Option String
  pos : Option Number
  ctVal : Option Number := none
  posSide : Option String := none
  avgPx : Option Number := none
  markPx : Option Number := none
  upl : Option Number := none
  lever : Option Number := none
  mgnMode : Option String := none

structure OkxDetail where
  ccy : Option String
  cashBal : Option Number

inductive OkxFrame
  | positions (data : List OkxPosition)
  /-- The details of each account. -/
  | account (data : List (List OkxDetail))
  | other

/-- The cached instruments, with the `ctVal` of each. -/
abbrev Instruments := String → Option (Option Number)

namespace OkxPosition

def hedgeSide (p : OkxPosition) : Option Side :=
  match Python.lower (Python.orStr p.posSide "net") with
  | "long" => some .buy
  | "short" => some .sell
  | _ => none

/-- The contract size of the entry, else of the cache, else one. -/
def contractSize (instruments : Instruments) (p : OkxPosition) (instId : String) : ℚ :=
  let own := (Number.ifTruthy p.ctVal).getD 0
  let ctVal :=
    if own = 0 then
      match instruments instId with
      | none => own
      | some info => (Number.ifTruthy info).getD 1
    else own
  if ctVal = 0 then 1 else ctVal

def update (instruments : Instruments) (p : OkxPosition) : Option PositionUpdate :=
  let instId := Python.upper (p.instId.getD "")
  if Python.endsWith instId "-USDT-SWAP" then
    let posContracts := Number.orZero p.pos
    let base := Python.dropLast 10 instId
    if posContracts = 0 then some { symbol := base, side := none, qty := 0 }
    else
      some {
        symbol := base
        side := some (p.hedgeSide.getD (signSide posContracts))
        qty := |posContracts| * p.contractSize instruments instId
        entryPrice := Number.ifTruthy p.avgPx
        markPrice := Number.ifTruthy p.markPx
        unrealizedPnl := Number.ifTruthy p.upl
        leverage := readLeverage p.lever
        marginMode := MarginMode.ofText (Python.lower (p.mgnMode.getD "")) }
  else none

end OkxPosition

def OkxDetail.isUsdt (d : OkxDetail) : Bool :=
  Python.upper (d.ccy.getD "") = "USDT"

/-- `OKXUserStream.parse_event`. -/
def OkxFrame.parseEvent (instruments : Instruments) : OkxFrame → Option UserStreamEvent
  | .positions data =>
      (data.findSome? (OkxPosition.update instruments)).map .positionUpdate
  | .account data =>
      (data.flatten.find? OkxDetail.isUsdt).map fun d => .balanceUpdate (Number.float d.cashBal)
  | .other => none

/-! ## Gate -/

structure GatePosition where
  contract : Option String
  size : Option Number
  entryPrice : Option Number := none
  markPrice : Option Number := none
  unrealisedPnl : Option Number := none
  pnl : Option Number := none
  leverage : Option Number := none
  crossLeverageLimit : Option Number := none
  /-- `dual_long` and `dual_short` are the sides of hedge mode. -/
  mode : Option String := none

structure GateBalance where
  balance : Option Number

inductive GateFrame
  /-- A single result counts as a list of one. -/
  | positions (event : String) (result : List GatePosition)
  | balances (event : String) (result : List GateBalance)
  | other

namespace GatePosition

def hedgeSide (p : GatePosition) : Option Side :=
  match p.mode with
  | some "dual_long" => some .buy
  | some "dual_short" => some .sell
  | _ => none

def marginMode (p : GatePosition) : Option MarginMode :=
  (Number.float p.crossLeverageLimit).map fun limit => if 0 < limit then .cross else .isolated

def update (p : GatePosition) : Option PositionUpdate :=
  let contract := Python.upper (p.contract.getD "")
  if Python.endsWith contract "_USDT" then
    let base := Python.dropLast 5 contract
    let size := Number.orZero p.size
    if size = 0 then some { symbol := base, side := none, qty := 0 }
    else
      some {
        symbol := base
        side := some (signSide size)
        qty := |size|
        entryPrice := Number.ifTruthy p.entryPrice
        markPrice := Number.ifTruthy p.markPrice
        unrealizedPnl := Number.ifTruthy (Number.or_ p.unrealisedPnl p.pnl)
        leverage := readLeverage p.leverage
        marginMode := p.marginMode }
  else none

end GatePosition

/-- `GateUserStream.parse_event`. -/
def GateFrame.parseEvent : GateFrame → Option UserStreamEvent
  | .positions event result =>
      if event = "update" then (result.findSome? GatePosition.update).map .positionUpdate else none
  | .balances event result =>
      if event = "update" then result.head?.map fun b => .balanceUpdate (Number.float b.balance)
      else none
  | .other => none

/-! ## Hyperliquid -/

structure HyperliquidPosition where
  coin : Option String
  szi : Option Number
  entryPx : Option Number := none
  markPx : Option Number := none
  oraclePx : Option Number := none
  unrealizedPnl : Option Number := none
  leverageValue : Option Number := none
  leverageType : Option String := none

inductive HyperliquidFrame
  /-- The whole state of the account. -/
  | webData2 (assetPositions : List HyperliquidPosition) (accountValue : Option Number)
  | other

namespace HyperliquidPosition

def update (p : HyperliquidPosition) : PositionUpdate :=
  let sz := Number.orZero p.szi
  { symbol := Python.upper (p.coin.getD "")
    side := if sz = 0 then none else some (signSide sz)
    qty := |sz|
    entryPrice := Number.ifTruthy p.entryPx
    markPrice := Number.ifTruthy (Number.or_ p.markPx p.oraclePx)
    unrealizedPnl := Number.ifTruthy p.unrealizedPnl
    leverage := readLeverage p.leverageValue
    marginMode := p.leverageType.bind MarginMode.ofText }

/-- Flat positions are skipped. -/
def open? (p : HyperliquidPosition) : Option PositionUpdate :=
  if Number.orZero p.szi = 0 then none else some p.update

end HyperliquidPosition

/-- `HyperliquidUserStream.parse_event`: without an open position the balance is all there is. -/
def HyperliquidFrame.parseEvent : HyperliquidFrame → Option UserStreamEvent
  | .webData2 assetPositions accountValue =>
      match assetPositions.findSome? HyperliquidPosition.open? with
      | some update => some (.positionUpdate update)
      | none => (Number.float accountValue).map fun bal => .balanceUpdate (some bal)
  | .other => none

/-! ## The recv loop -/

inductive Frame
  | binance (raw : BinanceFrame)
  | bybit (raw : BybitFrame)
  | okx (raw : OkxFrame)
  | gate (raw : GateFrame)
  | hyperliquid (raw : HyperliquidFrame)

def Frame.parseEvent (instruments : Instruments) : Frame → Option UserStreamEvent
  | .binance raw => raw.parseEvent
  | .bybit raw => raw.parseEvent
  | .okx raw => raw.parseEvent instruments
  | .gate raw => raw.parseEvent
  | .hyperliquid raw => raw.parseEvent

namespace Stream

/-- `_dispatch_event`; a balance is not part of the positions. -/
def dispatch (s : Stream) : UserStreamEvent → Stream
  | .positionUpdate update => s.dispatchEvent update.toEvent
  | .balanceUpdate _ => s

/-- A frame is parsed and dispatched. -/
def handle (instruments : Instruments) (s : Stream) (frame : Frame) : Stream :=
  ((frame.parseEvent instruments).map s.dispatch).getD s

end Stream

end UserStream

end Avalant
