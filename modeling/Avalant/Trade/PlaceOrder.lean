import Avalant.Db.Models
import Avalant.Trade.Proxy

/-!
One order call of `backend/services/trade_service.py`: `place_open_order` and
`close_position`.

Both check the request, try the Go engine when the venue is on its list, and
call the local Python adapter when the engine's error is no final refusal. What
the two engines do is an input; a run says what the venue accepted, whether the
adapter was called, what the caller gets and what the `trade_orders` row says.

Refusals that read other tables (plan limits, admin block, the leverage cap of
the venue) are one optional error here: each is raised before the row is
written.
-/

namespace Avalant

open Relational

/-! ## Venues -/

/-- Adapters with `spot_native`. -/
def spotNative (exchange : String) : Bool :=
  ["binancealpha", "upbit"].contains exchange

/-- `_PYTHON_CLOSE_FALLBACK_UNSAFE`. -/
def pythonCloseFallbackUnsafe (exchange marketType : String) : Option String :=
  if exchange = "backpack" ∧ marketType = "futures" then
    some ("Backpack Python close_position is a spot-sell — would close the " ++
      "wrong leg of a perp/spot arb. Go close path required. Retry once Go " ++
      "engine is reachable; do not close manually via spot in the meantime.")
  else none

/-! ## The adapter and the order row -/

/-- What a call of the Python adapter does, if it is called. -/
structure AdapterCall where
  placed : Bool
  outcome : Except PyError OrderResult
  deriving DecidableEq

/-- The columns of the `trade_orders` row that an order call writes. -/
structure OrderLog where
  requestedQty : ℚ
  status : OrderStatus := .pending
  exchangeOrderId : Option String := none
  filledQty : Option ℚ := none
  avgFillPrice : Option ℚ := none
  errorKind : Option TradeErrorKind := none
  errorMessage : Option String := none
  deriving DecidableEq, Repr

/-- `_finalize_order` of a failed call. -/
def OrderLog.fail (log : OrderLog) (e : TradeError) : OrderLog :=
  { log with status := .failed, errorKind := some e.kind, errorMessage := some e.message }

/-- What one order call did. `python` is `none` when the adapter was not called, else says
whether the venue accepted an order from it. -/
structure OrderRun where
  goPlaced : Bool := false
  python : Option Bool := none
  result : LegResult
  log : Option OrderLog := none
  deriving DecidableEq

/-- The orders the venue accepted. -/
def OrderRun.placed (run : OrderRun) : Nat :=
  run.goPlaced.toNat + (run.python.getD false).toNat

def OrderRun.refused (e : TradeError) : OrderRun where
  result := .error e

/-- An exception that is no refusal: what the caller gets, and what the row says. -/
def PyError.surfaced : PyError → TradeError × String
  | .runtime message => (⟨message, .exchange⟩, message)
  | .other typeName message =>
      (⟨"unexpected error — see Order History", .internal⟩, typeName ++ ": " ++ message)

/-- A failed engine call: the row gets the message. -/
def OrderLog.raised (log : OrderLog) (e : PyError) : OrderLog :=
  log.fail ⟨e.surfaced.2, e.surfaced.1.kind⟩

/-! ## The two engines -/

/-- How the engine part of a call ends. -/
inductive EngineOutcome
  | answered (res : OrderResult)
  /-- the Go engine refused for good -/
  | refused (e : TradeError)
  /-- the request may not go to the adapter -/
  | noFallback (e : TradeError)
  | raised (e : PyError)
  deriving DecidableEq

structure EngineRun where
  goPlaced : Bool
  python : Option Bool
  outcome : EngineOutcome
  deriving DecidableEq

/-- The adapter, unless `unsafe_` says why not. -/
def runPython (goPlaced : Bool) (unsafe_ : Option TradeError) (py : AdapterCall) : EngineRun :=
  match unsafe_ with
  | some e => { goPlaced, python := none, outcome := .noFallback e }
  | none =>
      match py.outcome with
      | .ok res => { goPlaced, python := some py.placed, outcome := .answered res }
      | .error e => { goPlaced, python := some py.placed, outcome := .raised e }

/-- The `try` block of both order calls: the Go engine when the venue is enabled, then the
adapter when there is no engine or its error is no final refusal. `call` is what the engine's
client returns, and `goPlaced` whether the engine placed the order. -/
def runEngines (enabled goPlaced : Bool) (call : Except PostError OrderResult)
    (unsafe_ : Option TradeError) (py : AdapterCall) : EngineRun :=
  if enabled then
    match call with
    | .ok res => { goPlaced, python := none, outcome := .answered res }
    | .error (.other e) => { goPlaced, python := none, outcome := .raised e }
    | .error (.go e) =>
        match e.final with
        | some kind => { goPlaced, python := none, outcome := .refused ⟨e.message, kind⟩ }
        | none => runPython goPlaced unsafe_ py
  else runPython false unsafe_ py

/-! ## place_open_order -/

structure OrderRequest where
  userId : Nat
  walletId : Nat
  symbol : String
  side : String
  quantity : ℚ
  leverage : Nat
  marginMode : String
  marketType : String := "futures"
  orderType : String := "market"
  deriving DecidableEq, Repr

/-- What `adapter.preflight` answers. -/
inductive Preflight
  | ok (qtyRounded : Option ℚ)
  | rejected (reason : Option String)
  | raised
  deriving DecidableEq, Repr

/-- What a call finds outside its arguments. -/
structure OrderEnv where
  /-- `isalnum` of a character, for which Unicode decides. -/
  isalnum : Char → Bool := Char.isAlphanum
  wallets : Table Wallet
  proxy : ProxyEnv
  gate : Option TradeError := none
  preflight : Option Preflight := none
  orderRowId : Nat := 1

def userError (message : String) : TradeError := ⟨message, .user⟩

def OrderRequest.normSymbol (req : OrderRequest) : String :=
  Python.upper (Python.strip req.symbol)

def OrderRequest.isSpot (req : OrderRequest) : Bool :=
  req.marketType == "spot"

/-- The user's wallet, if it may trade, and its venue. -/
def tradingWallet (wallets : Table Wallet) (userId walletId : Nat) (exchange : Wallet → String) :
    Except TradeError String :=
  match (wallets.get? walletId).filter fun w => w.userId == userId with
  | none => .error (userError "Wallet not found")
  | some w =>
      if w.purpose = .portfolio then
        .error (userError ("This wallet is configured for Portfolio (read-only). " ++
          "Enable Screener on it or create a trading key."))
      else if supportedExchanges.contains (exchange w) then .ok (exchange w)
      else .error (userError s!"{exchange w} not supported yet")

/-- The checks before the row is written; the venue of an accepted request. -/
def OrderEnv.check (env : OrderEnv) (req : OrderRequest) : Except TradeError String :=
  let symbol := req.normSymbol
  if symbol = "" ∨ symbol.toList.all env.isalnum = false ∨ 16 < symbol.length then
    .error (userError s!"Invalid symbol: '{symbol}'")
  else if req.side ≠ "buy" ∧ req.side ≠ "sell" then
    .error (userError s!"Invalid side: '{req.side}'")
  else if req.marketType ≠ "futures" ∧ req.marketType ≠ "spot" then
    .error (userError s!"Invalid market_type: '{req.marketType}'")
  else if ¬ req.isSpot ∧ req.marginMode ≠ "isolated" ∧ req.marginMode ≠ "cross" then
    .error (userError s!"Invalid margin_mode: '{req.marginMode}'")
  else if req.quantity ≤ 0 then .error (userError "quantity must be > 0")
  else
    match tradingWallet env.wallets req.userId req.walletId fun w => Python.lower w.typeValue with
    | .error e => .error e
    | .ok exchange =>
        match env.gate with
        | some e => .error e
        | none => .ok exchange

/-- The quantity after the preflight: rounded by the adapter, or as requested when there is no
preflight or it fails by itself. -/
def OrderEnv.preflightQty (env : OrderEnv) (quantity : ℚ) : Except TradeError ℚ :=
  match env.preflight with
  | none | some .raised => .ok quantity
  | some (.ok qtyRounded) => .ok (Python.orZero (Python.or_ qtyRounded (some quantity)))
  | some (.rejected reason) =>
      .error (userError (Python.orStr reason "Pre-flight check failed"))

/-- `avg_price or fill_price or price`. -/
def OrderResult.loggedPrice (res : OrderResult) : Option ℚ :=
  Python.or_ res.avgPrice (Python.or_ res.fillPrice res.price)

/-- `filled_qty or qty or quantity`. -/
def OrderResult.loggedQty (res : OrderResult) (quantity : ℚ) : ℚ :=
  Python.orZero (Python.or_ res.filledQty (Python.or_ res.qty (some quantity)))

/-- The status a finished order is logged with; fills of 98 % and more count as filled. -/
def loggedStatus (quantity fillQty : ℚ) : OrderStatus :=
  if 0 < quantity ∧ fillQty ≤ 0 then .cancelled
  else if 0 < quantity ∧ fillQty / quantity < 98 / 100 then .partial_
  else .filled

/-- The row of a successful order. -/
def OrderResult.finalized (res : OrderResult) (quantity : ℚ) : OrderLog where
  requestedQty := quantity
  status := loggedStatus quantity (res.loggedQty quantity)
  exchangeOrderId := res.orderId.filter fun id => id != ""
  filledQty := some (res.loggedQty quantity)
  avgFillPrice := res.loggedPrice.filter fun price => price != 0

/-- `{**result, "exchange": …, "symbol": …, "side": …, "quantity": …, "order_db_id": …}`. -/
def OrderResult.returned (res : OrderResult) (req : OrderRequest) (exchange : String)
    (quantity : ℚ) (orderDbId : Nat) : OrderResult :=
  { res with
    exchange := some exchange
    symbol := some req.normSymbol
    side := some req.side
    quantity := some quantity
    orderDbId := some orderDbId }

/-- Why `place_open_order` does not hand the request to the Python adapter. -/
def OrderRequest.fallbackRefused (req : OrderRequest) (exchange : String) : Option TradeError :=
  if req.isSpot && !spotNative exchange then
    some (userError (s!"Spot trading on {exchange} requires the Go proxy " ++
      "(GO_TRADE_VENUES) and a SpotAdapter implementation."))
  else if req.orderType ≠ "market" then
    some (userError (s!"{req.orderType} orders temporarily unavailable on {exchange} " ++
      "(Go proxy required — this venue is currently on the Python fallback). " ++
      "Use a market order or retry in a few seconds."))
  else none

/-- An accepted request whose row is written, from the engines on. A refused fallback leaves
the row pending. -/
def OrderEnv.dispatch (env : OrderEnv) (req : OrderRequest) (exchange : String) (quantity : ℚ)
    (go : GoEngine) (py : AdapterCall) : OrderRun :=
  let log : OrderLog := { requestedQty := quantity }
  let run := runEngines (env.proxy.isEnabled exchange) go.placed go.placeOrder
    (req.fallbackRefused exchange) py
  { goPlaced := run.goPlaced
    python := run.python
    result :=
      match run.outcome with
      | .answered res => .ok (res.returned req exchange quantity env.orderRowId)
      | .refused e | .noFallback e => .error e
      | .raised e => .error e.surfaced.1
    log := some <|
      match run.outcome with
      | .answered res => res.finalized quantity
      | .refused e => log.fail e
      | .noFallback _ => log
      | .raised e => log.raised e }

/-- `place_open_order`. -/
def OrderEnv.placeOpenOrder (env : OrderEnv) (req : OrderRequest) (go : GoEngine)
    (py : AdapterCall) : OrderRun :=
  match env.check req with
  | .error e => .refused e
  | .ok exchange =>
      match env.preflightQty req.quantity with
      | .error e =>
          { result := .error e, log := some (OrderLog.fail { requestedQty := req.quantity } e) }
      | .ok quantity => env.dispatch req exchange quantity go py

/-! ## close_position -/

structure CloseRequest where
  userId : Nat
  walletId : Nat
  symbol : String
  side : Option String := none
  marketType : String := "futures"
  deriving DecidableEq, Repr

/-- The row of a successful close. -/
def OrderResult.closed (res : OrderResult) : OrderLog where
  requestedQty := 0
  status := .filled
  exchangeOrderId := res.orderId.filter fun id => id != ""
  filledQty := Python.or_ res.filledQty res.qty
  avgFillPrice := (Python.or_ res.avgPrice res.price).filter fun price => price != 0

/-- A checked close, from the engines on. A refused fallback fails the row. -/
def OrderEnv.dispatchClose (env : OrderEnv) (req : CloseRequest) (exchange : String)
    (go : GoEngine) (py : AdapterCall) : OrderRun :=
  let log : OrderLog := { requestedQty := 0 }
  let run := runEngines (env.proxy.isEnabled exchange) go.placed go.closePosition
    ((pythonCloseFallbackUnsafe exchange req.marketType).map userError) py
  { goPlaced := run.goPlaced
    python := run.python
    result :=
      match run.outcome with
      | .answered res => .ok res
      | .refused e | .noFallback e => .error e
      | .raised e => .error e.surfaced.1
    log := some <|
      match run.outcome with
      | .answered res => res.closed
      | .refused e | .noFallback e => log.fail e
      | .raised e => log.raised e }

/-- `close_position`. -/
def OrderEnv.closePosition (env : OrderEnv) (req : CloseRequest) (go : GoEngine)
    (py : AdapterCall) : OrderRun :=
  match tradingWallet env.wallets req.userId req.walletId Wallet.typeValue with
  | .error e => .refused e
  | .ok exchange => env.dispatchClose req exchange go py

end Avalant
