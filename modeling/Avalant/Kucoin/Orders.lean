import Avalant.Lib.Ascii
import Avalant.Trade.Requests

/-!
The orders of the KuCoin adapter, in contracts. Conditional orders go to an endpoint of their own.
-/

namespace Avalant

namespace KucoinTrade

open GateTrade (Side)
open Engine

def toKucoinSymbol (sym : String) : String :=
  let base := Ascii.upper sym
  (if base = "BTC" then "XBT" else base) ++ "USDTM"

structure InstrumentInfo where
  multiplier : ℚ
  lotSize : ℤ
deriving DecidableEq

/-- An error with a text, or the one that prints the multiplier. -/
inductive Failure where
  | message (text : String)
  | belowMin (multiplier : ℚ)
deriving DecidableEq

def coinsToContracts (qty multiplier : ℚ) (lotSize : ℤ) : ℤ :=
  let multiplier := if multiplier ≤ 0 then 1 else multiplier
  let n := GateTrade.toInt64 (qty / multiplier).floor
  let n := if 1 < lotSize then n.tdiv lotSize * lotSize else n
  if n < 0 then 0 else n

/-- What a conditional order adds to a body. -/
structure Stop where
  stop : String
  stopPrice : ℚ
  stopPriceType : String := "TP"
deriving DecidableEq

/-- A body, with the endpoint that it is posted to. -/
structure Order where
  endpoint : String
  clientOid : String
  symbol : String
  side : String
  size : ℤ
  leverage : ℤ
  marginMode : String
  type : String
  price : Option ℚ := none
  timeInForce : Option String := none
  stop : Option Stop := none
deriving DecidableEq

/-- The body for a number of contracts. -/
def orderBody (uuid sym : String) (contracts : ℤ) (req : OpenRequest) : Order :=
  let body : Order :=
    { endpoint := if isConditional req.orderType then "/api/v1/stop-orders" else "/api/v1/orders"
      clientOid := uuid
      symbol := sym
      side := if req.side = .sell then "sell" else "buy"
      size := contracts
      leverage := req.leverage
      marginMode := if req.marginMode = some .cross then "CROSS" else "ISOLATED"
      type := "market" }
  match req.orderType with
  | .limit => { body with type := "limit", price := some req.limitPrice, timeInForce := some "GTC" }
  -- "down" is the stop-loss of a long, and "up" the take-profit of a long
  | .stopMarket => { body with stop := some ⟨"down", req.stopPrice, "TP"⟩ }
  | .takeProfitMarket => { body with stop := some ⟨"up", req.stopPrice, "TP"⟩ }
  | .market => body

/-- The order of `PlaceOrder`. -/
def placeOrder (instrumentInfo : String → Except String InstrumentInfo) (uuid : String)
    (req : OpenRequest) : Except Failure Order := do
  req.validate.mapError Failure.message
  let sym := toKucoinSymbol req.symbol
  let info ← (instrumentInfo sym).mapError Failure.message
  let contracts := coinsToContracts req.quantity info.multiplier info.lotSize
  if contracts ≤ 0 then .error (.belowMin info.multiplier)
  else .ok (orderBody uuid sym contracts req)

theorem of_placeOrder {instrumentInfo : String → Except String InstrumentInfo} {uuid : String}
    {req : OpenRequest} {order : Order} (sent : placeOrder instrumentInfo uuid req = .ok order) :
    ∃ contracts, order = orderBody uuid (toKucoinSymbol req.symbol) contracts req := by
  unfold placeOrder at sent
  obtain ⟨_, -, sent⟩ := Go.bind_eq_ok sent
  obtain ⟨info, -, sent⟩ := Go.bind_eq_ok sent
  dsimp only at sent
  split at sent
  · cases sent
  · cases sent
    exact ⟨_, rfl⟩

end KucoinTrade

end Avalant
