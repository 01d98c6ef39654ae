import Avalant.Lib.Ascii
import Avalant.Lib.Rounding
import Avalant.Trade.Requests

/-!
The orders of the Bybit adapter: one body for all types, to which a limit adds its price and a
conditional order its trigger. Arithmetic is exact, and a number in a body is the one that its text
reads as.
-/

namespace Avalant

namespace BybitTrade

open GateTrade (Side)
open Engine

def toBybit (sym : String) : String := Ascii.upper sym ++ "USDT"

structure SymbolInfo where
  qtyStep : ℚ
  minOrderQty : ℚ
  status : String
deriving DecidableEq

/-- An error with a text, or the one that prints the least quantity. -/
inductive Failure where
  | message (text : String)
  | belowMin (minOrderQty : ℚ) (symbol : String)
deriving DecidableEq

def roundToStep (qty step minQty : ℚ) : ℚ :=
  let qty := if 0 < step then (qty / step).floor * step else qty
  if 0 < minQty ∧ qty < minQty then 0 else qty

def qtyString (q : ℚ) : ℚ := Python.round q 8

/-- What a conditional order adds to a body. -/
structure Trigger where
  triggerPrice : ℚ
  triggerDirection : ℤ
  tpslMode : String := "Full"
deriving DecidableEq

structure Order where
  category : String := "linear"
  symbol : String
  side : String
  qty : ℚ
  orderType : String
  price : Option ℚ := none
  timeInForce : Option String := none
  trigger : Option Trigger := none
deriving DecidableEq

/-- The body for a quantity. -/
def orderBody (sym : String) (qty : ℚ) (req : OpenRequest) : Order :=
  let body : Order :=
    { symbol := sym, side := if req.side = .sell then "Sell" else "Buy", qty := qtyString qty,
      orderType := "Market" }
  match req.orderType with
  | .limit =>
      { body with orderType := "Limit", price := some req.limitPrice, timeInForce := some "GTC" }
  -- the price falls to the stop, and rises to the take-profit
  | .stopMarket => { body with trigger := some ⟨req.stopPrice, 2, "Full"⟩ }
  | .takeProfitMarket => { body with trigger := some ⟨req.stopPrice, 1, "Full"⟩ }
  | .market => body

/-- The order of `PlaceOrder`. -/
def placeOrder (instrumentInfo : String → Except String SymbolInfo) (req : OpenRequest) :
    Except Failure Order := do
  req.validate.mapError Failure.message
  let sym := toBybit req.symbol
  let info ← (instrumentInfo sym).mapError Failure.message
  if info.status ≠ "" ∧ ¬Ascii.equalFold info.status "Trading" then
    .error (.message ("symbol " ++ sym ++ " is not trading on Bybit (status=" ++ info.status ++ ")"))
  else
    let qty := roundToStep req.quantity info.qtyStep info.minOrderQty
    if qty ≤ 0 then .error (.belowMin info.minOrderQty req.symbol)
    else .ok (orderBody sym qty req)

theorem of_placeOrder {instrumentInfo : String → Except String SymbolInfo} {req : OpenRequest}
    {order : Order} (sent : placeOrder instrumentInfo req = .ok order) :
    ∃ qty, order = orderBody (toBybit req.symbol) qty req := by
  unfold placeOrder at sent
  obtain ⟨_, -, sent⟩ := Go.bind_eq_ok sent
  obtain ⟨info, -, sent⟩ := Go.bind_eq_ok sent
  dsimp only at sent
  split at sent
  · cases sent
  · split at sent
    · cases sent
    · cases sent
      exact ⟨_, rfl⟩

end BybitTrade

end Avalant
