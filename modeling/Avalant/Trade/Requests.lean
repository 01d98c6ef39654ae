import Avalant.Trade.GateContracts

/-!
The requests of the trade engine's adapters, with the fields and checks that only some of the
venues read.

A request says what to trade on which market. What an adapter sends for it is a pure function of
the request and of what the venue answers to its lookups; the call ends in an error where nothing
is sent.
-/

namespace Avalant

namespace Engine

open GateTrade (Side)

inductive MarginMode where
  | isolated
  | cross
deriving DecidableEq

inductive MarketType where
  | futures
  | spot
deriving DecidableEq

/-- The side is one of the two; a margin mode that is neither is `none`. -/
structure OpenRequest extends GateTrade.OpenRequest where
  marketType : MarketType := .futures
  marginMode : Option MarginMode := none

/-- The credentials that the venues here read. -/
structure Creds where
  apiKey : String := ""
  apiSecret : String := ""
  passphrase : String := ""
  wallet : String := ""
deriving DecidableEq

def isLimit (o : GateTrade.OrderType) : Bool := o = .limit

def isConditional (o : GateTrade.OrderType) : Bool := o = .stopMarket ∨ o = .takeProfitMarket

def Side.opposite : Side → Side
  | .buy => .sell
  | .sell => .buy

theorem Side.opposite_eq_ite (side : Side) :
    Side.opposite side = if side = .sell then .buy else .sell := by
  cases side <;> rfl

/-- `strings.ToUpper` of a side. -/
def wireSide : Side → String
  | .buy => "BUY"
  | .sell => "SELL"

/-- What closing reads of a position. -/
structure OpenPosition where
  symbol : String
  side : Side
  quantity : ℚ
deriving DecidableEq

/-- `OpenRequest.Validate`. -/
def OpenRequest.validate (req : OpenRequest) : Except String Unit :=
  if req.symbol = "" then .error "symbol required"
  else if req.quantity ≤ 0 then .error "quantity must be > 0"
  else if isLimit req.orderType ∧ req.limitPrice ≤ 0 then
    .error "limit_price required for limit orders"
  else if isConditional req.orderType ∧ req.stopPrice ≤ 0 then
    .error "stop_price required for stop/take_profit orders"
  else if req.marketType = .spot then .ok ()
  else if req.leverage ≤ 0 then .error "leverage must be > 0"
  else if req.marginMode = none then .error "margin_mode must be isolated/cross"
  else .ok ()

theorem OpenRequest.quantity_pos {req : OpenRequest} (passed : req.validate = .ok ()) :
    0 < req.quantity := by
  unfold OpenRequest.validate at passed
  by_contra low
  split at passed
  · cases passed
  · rw [if_pos (not_lt.mp low)] at passed
    cases passed

theorem OpenRequest.limitPrice_pos {req : OpenRequest} (passed : req.validate = .ok ())
    (limit : req.orderType = .limit) : 0 < req.limitPrice := by
  unfold OpenRequest.validate at passed
  by_contra low
  split at passed
  · cases passed
  · split at passed
    · cases passed
    · rw [if_pos ⟨decide_eq_true limit, not_lt.mp low⟩] at passed
      cases passed

end Engine

end Avalant
