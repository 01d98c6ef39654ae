import Avalant.Bybit.Orders
import Avalant.Kucoin.Orders

/-!
The side from which the market triggers a conditional order, on Bybit, Gate and KuCoin.

A stop follows the market, up for a buy and down for a sell, and a take-profit waits for it to come
the other way. The adapters set the direction by the type alone, as it is for a sell. Prices are
those of the market while an order is open.
-/

namespace Avalant

open GateTrade (Side)
open Engine (OpenRequest isConditional)

/-! ## First times -/

/-- The first place of a sequence where something holds. -/
def FirstAt {α : Type} (p : α → Prop) (xs : ℕ → α) (n : ℕ) : Prop :=
  p (xs n) ∧ ∀ m < n, ¬p (xs m)

/-- Two properties hold for the first time at the same places of all sequences where they are the
same. -/
theorem firstAt_congr_iff {α : Type} {p q : α → Prop} :
    (∀ xs n, FirstAt p xs n ↔ FirstAt q xs n) ↔ ∀ x, p x ↔ q x := by
  constructor
  · intro same x
    have atOnce : ∀ r : α → Prop, FirstAt r (fun _ => x) 0 ↔ r x := by
      intro r
      refine ⟨And.left, fun holds => ⟨holds, fun m before => ?_⟩⟩
      exact absurd before (Nat.not_lt_zero m)
    rw [← atOnce p, ← atOnce q]
    exact same _ 0
  · intro same xs n
    rw [funext fun x => propext (same x)]

/-! ## Directions -/

/-- The direction in which the price reaches a trigger. -/
inductive Direction where
  | rises
  | falls
deriving DecidableEq

def Direction.Reached (stop : ℚ) : Direction → ℚ → Prop
  | .rises, price => stop ≤ price
  | .falls, price => price ≤ stop

instance (stop : ℚ) (d : Direction) (price : ℚ) : Decidable (d.Reached stop price) := by
  cases d <;> exact inferInstanceAs (Decidable (_ ≤ _))

/-- A price above the trigger is reached in one direction only. -/
theorem Direction.reached_congr_iff (stop : ℚ) {d d' : Direction} :
    (∀ price, d.Reached stop price ↔ d'.Reached stop price) ↔ d = d' := by
  have above : ∀ e : Direction, e.Reached stop (stop + 1) ↔ e = .rises := by
    intro e
    cases e with
    | rises => exact iff_of_true (by unfold Reached; linarith) rfl
    | falls => exact iff_of_false (by unfold Reached; linarith) (by decide)
  constructor
  · intro same
    have both := same (stop + 1)
    rw [above, above] at both
    cases d <;> cases d' <;> simp_all
  · rintro rfl price
    exact Iff.rfl

/-- The direction that a conditional request waits for. -/
def awaited (req : OpenRequest) : Direction :=
  if req.orderType = .takeProfitMarket then
    if req.side = .buy then .falls else .rises
  else if req.side = .buy then .rises else .falls

/-- On every sequence of prices, the order is triggered where the request says. -/
def TriggersRight {Order : Type} (trigger : Order → Option (Direction × ℚ)) (order : Order)
    (req : OpenRequest) : Prop :=
  ∃ d stop, trigger order = some (d, stop) ∧
    ∀ prices n, FirstAt (d.Reached stop) prices n ↔
      FirstAt ((awaited req).Reached req.stopPrice) prices n

/-- The direction of a type, if the side is not looked at. -/
def typeDirection (req : OpenRequest) : Direction :=
  if req.orderType = .takeProfitMarket then .rises else .falls

theorem typeDirection_eq_iff (req : OpenRequest) :
    typeDirection req = awaited req ↔ req.side = .sell := by
  unfold typeDirection awaited
  cases req.side <;> by_cases profit : req.orderType = .takeProfitMarket <;> simp [profit]

/-- An order whose direction is that of its type is right for sells. -/
theorem triggersRight_iff_sell {Order : Type} {trigger : Order → Option (Direction × ℚ)}
    {order : Order} {req : OpenRequest}
    (read : trigger order = some (typeDirection req, req.stopPrice)) :
    TriggersRight trigger order req ↔ req.side = .sell := by
  rw [← typeDirection_eq_iff, ← Direction.reached_congr_iff req.stopPrice,
    ← firstAt_congr_iff]
  constructor
  · rintro ⟨d, stop, named, right⟩
    cases named.symm.trans read
    exact right
  · intro right
    exact ⟨_, _, read, right⟩

theorem conditional_cases {o : GateTrade.OrderType} (conditional : isConditional o = true) :
    o = .stopMarket ∨ o = .takeProfitMarket :=
  of_decide_eq_true conditional

/-! ## The venues -/

namespace BybitTrade

/-- `triggerDirection`: 1 where the price rises to the trigger, 2 where it falls to it. -/
def Order.direction (order : Order) : Option (Direction × ℚ) :=
  order.trigger.bind fun t =>
    if t.triggerDirection = 1 then some (.rises, t.triggerPrice)
    else if t.triggerDirection = 2 then some (.falls, t.triggerPrice)
    else none

theorem direction_orderBody (sym : String) (qty : ℚ) {req : OpenRequest}
    (conditional : isConditional req.orderType = true) :
    (orderBody sym qty req).direction = some (typeDirection req, req.stopPrice) := by
  unfold orderBody typeDirection
  rcases conditional_cases conditional with kind | kind
  · rw [kind]
    rfl
  · rw [kind]
    rfl

end BybitTrade

namespace GateTrade

/-- `rule`: 1 where the price is at least the trigger, 2 where it is at most the trigger. -/
def Body.direction : Body → Option (Direction × ℚ)
  | .order _ _ _ _ => none
  | .priceOrder _ _ triggerPrice rule =>
      if rule = 1 then some (.rises, triggerPrice)
      else if rule = 2 then some (.falls, triggerPrice)
      else none

theorem direction_orderBody (contract : String) (size : Size) {req : Engine.OpenRequest}
    (conditional : isConditional req.orderType = true) :
    (orderBody contract size req.toOpenRequest).direction =
      some (typeDirection req, req.stopPrice) := by
  unfold orderBody typeDirection
  rcases conditional_cases conditional with kind | kind
  · rw [kind]
    rfl
  · rw [kind]
    rfl

theorem of_placeOrder {contracts : List (String × Contract)} {post : Body → Except String Answer}
    {req : GateTrade.OpenRequest} {body : Body} {result : Result}
    (sent : placeOrder contracts post req = .ok (body, result)) :
    ∃ contract size, body = orderBody contract size req := by
  unfold placeOrder at sent
  obtain ⟨_, -, sent⟩ := Go.bind_eq_ok sent
  dsimp only at sent
  split at sent
  · cases sent
  · obtain ⟨size, -, sent⟩ := Go.bind_eq_ok sent
    obtain ⟨answer, -, sent⟩ := Go.bind_eq_ok sent
    cases sent
    exact ⟨_, size, rfl⟩

end GateTrade

namespace KucoinTrade

/-- `stop`: "up" where the price rises to the trigger, "down" where it drops to it. -/
def Order.direction (order : Order) : Option (Direction × ℚ) :=
  order.stop.bind fun s =>
    if s.stop = "up" then some (.rises, s.stopPrice)
    else if s.stop = "down" then some (.falls, s.stopPrice)
    else none

theorem direction_orderBody (uuid sym : String) (contracts : ℤ) {req : OpenRequest}
    (conditional : isConditional req.orderType = true) :
    (orderBody uuid sym contracts req).direction = some (typeDirection req, req.stopPrice) := by
  unfold orderBody typeDirection
  rcases conditional_cases conditional with kind | kind
  · rw [kind]
    rfl
  · rw [kind]
    rfl

end KucoinTrade

/-- A conditional order that is sent triggers on the right side where it is a sell. -/
theorem triggersRight_venues {req : OpenRequest}
    (conditional : isConditional req.orderType = true) :
    (∀ instrumentInfo order, BybitTrade.placeOrder instrumentInfo req = .ok order →
      (TriggersRight BybitTrade.Order.direction order req ↔ req.side = .sell)) ∧
    (∀ contracts post body result,
      GateTrade.placeOrder contracts post req.toOpenRequest = .ok (body, result) →
      (TriggersRight GateTrade.Body.direction body req ↔ req.side = .sell)) ∧
    ∀ instrumentInfo uuid order, KucoinTrade.placeOrder instrumentInfo uuid req = .ok order →
      (TriggersRight KucoinTrade.Order.direction order req ↔ req.side = .sell) := by
  refine ⟨?_, ?_, ?_⟩
  · intro instrumentInfo order sent
    obtain ⟨qty, rfl⟩ := BybitTrade.of_placeOrder sent
    exact triggersRight_iff_sell (BybitTrade.direction_orderBody _ _ conditional)
  · intro contracts post body result sent
    obtain ⟨contract, size, rfl⟩ := GateTrade.of_placeOrder sent
    exact triggersRight_iff_sell (GateTrade.direction_orderBody _ _ conditional)
  · intro instrumentInfo uuid order sent
    obtain ⟨contracts, rfl⟩ := KucoinTrade.of_placeOrder sent
    exact triggersRight_iff_sell (KucoinTrade.direction_orderBody _ _ _ conditional)

/-! ## A stop -/

def stopAt (side : Side) : OpenRequest :=
  { symbol := "BTC", side := side, quantity := 1, leverage := 5, orderType := .stopMarket,
    stopPrice := 60000, marginMode := some .isolated }

namespace BybitTrade

def btc (_ : String) : Except String SymbolInfo := .ok ⟨1 / 1000, 1 / 1000, "Trading"⟩

theorem sent_stopAt (side : Side) :
    placeOrder btc (stopAt side) = .ok (orderBody "BTCUSDT" 1 (stopAt side)) := by
  cases side <;> decide +kernel

end BybitTrade

namespace GateTrade

def btc : List (String × Contract) := [("BTC_USDT", ⟨1 / 1000, 1, false⟩)]

def accepted (_ : Body) : Except String Answer := .ok ⟨"1", 0, "open", 0⟩

/-- What is sent for a stop, a sell with a negative size. -/
def stopBody (side : Side) : Body :=
  orderBody "BTC_USDT" (.number (if side = .sell then -1000 else 1000)) (stopAt side).toOpenRequest

theorem sent_stopAt (side : Side) :
    ∃ result,
      placeOrder btc accepted (stopAt side).toOpenRequest = .ok (stopBody side, result) := by
  have sent : (placeOrder btc accepted (stopAt side).toOpenRequest).map Prod.fst =
      .ok (stopBody side) := by
    cases side <;> decide +kernel
  obtain ⟨⟨body, result⟩, placed, rfl⟩ := Go.map_eq_ok sent
  exact ⟨result, placed⟩

end GateTrade

namespace KucoinTrade

def btc (_ : String) : Except String InstrumentInfo := .ok ⟨1 / 1000, 1⟩

theorem sent_stopAt (side : Side) :
    placeOrder btc "id" (stopAt side) = .ok (orderBody "id" "XBTUSDTM" 1000 (stopAt side)) := by
  cases side <;> decide +kernel

end KucoinTrade

theorem triggersRight_stopAt_sell :
    TriggersRight BybitTrade.Order.direction (BybitTrade.orderBody "BTCUSDT" 1 (stopAt .sell))
        (stopAt .sell) ∧
      TriggersRight GateTrade.Body.direction (GateTrade.stopBody .sell) (stopAt .sell) ∧
      TriggersRight KucoinTrade.Order.direction
        (KucoinTrade.orderBody "id" "XBTUSDTM" 1000 (stopAt .sell)) (stopAt .sell) := by
  have venues := triggersRight_venues (rfl : isConditional (stopAt .sell).orderType = true)
  obtain ⟨result, sent⟩ := GateTrade.sent_stopAt .sell
  exact ⟨(venues.1 _ _ (BybitTrade.sent_stopAt .sell)).mpr rfl,
    (venues.2.1 _ _ _ _ sent).mpr rfl,
    (venues.2.2 _ _ _ (KucoinTrade.sent_stopAt .sell)).mpr rfl⟩

/-- A direction in which a stop buy at 60000 is triggered by a market that stays at 59000. -/
theorem not_triggersRight_of_falls {Order : Type} {trigger : Order → Option (Direction × ℚ)}
    {order : Order} (read : trigger order = some (.falls, 60000)) :
    FirstAt (Direction.falls.Reached 60000) (fun _ => 59000) 0 ∧
      ¬TriggersRight trigger order (stopAt .buy) := by
  have atOnce : FirstAt (Direction.falls.Reached 60000) (fun _ => 59000) 0 :=
    ⟨by decide +kernel, fun m before => absurd before (Nat.not_lt_zero m)⟩
  refine ⟨atOnce, ?_⟩
  rintro ⟨d, stop, named, right⟩
  cases named.symm.trans read
  have reached : (awaited (stopAt .buy)).Reached 60000 59000 :=
    ((right (fun _ => 59000) 0).mp atOnce).1
  exact absurd reached (by decide +kernel)

/-- A stop buy at 60000 is sent by all three, and triggered at once by a market at 59000. -/
theorem stop_buy_triggers_at_once :
    (∃ order, BybitTrade.placeOrder BybitTrade.btc (stopAt .buy) = .ok order ∧
      order.direction = some (.falls, 60000) ∧
      ¬TriggersRight BybitTrade.Order.direction order (stopAt .buy)) ∧
    (∃ body result, GateTrade.placeOrder GateTrade.btc GateTrade.accepted
        (stopAt .buy).toOpenRequest = .ok (body, result) ∧
      body.direction = some (.falls, 60000) ∧
      ¬TriggersRight GateTrade.Body.direction body (stopAt .buy)) ∧
    (∃ order, KucoinTrade.placeOrder KucoinTrade.btc "id" (stopAt .buy) = .ok order ∧
      order.direction = some (.falls, 60000) ∧
      ¬TriggersRight KucoinTrade.Order.direction order (stopAt .buy)) ∧
    FirstAt (Direction.falls.Reached 60000) (fun _ => 59000) 0 := by
  obtain ⟨result, sent⟩ := GateTrade.sent_stopAt .buy
  have bybit : (BybitTrade.orderBody "BTCUSDT" 1 (stopAt .buy)).direction =
      some (.falls, 60000) := rfl
  have gate : (GateTrade.stopBody .buy).direction = some (.falls, 60000) := rfl
  have kucoin : (KucoinTrade.orderBody "id" "XBTUSDTM" 1000 (stopAt .buy)).direction =
      some (.falls, 60000) := rfl
  exact ⟨⟨_, BybitTrade.sent_stopAt .buy, bybit, (not_triggersRight_of_falls bybit).2⟩,
    ⟨_, result, sent, gate, (not_triggersRight_of_falls gate).2⟩,
    ⟨_, KucoinTrade.sent_stopAt .buy, kucoin, (not_triggersRight_of_falls kucoin).2⟩,
    (not_triggersRight_of_falls bybit).1⟩

end Avalant
