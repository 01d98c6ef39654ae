import Avalant.Extended.Orders
import Avalant.Hyperliquid.Orders
import Avalant.Lighter.Orders
import Avalant.Paradex.Orders

/-!
Orders with a price, on Paradex, Lighter, Extended and Hyperliquid: limit orders, stops and
take-profits. An adapter that has no branch for one of them sends a market order.

Prices are compared as `float64`, as which a request has them.
-/

namespace Avalant

open Engine (OpenRequest)

/-- The price that a request names. -/
def namedPrice (req : OpenRequest) : ℚ :=
  Python.float (if req.orderType = .limit then req.limitPrice else req.stopPrice)

/-- What is sent is of the type that the request asks for, at the price that it names. -/
def KeepsPrice {ε Order : Type} (terms : Order → Option (GateTrade.OrderType × ℚ))
    (sent : Except ε Order) (req : OpenRequest) : Prop :=
  ∀ order, sent = .ok order → terms order = some (req.orderType, namedPrice req)

section

variable {req : OpenRequest}

/-! ## Paradex -/

namespace Paradex

/-- A body has no price. -/
def Order.terms (order : Order) : Option (GateTrade.OrderType × ℚ) :=
  if order.type = "MARKET" then some (.market, 0) else none

/-- The order is signed, and there is a token to post it with. -/
def Env.Posts (env : Env) (req : OpenRequest) : Prop :=
  (∃ signature, env.signTypedData
    (orderMessage env.now (toParadexMarket req.symbol) req.side (Python.float req.quantity)) =
      .ok signature) ∧
    env.ensureJWT = .ok ()

theorem keepsPrice_iff (env : Env) (valid : req.validate = .ok ())
    (priced : req.orderType ≠ .market) :
    KeepsPrice Order.terms (env.placeOrder req) req ↔ ¬env.Posts req := by
  have sends : env.placeOrder req =
      env.send (toParadexMarket req.symbol) req.side (Python.float req.quantity) [] := by
    unfold Env.placeOrder
    rw [valid]
    rfl
  unfold Env.Posts
  rw [sends, ← Env.exists_send_iff]
  constructor
  · rintro keeps ⟨order, sent⟩
    have terms := keeps order sent
    unfold Order.terms at terms
    rw [(Env.of_send sent).2.2.2.1, if_pos rfl] at terms
    exact priced (Prod.mk.inj (Option.some.inj terms)).1.symm
  · intro unposted order sent
    exact absurd ⟨order, sent⟩ unposted

end Paradex

/-! ## Lighter -/

namespace Lighter

/-- Type 1 is a limit order at the price in units of the market, and type 0 a market order. -/
def Env.terms (env : Env) (symbol : String) (tx : CreateOrder) : Option (GateTrade.OrderType × ℚ) :=
  if tx.type = 1 then
    (env.marketByName symbol).toOption.map fun mkt =>
      (.limit, Python.float (tx.price / mkt.priceScale.toInt))
  else some (.market, 0)

/-- A limit order at a price that is read as a number of units which the market's `uint32` can say,
and whose product with the factor of the market does not come out below that number. -/
def Market.SaysPrice (mkt : Market) (req : OpenRequest) : Prop :=
  req.orderType = .limit ∧ ∃ n : ℕ, n < 2 ^ 32 ∧
    Python.float ((n : ℚ) / mkt.priceScale.toInt) = Python.float req.limitPrice ∧
    Python.Attains n (mkt.scaledPrice req.limitPrice)

/-- Where the order is sent, the market can say its price. -/
def Env.SaysPrice (env : Env) (creds : Engine.Creds) (req : OpenRequest) : Prop :=
  ∀ mkt, env.marketByName req.symbol = .ok mkt → env.keyManager creds.apiSecret = .ok () →
    env.constructOrder (createOrder mkt creds req.toOpenRequest) = .ok () → mkt.SaysPrice req

/-- What the transaction for a priced request says. -/
theorem terms_createOrder {env : Env} {mkt : Market}
    (listed : env.marketByName req.symbol = .ok mkt) (creds : Engine.Creds)
    (valid : req.validate = .ok ()) (priced : req.orderType ≠ .market) :
    env.terms req.symbol (createOrder mkt creds req.toOpenRequest) =
        some (req.orderType, namedPrice req) ↔
      mkt.SaysPrice req := by
  unfold Env.terms namedPrice Market.SaysPrice
  rw [listed]
  by_cases limit : req.orderType = .limit
  · have isLimit : Engine.isLimit req.orderType = true := decide_eq_true limit
    have type_eq : (createOrder mkt creds req.toOpenRequest).type = 1 := if_pos isLimit
    have price_eq : (createOrder mkt creds req.toOpenRequest).price =
        toUint32 (Python.float (mkt.scaledPrice req.limitPrice)) := if_pos isLimit
    have nonneg : 0 ≤ req.limitPrice := (req.limitPrice_pos valid limit).le
    rw [if_pos type_eq, if_pos limit, price_eq, limit, ← Market.reads_scaledPrice_iff nonneg]
    simp [Except.toOption]
  · have isLimit : ¬Engine.isLimit req.orderType = true := by simpa [Engine.isLimit] using limit
    have type_eq : (createOrder mkt creds req.toOpenRequest).type = 0 := if_neg isLimit
    rw [type_eq, if_neg (by decide)]
    refine iff_of_false (fun terms => ?_) fun both => limit both.1
    exact priced (Prod.mk.inj (Option.some.inj terms)).1.symm

theorem keepsPrice_iff (env : Env) (creds : Engine.Creds) (valid : req.validate = .ok ())
    (priced : req.orderType ≠ .market) :
    KeepsPrice (env.terms req.symbol) (env.placeOrder creds req) req ↔ env.SaysPrice creds req := by
  have sends : env.placeOrder creds req = env.buildSignedOrder creds req.toOpenRequest := by
    unfold Env.placeOrder
    rw [valid]
    rfl
  rw [sends]
  constructor
  · intro keeps mkt listed taken signs
    refine (terms_createOrder listed creds valid priced).mp (keeps _ ?_)
    exact Env.buildSignedOrder_eq_ok_iff.mpr ⟨mkt, listed, taken, signs, rfl⟩
  · intro fits tx sent
    obtain ⟨mkt, listed, taken, signs, rfl⟩ := Env.buildSignedOrder_eq_ok_iff.mp sent
    exact (terms_createOrder listed creds valid priced).mpr (fits mkt listed taken signs)

end Lighter

/-! ## Extended -/

namespace Extended

def Order.terms (order : Order) : Option (GateTrade.OrderType × ℚ) :=
  if order.type = "LIMIT" then some (.limit, Python.float order.price)
  else if order.type = "MARKET" then some (.market, 0)
  else none

theorem keepsPrice (env : Env) (creds : Engine.Creds) (priced : req.orderType ≠ .market) :
    KeepsPrice Order.terms (env.placeOrder creds req) req := by
  intro order sent
  obtain ⟨mm, terms, read, type_eq, -, price_eq⟩ := Env.of_placeOrder sent
  unfold Env.terms at read
  unfold Order.terms namedPrice
  rw [type_eq, price_eq]
  cases kind : req.orderType with
  | market => exact absurd kind priced
  | limit =>
      rw [kind] at read
      cases read
      rw [Python.float_shortest]
      rfl
  | stopMarket =>
      rw [kind] at read
      cases read
  | takeProfitMarket =>
      rw [kind] at read
      cases read

end Extended

/-! ## Hyperliquid -/

namespace Hyperliquid

/-- An order that waits is a limit order, one that is cancelled where it does not fill stands for a
market order, and a trigger has the price that triggers it. -/
def Order.terms (order : Order) : Option (GateTrade.OrderType × ℚ) :=
  match order.kind with
  | .limit tif => some (if tif = "Gtc" then (.limit, Python.float order.price) else (.market, 0))
  | .trigger _ triggerPx tpsl =>
      some (if tpsl = "tp" then .takeProfitMarket else .stopMarket, Python.float triggerPx)

theorem keepsPrice (assetIndex : String → Except String ℕ) (midPrice : String → Except String ℚ)
    (priced : req.orderType ≠ .market) :
    KeepsPrice Order.terms (placeOrder assetIndex midPrice req) req := by
  intro order sent
  unfold placeOrder at sent
  obtain ⟨_, -, sent⟩ := Go.bind_eq_ok sent
  obtain ⟨idx, -, sent⟩ := Go.bind_eq_ok sent
  unfold Order.terms namedPrice
  cases kind : req.orderType with
  | market => exact absurd kind priced
  | limit =>
      rw [kind] at sent
      cases sent
      rfl
  | stopMarket =>
      rw [kind] at sent
      cases sent
      rfl
  | takeProfitMarket =>
      rw [kind] at sent
      cases sent
      rfl

end Hyperliquid

/-! ## All four -/

/-- On Extended and Hyperliquid a priced order keeps its price. On Paradex it does where nothing is
posted, and on Lighter where it is a limit order whose price the market can say. -/
theorem keepsPrice_venues (valid : req.validate = .ok ()) (priced : req.orderType ≠ .market) :
    (∀ env : Paradex.Env,
      KeepsPrice Paradex.Order.terms (env.placeOrder req) req ↔ ¬env.Posts req) ∧
    (∀ (env : Lighter.Env) creds,
      KeepsPrice (env.terms req.symbol) (env.placeOrder creds req) req ↔
        env.SaysPrice creds req) ∧
    (∀ (env : Extended.Env) creds,
      KeepsPrice Extended.Order.terms (env.placeOrder creds req) req) ∧
    ∀ assetIndex midPrice,
      KeepsPrice Hyperliquid.Order.terms (Hyperliquid.placeOrder assetIndex midPrice req) req :=
  ⟨fun env => Paradex.keepsPrice_iff env valid priced,
    fun env creds => Lighter.keepsPrice_iff env creds valid priced,
    fun env creds => Extended.keepsPrice env creds priced,
    fun assetIndex midPrice => Hyperliquid.keepsPrice assetIndex midPrice priced⟩

end

/-! ## Requests -/

def limitBuy : OpenRequest :=
  { symbol := "BTC", side := .buy, quantity := 1, leverage := 5, orderType := .limit,
    limitPrice := 50000, marginMode := some .isolated }

def stopSell : OpenRequest :=
  { symbol := "BTC", side := .sell, quantity := 1, leverage := 5, orderType := .stopMarket,
    stopPrice := 45000, marginMode := some .isolated }

namespace Lighter

def btc : Detail := ⟨"BTC", 0, 4, 1⟩

def hexKey : Engine.Creds := { apiKey := "7", apiSecret := String.ofList (List.replicate 80 '0') }

end Lighter

theorem keepsPrice_limitBuy :
    KeepsPrice ((Lighter.Env.signing [Lighter.btc]).terms "BTC")
        ((Lighter.Env.signing [Lighter.btc]).placeOrder Lighter.hexKey limitBuy) limitBuy ∧
      KeepsPrice Hyperliquid.Order.terms
        (Hyperliquid.placeOrder (fun _ => .ok 0) (fun _ => .ok 50000) limitBuy) limitBuy := by
  have venues := keepsPrice_venues (by decide +kernel : limitBuy.validate = .ok ()) (by decide)
  refine ⟨(venues.2.1 _ _).mpr ?_, venues.2.2.2 _ _⟩
  intro mkt listed _ _
  have same : (Lighter.Env.signing [Lighter.btc]).marketByName "BTC" = .ok Lighter.btc.market := by
    decide +kernel
  cases listed.symm.trans same
  exact ⟨rfl, 500000, by decide, by decide +kernel, by decide +kernel⟩

/-- A limit order on Paradex and a stop on Lighter are sent as market orders. -/
theorem priced_becomes_market :
    (∃ order, Paradex.Env.signing.placeOrder limitBuy = .ok order ∧
      order.terms = some (.market, 0)) ∧
    ¬KeepsPrice Paradex.Order.terms (Paradex.Env.signing.placeOrder limitBuy) limitBuy ∧
    (∃ tx, (Lighter.Env.signing [Lighter.btc]).placeOrder Lighter.hexKey stopSell = .ok tx ∧
      (Lighter.Env.signing [Lighter.btc]).terms "BTC" tx = some (.market, 0)) ∧
    ¬KeepsPrice ((Lighter.Env.signing [Lighter.btc]).terms "BTC")
      ((Lighter.Env.signing [Lighter.btc]).placeOrder Lighter.hexKey stopSell) stopSell := by
  have paradex : (Paradex.Env.signing.placeOrder limitBuy).map Paradex.Order.terms =
      .ok (some (.market, 0)) := by decide +kernel
  have lighter : ((Lighter.Env.signing [Lighter.btc]).placeOrder Lighter.hexKey stopSell).map
      ((Lighter.Env.signing [Lighter.btc]).terms "BTC") = .ok (some (.market, 0)) := by
    decide +kernel
  obtain ⟨order, sent, terms⟩ := Go.map_eq_ok paradex
  obtain ⟨tx, sent', terms'⟩ := Go.map_eq_ok lighter
  refine ⟨⟨order, sent, terms⟩, fun keeps => ?_, ⟨tx, sent', terms'⟩, fun keeps => ?_⟩
  · cases terms.symm.trans (keeps order sent)
  · cases terms'.symm.trans (keeps tx sent')

end Avalant
