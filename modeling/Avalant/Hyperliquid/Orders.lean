import Avalant.Lib.Digits
import Avalant.Trade.Requests

/-!
The orders of the Hyperliquid adapter.

Hyperliquid has no market orders. The adapter sends a limit order that is cancelled where it does
not fill, at the mid price padded to the side, and rounds the price to five significant digits. A
price may have six decimal places at most, which the rounding does not see to: below a hundredth, a
fifth digit is after the sixth place.

Arithmetic is exact, and a price is the number that its text reads as.
-/

namespace Avalant

namespace Hyperliquid

open GateTrade (Side CloseRequest)
open Engine

/-! ## Prices -/

/-- `hlPriceFormat`. -/
def hlPriceFormat (px : ℚ) : ℚ :=
  if px ≤ 0 then 0
  else
    let mag : ℚ := 10 ^ (Int.log 10 px - 4)
    Python.roundHalfUp (px / mag) * mag

/-- What the mid price is padded by for an order on a side. -/
def pad : Side → ℚ
  | .buy => 1.08
  | .sell => 0.92

theorem hlPriceFormat_of_pos {px : ℚ} (pos : 0 < px) :
    hlPriceFormat px = Digits.significant 5 px := by
  have exponent : Int.log 10 px - 4 = Int.log 10 px + 1 - (5 : ℕ) := by
    push_cast
    omega
  unfold hlPriceFormat
  rw [if_neg (not_le.mpr pos), exponent]
  rfl

theorem pad_pos (side : Side) : 0 < pad side := by
  cases side <;> norm_num [pad]

/-- Rounding moves a price by less than the padding does. -/
theorem abs_hlPriceFormat_sub {px : ℚ} (pos : 0 < px) :
    |hlPriceFormat px - px| ≤ px / 20000 := by
  have error := Digits.abs_significant_sub 5 pos
  have unit := Digits.lastUnit_mul_le 5 pos
  have scale : (10 : ℚ) ^ ((5 : ℕ) - 1 : ℤ) = 10000 := by norm_num
  rw [scale] at unit
  rw [hlPriceFormat_of_pos pos]
  linarith

/-- A price that the venue takes, and at which an order on the side fills at once. -/
structure MarketPrice (side : Side) (mid price : ℚ) : Prop where
  digits : Digits.HasDigits 5 price
  places : Digits.HasPlaces 6 price
  pos : 0 < price
  buy : side = .buy → mid ≤ price
  sell : side = .sell → price ≤ mid

/-- A price of a hundredth or more, or within half a unit of its fifth digit of six places. -/
def FitsPlaces (px : ℚ) : Prop :=
  1 / 100 ≤ px ∨ ∃ n : ℤ, n / 10 ^ 6 - Digits.lastUnit 5 px / 2 ≤ px ∧
    px < n / 10 ^ 6 + Digits.lastUnit 5 px / 2

theorem hasPlaces_hlPriceFormat_iff {px : ℚ} (pos : 0 < px) :
    Digits.HasPlaces 6 (hlPriceFormat px) ↔ FitsPlaces px := by
  rw [hlPriceFormat_of_pos pos, Digits.hasPlaces_significant_iff 5 6 pos]
  have hundredth : ((5 : ℕ) : ℤ) ≤ Int.log 10 px + 1 + (6 : ℕ) ↔ 1 / 100 ≤ px := by
    have log := Int.zpow_le_iff_le_log (b := 10) (by norm_num) (x := -2) pos
    have power : (((10 : ℕ) : ℚ)) ^ (-2 : ℤ) = 1 / 100 := by norm_num
    rw [power] at log
    rw [log]
    omega
  unfold FitsPlaces
  rw [hundredth]

theorem marketPrice_hlPriceFormat_iff (side : Side) {mid : ℚ} (pos : 0 < mid) :
    MarketPrice side mid (hlPriceFormat (mid * pad side)) ↔ FitsPlaces (mid * pad side) := by
  have padded : 0 < mid * pad side := mul_pos pos (pad_pos side)
  rw [← hasPlaces_hlPriceFormat_iff padded]
  refine ⟨MarketPrice.places, fun places => ?_⟩
  have near := abs_le.mp (abs_hlPriceFormat_sub padded)
  refine ⟨?_, places, ?_, ?_, ?_⟩
  · rw [hlPriceFormat_of_pos padded]
    exact Digits.hasDigits_significant 5 (by norm_num) padded
  · rw [hlPriceFormat_of_pos padded]
    exact Digits.significant_pos 5 (by norm_num) padded
  · rintro rfl
    simp only [pad] at near ⊢
    linarith [near.1]
  · rintro rfl
    simp only [pad] at near ⊢
    linarith [near.2]

/-! ## Orders -/

/-- The type box of an order. -/
inductive OrderKind where
  | limit (tif : String)
  | trigger (isMarket : Bool) (triggerPx : ℚ) (tpsl : String)
deriving DecidableEq

/-- The order of an action that is posted. -/
structure Order where
  asset : ℕ
  isBuy : Bool
  price : ℚ
  size : ℚ
  reduceOnly : Bool
  kind : OrderKind
deriving DecidableEq

def Order.side (order : Order) : Side := if order.isBuy then .buy else .sell

/-- `qtyString`: eight decimal places. -/
def qtyString (q : ℚ) : ℚ := Python.round q 8

section

-- the index of a coin, and its mid price
variable (assetIndex : String → Except String ℕ) (midPrice : String → Except String ℚ)

/-- The mid price for padding, with the error of the order that needs it. -/
def paddingMid (symbol message : String) : Except String ℚ :=
  match midPrice symbol with
  | .error _ => .error message
  | .ok mid => if mid ≤ 0 then .error message else .ok mid

/-- The order of `PlaceOrder`. -/
def placeOrder (req : OpenRequest) : Except String Order := do
  req.validate
  let idx ← assetIndex req.symbol
  if isConditional req.orderType then
    let tpsl := if req.orderType = .takeProfitMarket then "tp" else "sl"
    return { asset := idx, isBuy := req.side = .buy, price := req.stopPrice,
             size := qtyString req.quantity, reduceOnly := false,
             kind := .trigger true req.stopPrice tpsl }
  else if isLimit req.orderType then
    return { asset := idx, isBuy := req.side = .buy, price := req.limitPrice,
             size := qtyString req.quantity, reduceOnly := false, kind := .limit "Gtc" }
  else
    let mid ← paddingMid midPrice req.symbol "get mid price for slippage padding"
    let pad : ℚ := if req.side = .sell then 0.92 else 1.08
    return { asset := idx, isBuy := req.side = .buy, price := hlPriceFormat (mid * pad),
             size := qtyString req.quantity, reduceOnly := false, kind := .limit "Ioc" }

/-- A position in the state of the clearinghouse. -/
structure PositionRow where
  coin : String
  szi : ℚ

def listPositions (rows : List PositionRow) (symbol : String) : List OpenPosition :=
  rows.filterMap fun p =>
    if p.szi = 0 then none
    else if symbol ≠ "" ∧ Ascii.upper p.coin ≠ Ascii.upper symbol then none
    else some ⟨p.coin, if p.szi < 0 then .sell else .buy, |p.szi|⟩

/-- The order of `ClosePosition`, and none where there is no position. -/
def closePosition (rows : Except String (List PositionRow)) (req : CloseRequest) :
    Except String (Option Order) := do
  if req.symbol = "" then .error "symbol required"
  let rows ← rows
  match listPositions rows req.symbol with
  | [] => return none
  | p :: _ =>
      let idx ← assetIndex req.symbol
      let closeIsBuy : Bool := p.side = .sell
      let mid ← paddingMid midPrice req.symbol "get mid price for close slippage padding"
      let pad : ℚ := if !closeIsBuy then 0.92 else 1.08
      return some { asset := idx, isBuy := closeIsBuy, price := hlPriceFormat (mid * pad),
                    size := qtyString p.quantity, reduceOnly := true, kind := .limit "Ioc" }

/-- The orders that stand for a market order: of a market request, and of closing. -/
inductive MarketOrder : String → Order → Prop
  | opened {req : OpenRequest} {order : Order} (market : req.orderType = .market)
      (sent : placeOrder assetIndex midPrice req = .ok order) : MarketOrder req.symbol order
  | closed {req : CloseRequest} {rows : Except String (List PositionRow)} {order : Order}
      (sent : closePosition assetIndex midPrice rows req = .ok (some order)) :
      MarketOrder req.symbol order

variable {assetIndex midPrice}

theorem paddingMid_eq_ok {symbol message : String} {mid mid' : ℚ}
    (quoted : midPrice symbol = .ok mid) (padded : paddingMid midPrice symbol message = .ok mid') :
    mid' = mid := by
  unfold paddingMid at padded
  rw [quoted] at padded
  dsimp only at padded
  split at padded
  · cases padded
  · cases padded
    rfl

theorem placeOrder_market {req : OpenRequest} {order : Order} {mid : ℚ}
    (market : req.orderType = .market) (quoted : midPrice req.symbol = .ok mid)
    (sent : placeOrder assetIndex midPrice req = .ok order) :
    order.side = req.side ∧ order.price = hlPriceFormat (mid * pad req.side) := by
  unfold placeOrder at sent
  rcases Go.bind_eq_ok sent with ⟨_, -, sent⟩
  rcases Go.bind_eq_ok sent with ⟨idx, -, sent⟩
  rw [market, if_neg (by decide), if_neg (by decide)] at sent
  rcases Go.bind_eq_ok sent with ⟨mid', padded, sent⟩
  rw [paddingMid_eq_ok quoted padded] at sent
  cases sent
  cases side : req.side <;> simp [Order.side, pad]

/-- A valid market request for a listed coin is sent. -/
theorem placeOrder_of_market {req : OpenRequest} {idx : ℕ} {mid : ℚ}
    (valid : req.validate = .ok ()) (listed : assetIndex req.symbol = .ok idx)
    (market : req.orderType = .market) (quoted : midPrice req.symbol = .ok mid) (pos : 0 < mid) :
    placeOrder assetIndex midPrice req =
      .ok { asset := idx, isBuy := req.side = .buy, price := hlPriceFormat (mid * pad req.side),
            size := qtyString req.quantity, reduceOnly := false, kind := .limit "Ioc" } := by
  have padding : ∀ message, paddingMid midPrice req.symbol message = .ok mid := by
    intro message
    unfold paddingMid
    rw [quoted]
    exact if_neg (not_le.mpr pos)
  unfold placeOrder
  rw [valid, listed, padding, market]
  cases req.side <;> rfl

theorem closePosition_market {req : CloseRequest} {rows : Except String (List PositionRow)}
    {order : Order} {mid : ℚ} (quoted : midPrice req.symbol = .ok mid)
    (sent : closePosition assetIndex midPrice rows req = .ok (some order)) :
    order.price = hlPriceFormat (mid * pad order.side) := by
  unfold closePosition at sent
  split at sent
  · cases sent
  rcases Go.bind_eq_ok sent with ⟨rows, -, sent⟩
  split at sent
  · cases sent
  case h_2 p _ _ =>
    rcases Go.bind_eq_ok sent with ⟨idx, -, sent⟩
    rcases Go.bind_eq_ok sent with ⟨mid', padded, sent⟩
    rw [paddingMid_eq_ok quoted padded] at sent
    cases sent
    cases side : p.side <;> simp [Order.side, pad]

/-- The price of a market order is valid and aggressive exactly where the padded mid price has its
five digits within six places. -/
theorem marketPrice_iff {symbol : String} {order : Order} {mid : ℚ}
    (sent : MarketOrder assetIndex midPrice symbol order) (quoted : midPrice symbol = .ok mid)
    (pos : 0 < mid) :
    MarketPrice order.side mid order.price ↔ FitsPlaces (mid * pad order.side) := by
  cases sent with
  | opened market sent =>
      obtain ⟨side, price⟩ := placeOrder_market market quoted sent
      rw [price, side]
      exact marketPrice_hlPriceFormat_iff _ pos
  | closed sent =>
      rw [closePosition_market quoted sent]
      exact marketPrice_hlPriceFormat_iff _ pos

end

/-- A market order for 100 coins. -/
def marketBuy : OpenRequest :=
  { symbol := "COIN", side := .buy, quantity := 100, marginMode := some .cross }

theorem marketBuy_sent {mid : ℚ} (pos : 0 < mid) :
    placeOrder (fun _ => .ok 7) (fun _ => .ok mid) marketBuy =
      .ok { asset := 7, isBuy := true, price := hlPriceFormat (mid * pad .buy),
            size := qtyString 100, reduceOnly := false, kind := .limit "Ioc" } :=
  placeOrder_of_market (by decide +kernel) rfl rfl rfl pos

theorem marketPrice_iff_fifty :
    MarketPrice .buy 50 (hlPriceFormat (50 * pad .buy)) ↔ FitsPlaces (50 * pad .buy) := by
  have fifty : (0 : ℚ) < 50 := by norm_num
  have market : marketBuy.orderType = .market := rfl
  exact marketPrice_iff (.opened market (marketBuy_sent fifty)) rfl fifty

/-- At a mid price of 0.0012345, the fifth digit of a buying price is the seventh decimal. -/
theorem small_price_not_valid :
    ∃ order, placeOrder (fun _ => .ok 7) (fun _ => .ok (12345 / 10 ^ 7)) marketBuy = .ok order ∧
      order.price = 13333 / 10 ^ 7 ∧ ¬MarketPrice order.side (12345 / 10 ^ 7) order.price := by
  have log : Int.log 10 (12345 / 10 ^ 7 * pad .buy : ℚ) = -3 := by
    have pos : (0 : ℚ) < 12345 / 10 ^ 7 * pad .buy := by norm_num [pad]
    have low := (Int.zpow_le_iff_le_log (b := 10) (by norm_num) (x := -3) pos).mp
      (by norm_num [pad])
    have high := (Int.lt_zpow_iff_log_lt (b := 10) (by norm_num) (x := -2) pos).mp
      (by norm_num [pad])
    omega
  have price : hlPriceFormat (12345 / 10 ^ 7 * pad .buy) = 13333 / 10 ^ 7 := by
    unfold hlPriceFormat
    rw [log]
    decide +kernel
  refine ⟨_, marketBuy_sent (by norm_num), price, fun valid => ?_⟩
  obtain ⟨n, whole⟩ := valid.places
  change hlPriceFormat (12345 / 10 ^ 7 * pad .buy) * 10 ^ 6 = n at whole
  rw [price] at whole
  have tenths : (13333 : ℤ) = n * 10 := by
    have scaled : (13333 : ℚ) = n * 10 := by linarith
    exact_mod_cast scaled
  omega

end Hyperliquid

end Avalant
