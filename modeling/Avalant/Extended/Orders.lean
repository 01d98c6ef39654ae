import Avalant.Lib.Ascii
import Avalant.Lib.Binary64
import Avalant.Lib.Go
import Avalant.Trade.Requests

/-!
The orders of the Extended adapter.

Market and limit orders are sent, and stop and take-profit orders are refused. The amounts of an
order are signed apart from its body, in whole units of the market's resolutions. Closing goes
through `PlaceOrder`, with a request that has neither a leverage nor a margin mode.

Requests, markets and prices have the decimals of their numbers, which are read as `float64`, and a
number in a body is the one that its text says.
-/

namespace Avalant

namespace Extended

open GateTrade (Side CloseRequest)
open Engine

def marketSlippage : ℚ := 75 / 10000

def signBufferDays : ℤ := 14

def toMarket (sym : String) : String :=
  let s := Ascii.upper (Ascii.trim sym)
  if Go.contains s "-" then s else s ++ "-USD"

/-- `marketMeta`. -/
structure Market where
  syntheticAssetId : String
  syntheticResolution : ℤ
  collateralAssetId : String
  collateralResolution : ℤ
  takerFee : ℚ
  minPriceChange : ℚ
  minOrderSize : ℚ
  minOrderSizeChange : ℚ
deriving DecidableEq

/-- An error with a text, or with the numbers or the text that it prints. -/
inductive Failure where
  | message (text : String)
  | belowMin (quantity min : ℚ) (market : String)
  | vault (passphrase : String)
deriving DecidableEq

/-- What `signOrder` signs. -/
structure Signed where
  positionId : ℕ
  syntheticAssetId : String
  baseAmount : ℤ
  collateralAssetId : String
  quoteAmount : ℤ
  feeAmount : ℤ
  feeAssetId : String
  expirationSec : ℤ
  salt : ℕ
deriving DecidableEq

/-- `orderBody`, without its id. -/
structure Order where
  market : String
  type : String
  side : String
  qty : ℚ
  price : ℚ
  reduceOnly : Bool := false
  postOnly : Bool := false
  timeInForce : String
  expiryEpochMillis : ℤ
  fee : ℚ
  nonce : ℕ
  selfTradeProtectionLevel : String := "ACCOUNT"
  signature : String × String
  starkKey : String
  collateralPosition : String
  collateralAmount : ℤ
  feeAmount : ℤ
  syntheticAmount : ℤ
deriving DecidableEq

/-- What a call reads besides its request and its credentials: the markets, the last price of one,
the signature for a secret and a public key, the clock in milliseconds and a random number. -/
structure Env where
  markets : Except String (String → Option Market)
  lastPrice : String → Except String ℚ
  signOrder : String → String → Signed → Except String (String × String)
  nowMs : ℤ
  randomNonce : ℕ

/-- The decimal places of a tick, twelve at most. -/
def decimals (tick : ℚ) : ℕ → ℕ
  | 0 => 0
  | fuel + 1 => if tick < 1 then decimals (Python.float (tick * 10)) fuel + 1 else 0

/-- The price of a market order: padded to the side, and rounded to the tick. -/
def marketPrice (mm : Market) (side : Side) (ref : ℚ) : ℚ :=
  let pad := Python.float (if side = .sell then 1 - marketSlippage else 1 + marketSlippage)
  let tick := Python.float (if mm.minPriceChange ≤ 0 then 1 / 100 else mm.minPriceChange)
  let px := Python.float (Python.float ref * pad)
  let steps := Python.roundHalfUp (Python.float (px / tick))
  Python.round (Python.float (steps * tick)) (decimals tick 12)

/-- The wire type of an order, with its time in force and its price. -/
structure Terms where
  orderType : String
  tif : String
  price : ℚ
deriving DecidableEq

def Env.terms (env : Env) (market : String) (mm : Market) (req : OpenRequest) :
    Except Failure Terms :=
  match req.orderType with
  | .limit => .ok ⟨"LIMIT", "GTT", Python.shortest req.limitPrice⟩
  | .stopMarket | .takeProfitMarket =>
      .error (.message ("stop/TP orders on Extended require TPSL action — not yet implemented; " ++
        "use market or limit"))
  | .market =>
      match env.lastPrice market with
      | .error _ => .error (.message "get market price for slippage padding")
      | .ok ref =>
          if ref ≤ 0 then .error (.message "get market price for slippage padding")
          else .ok ⟨"MARKET", "IOC", marketPrice mm req.side ref⟩

/-- The quantity cut down to a step of the market. -/
def orderQuantity (mm : Market) (quantity : ℚ) : ℚ :=
  if 0 < mm.minOrderSizeChange then
    let step := Python.float mm.minOrderSizeChange
    Python.float ((Python.float (Python.float quantity / step)).floor * step)
  else Python.float quantity

/-- The product of two `big.Float` keeps the 53 bits of the first. -/
def mulResolution (v : ℚ) (resolution : ℤ) : ℤ :=
  if resolution ≤ 0 then 0 else Python.trunc (Python.float (v * resolution))

/-- The amounts that are signed, in absolute value: the fee is one unit at least. -/
structure Amounts where
  base : ℤ
  quote : ℤ
  fee : ℤ
deriving DecidableEq

def amounts (mm : Market) (qty price : ℚ) : Amounts :=
  let notional := Python.float (qty * price)
  let fee := mulResolution (Python.float (notional * Python.float mm.takerFee))
    mm.collateralResolution
  { base := mulResolution qty mm.syntheticResolution
    quote := mulResolution notional mm.collateralResolution
    fee := if fee = 0 then 1 else fee }

/-- The base is negative for a sell, and the quote for a buy. -/
def signed (env : Env) (mm : Market) (side : Side) (a : Amounts) (positionId : ℕ) : Signed where
  positionId := positionId
  syntheticAssetId := mm.syntheticAssetId
  baseAmount := if side = .buy then a.base else -a.base
  collateralAssetId := mm.collateralAssetId
  quoteAmount := if side = .buy then -a.quote else a.quote
  feeAmount := a.fee
  feeAssetId := mm.collateralAssetId
  expirationSec := (env.nowMs + 28 * 24 * 3600 * 1000) / 1000 + signBufferDays * 24 * 3600
  salt := env.randomNonce

/-- `strconv.ParseUint`. -/
def parseUint (s : String) : Option ℕ :=
  if s = "" ∨ s.toList.any (fun c => !c.isDigit) then none
  else
    let n := Nat.ofDigitChars 10 s.toList 0
    if n < 2 ^ 64 then some n else none

/-- The part of `PlaceOrder` after its terms: the order that is signed and posted. -/
def Env.send (env : Env) (creds : Engine.Creds) (market : String) (mm : Market) (side : Side)
    (quantity : ℚ) (terms : Terms) : Except Failure Order := do
  let qty := orderQuantity mm quantity
  if 0 < mm.minOrderSize ∧ qty < Python.float mm.minOrderSize then
    .error (.belowMin qty mm.minOrderSize market)
  let a := amounts mm qty (Python.float terms.price)
  match parseUint creds.passphrase with
  | none => .error (.vault creds.passphrase)
  | some positionId =>
      match env.signOrder creds.apiSecret creds.wallet (signed env mm side a positionId) with
      | .error _ => .error (.message "sign order")
      | .ok signature =>
          return { market := market, type := terms.orderType, side := wireSide side,
                   qty := Python.shortest qty,
                   price := terms.price, timeInForce := terms.tif,
                   expiryEpochMillis := env.nowMs + 28 * 24 * 3600 * 1000, fee := Python.shortest mm.takerFee,
                   nonce := env.randomNonce, signature := signature,
                   starkKey := "0x" ++ Go.trimPrefix creds.wallet "0x",
                   collateralPosition := creds.passphrase, collateralAmount := a.quote,
                   feeAmount := a.fee, syntheticAmount := a.base }

/-- The order of `PlaceOrder`. -/
def Env.placeOrder (env : Env) (creds : Engine.Creds) (req : OpenRequest) :
    Except Failure Order := do
  req.validate.mapError Failure.message
  if creds.apiSecret = "" ∨ creds.wallet = "" ∨ creds.passphrase = "" then
    .error (.message ("Extended requires api_key + private_key + public_key + vault (passphrase)"))
  let markets ← env.markets.mapError Failure.message
  let market := toMarket req.symbol
  match markets market with
  | none => .error (.message ("Extended market " ++ market ++ " not listed"))
  | some mm => do
      let terms ← env.terms market mm req
      env.send creds market mm req.side req.quantity terms

/-! ## Positions -/

structure PositionRow where
  market : String
  side : String
  size : ℚ
deriving DecidableEq

def listPositions (rows : List PositionRow) : List OpenPosition :=
  rows.filterMap fun p =>
    if p.size = 0 then none
    else
      let short := Ascii.upper p.side = "SHORT" ∨ Ascii.upper p.side = "SELL"
      some ⟨Go.trimSuffix p.market "-USD", if short then .sell else .buy, |p.size|⟩

/-- What `ClosePosition` asks `PlaceOrder` for. -/
def closeRequest (symbol : String) (p : OpenPosition) : OpenRequest where
  symbol := symbol
  side := if p.side = .sell then .buy else .sell
  quantity := p.quantity
  leverage := 0

/-- The order that closes the first position, and none where there is no position. -/
def Env.closeFirst (env : Env) (creds : Engine.Creds) (symbol : String) :
    List OpenPosition → Except Failure (Option Order)
  | [] => .ok none
  | p :: _ => some <$> env.placeOrder creds (closeRequest symbol p)

/-- The order of `ClosePosition`. -/
def Env.closePosition (env : Env) (creds : Engine.Creds) (rows : Except String (List PositionRow))
    (req : CloseRequest) : Except Failure (Option Order) := do
  if req.symbol = "" then .error (.message "symbol required")
  let rows ← rows.mapError Failure.message
  env.closeFirst creds req.symbol (listPositions rows)

/-! ## Signs -/

theorem orderQuantity_nonneg (mm : Market) {quantity : ℚ} (nonneg : 0 ≤ quantity) :
    0 ≤ orderQuantity mm quantity := by
  unfold orderQuantity
  split
  case isTrue positive =>
    have step : 0 ≤ Python.float mm.minOrderSizeChange := Python.float_nonneg positive.le
    have steps : 0 ≤ Python.float (Python.float quantity / Python.float mm.minOrderSizeChange) :=
      Python.float_nonneg (div_nonneg (Python.float_nonneg nonneg) step)
    have whole : 0 ≤ (Python.float
        (Python.float quantity / Python.float mm.minOrderSizeChange)).floor :=
      Rat.le_floor_iff.mpr (by exact_mod_cast steps)
    exact Python.float_nonneg (mul_nonneg (by exact_mod_cast whole) step)
  case isFalse => exact Python.float_nonneg nonneg

theorem marketPrice_nonneg (mm : Market) (side : Side) {ref : ℚ} (nonneg : 0 ≤ ref) :
    0 ≤ marketPrice mm side ref := by
  have pad : (0 : ℚ) ≤ if side = .sell then 1 - marketSlippage else 1 + marketSlippage := by
    unfold marketSlippage
    split <;> norm_num
  have tick : 0 ≤ if mm.minPriceChange ≤ 0 then (1 / 100 : ℚ) else mm.minPriceChange := by
    split
    · norm_num
    · exact (not_le.mp ‹_›).le
  unfold marketPrice
  refine Python.round_nonneg _ (Python.float_nonneg (mul_nonneg ?_ (Python.float_nonneg tick)))
  have px := Python.float_nonneg (mul_nonneg (Python.float_nonneg nonneg) (Python.float_nonneg pad))
  have steps := Python.roundHalfUp_nonneg
    (Python.float_nonneg (div_nonneg px (Python.float_nonneg tick)))
  exact_mod_cast steps

/-! ## What is sent -/

variable {env : Env} {creds : Engine.Creds}

theorem Env.of_send {market : String} {mm : Market} {side : Side} {quantity : ℚ} {terms : Terms}
    {order : Order} (sent : env.send creds market mm side quantity terms = .ok order) :
    order.market = market ∧ order.type = terms.orderType ∧ order.timeInForce = terms.tif ∧
      order.price = terms.price := by
  unfold Env.send at sent
  dsimp only at sent
  split at sent
  · cases sent
  · split at sent
    · cases sent
    · split at sent
      · cases sent
      · cases sent
        exact ⟨rfl, rfl, rfl, rfl⟩

/-- A request that is sent has terms, and the order has them. -/
theorem Env.of_placeOrder {req : OpenRequest} {order : Order}
    (sent : env.placeOrder creds req = .ok order) :
    ∃ mm terms, env.terms (toMarket req.symbol) mm req = .ok terms ∧
      order.type = terms.orderType ∧ order.timeInForce = terms.tif ∧
      order.price = terms.price := by
  unfold Env.placeOrder at sent
  obtain ⟨_, -, sent⟩ := Go.bind_eq_ok sent
  dsimp only at sent
  split at sent
  · cases sent
  · obtain ⟨markets, -, sent⟩ := Go.bind_eq_ok sent
    cases listed : markets (toMarket req.symbol) with
    | none =>
        rw [listed] at sent
        cases sent
    | some mm =>
        rw [listed] at sent
        obtain ⟨terms, read, sent⟩ := Go.bind_eq_ok sent
        exact ⟨mm, terms, read, (Env.of_send sent).2⟩

theorem mem_listPositions {rows : List PositionRow} {p : OpenPosition}
    (listed : p ∈ listPositions rows) : 0 < p.quantity := by
  obtain ⟨row, -, read⟩ := List.mem_filterMap.mp listed
  split at read
  · cases read
  · cases read
    exact abs_pos.mpr ‹_›

/-- The request that closes a position does not pass the checks of a request. -/
theorem Env.placeOrder_closeRequest {symbol : String} {p : OpenPosition} (asked : symbol ≠ "")
    (positive : 0 < p.quantity) :
    env.placeOrder creds (closeRequest symbol p) = .error (.message "leverage must be > 0") := by
  have refused : (closeRequest symbol p).validate = .error "leverage must be > 0" := by
    simp [OpenRequest.validate, closeRequest, isLimit, isConditional, asked, positive]
  unfold Env.placeOrder
  rw [refused]
  rfl

/-- Closing sends nothing: it fails where there is a position. -/
theorem Env.closePosition_ne_some (rows : List PositionRow) (req : CloseRequest) (order : Order) :
    env.closePosition creds (.ok rows) req ≠ .ok (some order) := by
  intro sent
  unfold Env.closePosition at sent
  by_cases unasked : req.symbol = ""
  · rw [if_pos unasked] at sent
    cases sent
  · rw [if_neg unasked] at sent
    change env.closeFirst creds req.symbol (listPositions rows) = .ok (some order) at sent
    cases listed : listPositions rows with
    | nil =>
        rw [listed] at sent
        cases sent
    | cons p rest =>
        have positive := mem_listPositions (listed ▸ List.mem_cons_self)
        rw [listed] at sent
        change some <$> env.placeOrder creds (closeRequest req.symbol p) = _ at sent
        rw [Env.placeOrder_closeRequest unasked positive] at sent
        cases sent

end Extended

end Avalant
