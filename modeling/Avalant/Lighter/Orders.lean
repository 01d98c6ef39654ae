import Avalant.Lib.Ascii
import Avalant.Lib.Binary64
import Avalant.Lib.Go
import Avalant.Trade.Requests

/-!
The orders of the Lighter adapter.

An order is a transaction that is signed and sent. Amounts and prices are whole numbers of units of
the market. They are cut off a product of two `float64`, by conversions that are those of `amd64`
where they overflow. A request has the decimals of its numbers, which are read as `float64`. Opening
and closing build the transaction with one function, which sets neither a trigger price nor the flag
that an order only reduces.
-/

namespace Avalant

namespace Lighter

open GateTrade (Side CloseRequest)
open Engine

/-- A market with the factors of its amounts and prices. -/
structure Market where
  marketIndex : ℤ
  baseScale : ℚ
  priceScale : Int64
deriving DecidableEq

/-- A market in the answer of `orderBookDetails`. -/
structure Detail where
  symbol : String
  marketId : ℤ
  sizeDecimals : ℤ
  priceDecimals : ℤ
deriving DecidableEq

/-- Both factors are multiplied by ten as often as there are decimals. -/
def Detail.market (d : Detail) : Market where
  marketIndex := d.marketId
  baseScale := (fun bs => Python.float (bs * 10))^[d.sizeDecimals.toNat] 1
  priceScale := 10 ^ d.priceDecimals.toNat

/-- `CreateOrderTxReq`, with the options of its sender. -/
structure CreateOrder where
  marketIndex : ℤ
  clientOrderIndex : ℤ := 0
  baseAmount : ℤ
  price : ℕ
  isAsk : ℕ
  type : ℕ
  timeInForce : ℕ := 0
  reduceOnly : ℕ := 0
  triggerPrice : ℕ := 0
  orderExpiry : ℤ := 0
  fromAccountIndex : ℤ
  apiKeyIndex : ℕ
deriving DecidableEq

/-- What a call reads besides its request and its credentials. The key manager and the signature of
a transaction are those of the SDK. -/
structure Env where
  orderBookDetails : Except String (List Detail)
  newKeyManager : String → Except String Unit
  constructOrder : CreateOrder → Except String Unit

/-- The SDK takes every key and signs every transaction. -/
def Env.signing (details : List Detail) : Env := ⟨.ok details, fun _ => .ok (), fun _ => .ok ()⟩

/-- Of two markets with one name, the later one. -/
def Env.marketByName (env : Env) (symbol : String) : Except String Market := do
  let want := Ascii.upper (Ascii.trim symbol)
  let details ← env.orderBookDetails
  match details.reverse.find? fun d => Ascii.upper d.symbol = want with
  | some d => return d.market
  | none => .error ("lighter: market " ++ want ++ " not listed")

/-- `lighterKeyManager`. -/
def Env.keyManager (env : Env) (apiSecret : String) : Except String Unit :=
  let s := Go.trimPrefix (Ascii.trim apiSecret) "0x"
  if s.utf8ByteSize ≠ 80 then
    .error ("lighter: api_secret must be 80 hex chars (got " ++ toString s.utf8ByteSize ++ ")")
  else if ¬s.toList.all fun c => c.isDigit ∨ c.toLower ∈ ['a', 'b', 'c', 'd', 'e', 'f'] then
    .error "lighter: api_secret not hex"
  else env.newKeyManager s

def apiKeyIndex (creds : Engine.Creds) : ℕ :=
  match Go.atoi (Ascii.trim creds.passphrase) with
  | some n => if 0 ≤ n ∧ n ≤ 255 then n.toNat else 255
  | none => 255

/-- `int64(x)`. -/
def toInt64 (x : ℚ) : ℤ := GateTrade.toInt64 (Python.trunc x)

/-- `uint32(x)`: the low bits of `int64(x)`. -/
def toUint32 (x : ℚ) : ℕ := (toInt64 x % 2 ^ 32).toNat

/-- `req.LimitPrice * float64(mkt.PriceScale)`, before it is rounded. -/
def Market.scaledPrice (mkt : Market) (limitPrice : ℚ) : ℚ :=
  Python.float limitPrice * Python.float mkt.priceScale.toInt

/-- The transaction for a request on a market. -/
def createOrder (mkt : Market) (creds : Engine.Creds) (req : GateTrade.OpenRequest) :
    CreateOrder where
  marketIndex := mkt.marketIndex
  baseAmount := toInt64 (Python.float (Python.float req.quantity * mkt.baseScale))
  price := if isLimit req.orderType then toUint32 (Python.float (mkt.scaledPrice req.limitPrice)) else 0
  isAsk := if req.side = .sell then 1 else 0
  type := if isLimit req.orderType then 1 else 0
  fromAccountIndex := Go.parseInt (Ascii.trim creds.apiKey)
  apiKeyIndex := apiKeyIndex creds

def Env.buildSignedOrder (env : Env) (creds : Engine.Creds) (req : GateTrade.OpenRequest) :
    Except String CreateOrder := do
  let mkt ← env.marketByName req.symbol
  env.keyManager creds.apiSecret
  let tx := createOrder mkt creds req
  match env.constructOrder tx with
  | .error _ => .error "sign order"
  | .ok () => return tx

/-- The transaction of `PlaceOrder`. -/
def Env.placeOrder (env : Env) (creds : Engine.Creds) (req : OpenRequest) :
    Except String CreateOrder := do
  req.validate
  env.buildSignedOrder creds req.toOpenRequest

/-! ## Positions -/

structure PositionRow where
  symbol : String
  position : ℚ
  sign : ℤ
deriving DecidableEq

def listPositions (rows : List PositionRow) (symbol : String) : List OpenPosition :=
  rows.filterMap fun p =>
    if p.position = 0 then none
    else if Ascii.upper symbol ≠ "" ∧ Ascii.upper p.symbol ≠ Ascii.upper symbol then none
    else some ⟨Ascii.upper p.symbol, if p.sign ≠ 1 ∧ p.position ≤ 0 then .sell else .buy,
      |p.position|⟩

def accountIndex (creds : Engine.Creds) : Except String String :=
  let idx := Ascii.trim creds.apiKey
  if idx = "" then .error "lighter requires the numeric account_index in api_key"
  else
    match Go.atoi idx with
    | none => .error "lighter account_index must be an integer"
    | some _ => .ok idx

/-- What `ClosePosition` builds for the first position, by the sign of its quantity. -/
def closeRequest (symbol : String) (pos : OpenPosition) : GateTrade.OpenRequest where
  symbol := symbol
  side := if pos.quantity < 0 then .buy else .sell
  quantity := |pos.quantity|
  leverage := 0
  orderType := .market

/-- The transaction that closes the first position. -/
def Env.closeFirst (env : Env) (creds : Engine.Creds) (symbol : String) :
    List OpenPosition → Except String CreateOrder
  | [] => .error ("no open Lighter position for " ++ symbol)
  | pos :: _ => env.buildSignedOrder creds (closeRequest symbol pos)

/-- The transaction of `ClosePosition`. -/
def Env.closePosition (env : Env) (creds : Engine.Creds) (rows : Except String (List PositionRow))
    (req : CloseRequest) : Except String CreateOrder := do
  let _ ← accountIndex creds
  let rows ← rows
  env.closeFirst creds req.symbol (listPositions rows req.symbol)

/-! ## What is sent -/

variable {env : Env} {creds : Engine.Creds}

/-- A transaction is sent where the market is listed, the key is taken and the SDK signs it. -/
theorem Env.buildSignedOrder_eq_ok_iff {req : GateTrade.OpenRequest} {tx : CreateOrder} :
    env.buildSignedOrder creds req = .ok tx ↔
      ∃ mkt, env.marketByName req.symbol = .ok mkt ∧ env.keyManager creds.apiSecret = .ok () ∧
        env.constructOrder tx = .ok () ∧ tx = createOrder mkt creds req := by
  constructor
  · intro sent
    unfold Env.buildSignedOrder at sent
    obtain ⟨mkt, listed, sent⟩ := Go.bind_eq_ok sent
    obtain ⟨_, taken, sent⟩ := Go.bind_eq_ok sent
    dsimp only at sent
    split at sent
    · cases sent
    · rename_i signs
      cases sent
      exact ⟨mkt, listed, taken, signs, rfl⟩
  · rintro ⟨mkt, listed, taken, signs, rfl⟩
    unfold Env.buildSignedOrder
    rw [listed, taken]
    change (match env.constructOrder (createOrder mkt creds req) with
      | .error _ => Except.error "sign order"
      | .ok () => .ok (createOrder mkt creds req)) = _
    rw [signs]

theorem mem_listPositions {rows : List PositionRow} {symbol : String} {pos : OpenPosition}
    (listed : pos ∈ listPositions rows symbol) : 0 < pos.quantity := by
  obtain ⟨p, -, read⟩ := List.mem_filterMap.mp listed
  split at read
  · cases read
  · split at read
    · cases read
    · cases read
      exact abs_pos.mpr ‹_›

/-- Every close is a sell, and none of them has the flag that it only reduces. -/
theorem Env.of_closePosition {rows : List PositionRow} {req : CloseRequest} {tx : CreateOrder}
    (sent : env.closePosition creds (.ok rows) req = .ok tx) :
    tx.isAsk = 1 ∧ tx.reduceOnly = 0 := by
  unfold Env.closePosition at sent
  obtain ⟨_, -, sent⟩ := Go.bind_eq_ok sent
  change env.closeFirst creds req.symbol (listPositions rows req.symbol) = .ok tx at sent
  cases listed : listPositions rows req.symbol with
  | nil =>
      rw [listed] at sent
      cases sent
  | cons pos rest =>
      rw [listed] at sent
      obtain ⟨mkt, -, -, -, rfl⟩ := Env.buildSignedOrder_eq_ok_iff.mp sent
      have positive : 0 < pos.quantity := mem_listPositions (listed ▸ List.mem_cons_self)
      have ask : (closeRequest req.symbol pos).side = .sell := if_neg (not_lt.mpr positive.le)
      exact ⟨if_pos ask, rfl⟩

/-! ## Prices -/

/-- A conversion to `uint32` cuts off what is in its range. -/
theorem toUint32_of_floor {x : ℚ} {n : ℕ} (small : n < 2 ^ 32) (floor : x.floor = n) :
    toUint32 x = n := by
  have nonneg : 0 ≤ x := by
    have cut : (0 : ℤ) ≤ x.floor := by omega
    exact_mod_cast Rat.le_floor_iff.mp cut
  have fits : Go.int64 (n : ℤ) = some (n : ℤ) := if_pos ⟨by omega, by omega⟩
  unfold toUint32 toInt64 GateTrade.toInt64
  rw [Python.trunc_of_nonneg nonneg, floor, fits, Option.getD_some,
    Int.emod_eq_of_lt (by omega) (by omega), Int.toNat_natCast]

/-- Within one of a whole number, it is kept where the other one is not below it. -/
theorem toUint32_eq_iff_of_near {x : ℚ} {n : ℕ} (small : n < 2 ^ 32) (nonneg : 0 ≤ x)
    (near : |x - n| < 1) : toUint32 x = n ↔ (n : ℚ) ≤ x := by
  obtain ⟨above, below⟩ := abs_lt.mp near
  constructor
  · intro same
    by_contra short
    have some_units : 0 < n := by
      rcases n.eq_zero_or_pos with rfl | pos
      · exact absurd (by exact_mod_cast nonneg) short
      · exact pos
    have cut : x.floor = ((n - 1 : ℕ) : ℤ) := by
      have least : ((n - 1 : ℕ) : ℤ) ≤ x.floor := by
        rw [Rat.le_floor_iff]
        push_cast [Nat.cast_sub some_units]
        linarith
      have most : x.floor < (n : ℤ) := by
        rw [Rat.floor_lt_iff]
        exact_mod_cast not_le.mp short
      omega
    have kept : toUint32 x = n - 1 := toUint32_of_floor (by omega) cut
    omega
  · intro le
    refine toUint32_of_floor small ?_
    have least : (n : ℤ) ≤ x.floor := Rat.le_floor_iff.mpr (by exact_mod_cast le)
    have most : x.floor < (n : ℤ) + 1 := by
      rw [Rat.floor_lt_iff]
      push_cast
      linarith
    omega

/-- The product for a price that is read as `n` units is close to `n`. -/
theorem Market.abs_scaledPrice_sub_lt {mkt : Market} {price : ℚ} {n : ℕ} (some_units : 0 < n)
    (small : n < 2 ^ 32) (counts : 0 < mkt.priceScale.toInt)
    (reads : Python.float ((n : ℚ) / mkt.priceScale.toInt) = Python.float price) :
    |Python.float (mkt.scaledPrice price) - n| < 1 := by
  have scale : (0 : ℚ) < mkt.priceScale.toInt := by exact_mod_cast counts
  have most : (mkt.priceScale.toInt : ℚ) < 2 ^ 63 := by exact_mod_cast Int64.toInt_lt _
  have least : (1 : ℚ) ≤ mkt.priceScale.toInt := by exact_mod_cast counts
  have units : (1 : ℚ) ≤ n := by exact_mod_cast some_units
  have few : (n : ℚ) < 2 ^ 32 := by exact_mod_cast small
  have product : (n : ℚ) / mkt.priceScale.toInt * mkt.priceScale.toInt = n :=
    div_mul_cancel₀ _ scale.ne'
  have one : (2 : ℚ) ^ (-1021 : ℤ) ≤ 1 := zpow_le_one_of_nonpos₀ (by norm_num) (by norm_num)
  have one' : (2 : ℚ) ^ (-1022 : ℤ) ≤ 1 := zpow_le_one_of_nonpos₀ (by norm_num) (by norm_num)
  have tiny : (2 : ℚ) ^ (-1022 : ℤ) ≤ 2 ^ (-63 : ℤ) := zpow_le_zpow_right₀ (by norm_num) (by norm_num)
  have normal : (2 : ℚ) ^ (-1022 : ℤ) ≤ n / mkt.priceScale.toInt := by
    refine tiny.trans ?_
    rw [le_div_iff₀ scale]
    have inverse : (2 : ℚ) ^ (-63 : ℤ) = 1 / 2 ^ 63 := by norm_num
    rw [inverse]
    linarith
  have near := Python.abs_float_mul_sub_le normal (one'.trans least)
    (product.symm ▸ one.trans units)
  rw [reads, product] at near
  refine near.trans_lt ?_
  have fraction : (2 : ℚ) ^ (-51 : ℤ) = 1 / 2251799813685248 := by norm_num
  rw [fraction]
  linarith

/-- A price other than zero is read as a number of units only where there are some, and a factor
that has not overflowed. -/
theorem Market.counts_of_reads {mkt : Market} {price : ℚ} {n : ℕ} (nonneg : 0 ≤ price)
    (some_price : Python.float price ≠ 0)
    (reads : Python.float ((n : ℚ) / mkt.priceScale.toInt) = Python.float price) :
    0 < n ∧ 0 < mkt.priceScale.toInt := by
  have pos : 0 < Python.float price := (Python.float_nonneg nonneg).lt_of_ne some_price.symm
  rw [← reads] at pos
  have quotient : 0 < (n : ℚ) / mkt.priceScale.toInt := by
    by_contra none
    exact absurd (Python.float_nonpos (not_lt.mp none)) (not_le.mpr pos)
  rcases div_pos_iff.mp quotient with ⟨units, scale⟩ | ⟨negative, -⟩
  · exact ⟨by exact_mod_cast units, by exact_mod_cast scale⟩
  · exact absurd (Nat.cast_nonneg n) (not_le.mpr negative)

theorem Market.toUint32_scaledPrice_zero (mkt : Market) {price : ℚ}
    (zero : Python.float price = 0) :
    mkt.scaledPrice price = 0 ∧ toUint32 (Python.float (mkt.scaledPrice price)) = 0 := by
  have product : mkt.scaledPrice price = 0 := by
    unfold Market.scaledPrice
    rw [zero, zero_mul]
  refine ⟨product, ?_⟩
  rw [product, Python.float_zero]
  decide

/-- The price that is sent is read as the price that was asked for where that is a whole number of
units below `2 ^ 32` and the rounded product is not below it. -/
theorem Market.reads_scaledPrice_iff {mkt : Market} {price : ℚ} (nonneg : 0 ≤ price) :
    Python.float ((toUint32 (Python.float (mkt.scaledPrice price)) : ℚ) / mkt.priceScale.toInt) =
        Python.float price ↔
      ∃ n : ℕ, n < 2 ^ 32 ∧
        Python.float ((n : ℚ) / mkt.priceScale.toInt) = Python.float price ∧
        Python.Attains n (mkt.scaledPrice price) := by
  by_cases zero : Python.float price = 0
  · obtain ⟨product, cut⟩ := mkt.toUint32_scaledPrice_zero zero
    have reads : Python.float (((0 : ℕ) : ℚ) / mkt.priceScale.toInt) = Python.float price := by
      rw [Nat.cast_zero, zero_div, Python.float_zero, zero]
    refine iff_of_true (by rw [cut]; exact reads) ⟨0, by decide, reads, ?_⟩
    rw [← Python.le_float_iff_attains, product, Python.float_zero, Nat.cast_zero]
  · have scaled : ∀ n : ℕ, n < 2 ^ 32 →
        Python.float ((n : ℚ) / mkt.priceScale.toInt) = Python.float price →
          (toUint32 (Python.float (mkt.scaledPrice price)) = n ↔
            Python.Attains n (mkt.scaledPrice price)) := by
      intro n small reads
      obtain ⟨units, scale⟩ := Market.counts_of_reads nonneg zero reads
      have product : 0 ≤ mkt.scaledPrice price :=
        mul_nonneg (Python.float_nonneg nonneg)
          (Python.float_nonneg (by exact_mod_cast scale.le))
      rw [toUint32_eq_iff_of_near small (Python.float_nonneg product)
        (Market.abs_scaledPrice_sub_lt units small scale reads), Python.le_float_iff_attains]
    constructor
    · intro reads
      have small : toUint32 (Python.float (mkt.scaledPrice price)) < 2 ^ 32 := by
        have cut : toInt64 (Python.float (mkt.scaledPrice price)) % 2 ^ 32 < 2 ^ 32 :=
          Int.emod_lt_of_pos _ (by decide)
        unfold toUint32
        omega
      exact ⟨_, small, reads, (scaled _ small reads).mp rfl⟩
    · rintro ⟨n, small, reads, attained⟩
      rw [(scaled n small reads).mpr attained]
      exact reads

end Lighter

end Avalant
