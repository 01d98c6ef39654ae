import Avalant.Extended.Orders
import Avalant.Paradex.Orders

/-!
What Paradex and Extended sign of an order, and what they send of it.

The amounts are counted in whole units for the signature, and written out as decimals in the body.
Both adapters multiply a `float64` by the units, round the product to 53 bits and cut it off. In the
body Paradex rounds the `float64` to eight places, and Extended writes the shortest decimal of it.
-/

namespace Avalant

open GateTrade (Side)
open Engine (OpenRequest wireSide)

/-! ## Paradex -/

namespace Paradex

/-- The message that `PlaceOrder` signs. -/
def Env.message (env : Env) (req : OpenRequest) : OrderMessage :=
  orderMessage env.now (toParadexMarket req.symbol) req.side (Python.float req.quantity)

/-- The size in units of 10⁻⁸, before it is rounded. -/
def units (quantity : ℚ) : ℚ := Python.float quantity * 10 ^ 8

/-- The size, rounded to 53 bits and cut off, is the whole number of units next to it. -/
def SizeKept (quantity : ℚ) : Prop :=
  let nearest := Python.roundHalfEven (units quantity)
  Python.CutsBetween nearest nearest (units quantity)

instance (quantity : ℚ) : Decidable (SizeKept quantity) :=
  inferInstanceAs (Decidable (Python.CutsBetween _ _ _))

/-- A body denotes what a message says, for a side. The size of a message is in units of 10⁻⁸, and
the price 0 of one is that of a body without a price. -/
structure Order.Denotes (order : Order) (message : OrderMessage) (side : Side) : Prop where
  market : order.market = message.market
  bodySide : order.side = wireSide side
  signedSide : message.side = chainSide side
  type : order.type = message.orderType
  size : (message.size : ℚ) = order.size * 10 ^ 8
  price : message.price = 0
  timestamp : order.signatureTimestamp = message.timestamp

/-- The signature of a body is that of the message, which says the same. -/
def Env.SignsWhatItSends (env : Env) (req : OpenRequest) (order : Order) : Prop :=
  env.signTypedData (env.message req) = .ok order.signature ∧
    order.Denotes (env.message req) req.side

variable {env : Env} {req : OpenRequest} {order : Order}

/-- The order that is posted, and its signature. -/
theorem Env.placeOrder_eq (sent : env.placeOrder req = .ok order) :
    req.validate = .ok () ∧ ∃ signature, env.signTypedData (env.message req) = .ok signature ∧
      order = { market := toParadexMarket req.symbol, side := wireSide req.side,
                size := qtyString (Python.float req.quantity), type := "MARKET", instruction := "GTC",
                flags := [], signature := signature, signatureTimestamp := env.now } := by
  unfold Env.placeOrder at sent
  obtain ⟨_, valid, sent⟩ := Go.bind_eq_ok sent
  refine ⟨valid, ?_⟩
  unfold Env.send at sent
  cases signed : env.signTypedData (env.message req) with
  | error e =>
      unfold Env.message at signed
      rw [signed] at sent
      cases sent
  | ok signature =>
      unfold Env.message at signed
      rw [signed] at sent
      obtain ⟨_, -, sent⟩ := Go.bind_eq_ok sent
      cases sent
      exact ⟨signature, rfl, rfl⟩

theorem chainQuantum_eq_iff {q : ℚ} (positive : 0 < q) :
    (chainQuantum (Python.float q) : ℚ) = qtyString (Python.float q) * 10 ^ 8 ↔ SizeKept q := by
  have nonneg : 0 ≤ units q := mul_nonneg (Python.float_nonneg positive.le) (by norm_num)
  have scale : (10 : ℚ) ^ 8 ≠ 0 := by norm_num
  unfold SizeKept
  rw [← Python.trunc_float_eq_iff nonneg]
  unfold chainQuantum qtyString Python.round units
  rw [div_mul_cancel₀ _ scale, Int.cast_inj]

theorem signsWhatItSends_iff (sent : env.placeOrder req = .ok order) :
    env.SignsWhatItSends req order ↔ SizeKept req.quantity := by
  obtain ⟨valid, signature, signed, rfl⟩ := Env.placeOrder_eq sent
  have positive : 0 < req.quantity := req.quantity_pos valid
  rw [← chainQuantum_eq_iff positive]
  constructor
  · exact fun same => same.2.size
  · exact fun size => ⟨signed, rfl, rfl, rfl, rfl, size, rfl, rfl⟩

/-- The product for 0.29 falls short of 29000000 by more than half a unit in its last place. -/
example : ¬SizeKept (29 / 100) := by decide +kernel

end Paradex

/-! ## Extended -/

namespace Extended

/-- Both resolutions of a market count whole units. -/
structure Market.Counts (mm : Market) : Prop where
  synthetic : 0 ≤ mm.syntheticResolution
  collateral : 0 ≤ mm.collateralResolution

/-- What is signed for a quantity and a body with a price. -/
def Env.signedFor (env : Env) (creds : Engine.Creds) (mm : Market) (side : Side) (quantity : ℚ)
    (order : Order) : Option Signed :=
  (parseUint creds.passphrase).map
    (signed env mm side (amounts mm (orderQuantity mm quantity) (Python.float order.price)))

/-- The base is what a buy gets and a sell gives. -/
def sign : Side → ℤ
  | .buy => 1
  | .sell => -1

/-- A body denotes the amounts that are signed, the quote up to one unit. -/
structure Order.Denotes (order : Order) (mm : Market) (s : Signed) (side : Side) : Prop where
  bodySide : order.side = wireSide side
  base : (s.baseAmount : ℚ) = sign side * (order.qty * mm.syntheticResolution)
  quote : |(s.quoteAmount : ℚ) - -sign side * (order.qty * order.price * mm.collateralResolution)| ≤ 1

/-- The signature of a body is that of the amounts, which it denotes. -/
def Env.SignsWhatItSends (env : Env) (creds : Engine.Creds) (mm : Market) (req : OpenRequest)
    (order : Order) : Prop :=
  ∃ s, env.signedFor creds mm req.side req.quantity order = some s ∧
    env.signOrder creds.apiSecret creds.wallet s = .ok order.signature ∧
    order.Denotes mm s req.side

/-- The decimal of the quantity is a whole number of units of the market, and the product of the
`float64` comes out at it. -/
def BaseKept (mm : Market) (quantity : ℚ) : Prop :=
  let qty := orderQuantity mm quantity
  ∃ n : ℤ, Python.shortest qty * mm.syntheticResolution = n ∧
    Python.CutsBetween n n (qty * mm.syntheticResolution)

/-- The product of the `float64` comes out at a whole number of units next to the quote of the
decimals, or one further at most. -/
def QuoteKept (mm : Market) (quantity price : ℚ) : Prop :=
  let qty := orderQuantity mm quantity
  let quote := Python.shortest qty * price * mm.collateralResolution
  Python.CutsBetween (quote.ceil - 1) (quote.floor + 1)
    (Python.float (qty * Python.float price) * mm.collateralResolution)

instance (mm : Market) (quantity price : ℚ) : Decidable (QuoteKept mm quantity price) :=
  inferInstanceAs (Decidable (Python.CutsBetween _ _ _))

/-- Base and quote come out at what the body says, for the price that it has. -/
def Env.AmountsKept (env : Env) (mm : Market) (req : OpenRequest) : Prop :=
  BaseKept mm req.quantity ∧ ∀ terms, env.terms (toMarket req.symbol) mm req = .ok terms →
    QuoteKept mm req.quantity terms.price

variable {env : Env} {creds : Engine.Creds} {mm : Market} {req : OpenRequest} {order : Order}

/-- The order that is posted, and its signature. -/
theorem Env.signed_of_send {market : String} {side : Side} {quantity : ℚ} {terms : Terms}
    (sent : env.send creds market mm side quantity terms = .ok order) :
    order.side = wireSide side ∧ order.qty = Python.shortest (orderQuantity mm quantity) ∧
      order.price = terms.price ∧
      ∃ s, env.signedFor creds mm side quantity order = some s ∧
        env.signOrder creds.apiSecret creds.wallet s = .ok order.signature := by
  unfold Env.send at sent
  dsimp only at sent
  split at sent
  · cases sent
  · cases parsed : parseUint creds.passphrase with
    | none =>
        rw [parsed] at sent
        cases sent
    | some positionId =>
        rw [parsed] at sent
        dsimp only at sent
        split at sent
        · cases sent
        case h_2 signature signs =>
          cases sent
          refine ⟨rfl, rfl, rfl, _, ?_, signs⟩
          unfold Env.signedFor
          rw [parsed]
          rfl

/-- A limit price or a padded market price is not negative. -/
theorem Env.price_nonneg {terms : Terms} {market : String} (valid : req.validate = .ok ())
    (read : env.terms market mm req = .ok terms) : 0 ≤ Python.float terms.price := by
  unfold Env.terms at read
  cases kind : req.orderType with
  | limit =>
      rw [kind] at read
      cases read
      dsimp only
      rw [Python.float_shortest]
      exact Python.float_nonneg (req.limitPrice_pos valid kind).le
  | market =>
      rw [kind] at read
      dsimp only at read
      split at read
      · cases read
      case h_2 ref _ =>
        split at read
        · cases read
        case isFalse positive =>
          cases read
          exact Python.float_nonneg (marketPrice_nonneg mm req.side (not_le.mp positive).le)
  | stopMarket =>
      rw [kind] at read
      cases read
  | takeProfitMarket =>
      rw [kind] at read
      cases read

theorem Env.signed_of_placeOrder {markets : String → Option Market}
    (known : env.markets = .ok markets) (listed : markets (toMarket req.symbol) = some mm)
    (sent : env.placeOrder creds req = .ok order) :
    req.validate = .ok () ∧ order.side = wireSide req.side ∧
      order.qty = Python.shortest (orderQuantity mm req.quantity) ∧
      (∃ terms, env.terms (toMarket req.symbol) mm req = .ok terms ∧ order.price = terms.price) ∧
      ∃ s, env.signedFor creds mm req.side req.quantity order = some s ∧
        env.signOrder creds.apiSecret creds.wallet s = .ok order.signature := by
  unfold Env.placeOrder at sent
  obtain ⟨_, checked, sent⟩ := Go.bind_eq_ok sent
  have valid : req.validate = .ok () := by
    cases passed : req.validate with
    | error e =>
        rw [passed] at checked
        cases checked
    | ok => rfl
  dsimp only at sent
  split at sent
  · cases sent
  · rw [known] at sent
    obtain ⟨_, loaded, sent⟩ := Go.bind_eq_ok sent
    cases loaded
    rw [listed] at sent
    obtain ⟨terms, read, sent⟩ := Go.bind_eq_ok sent
    obtain ⟨side, qty, price, signs⟩ := Env.signed_of_send sent
    exact ⟨valid, side, qty, ⟨terms, read, price⟩, signs⟩

/-- An amount is between two whole numbers of units. -/
theorem mulResolution_between_iff {v : ℚ} {resolution low high : ℤ} (counts : 0 ≤ resolution)
    (nonneg : 0 ≤ v) :
    low ≤ mulResolution v resolution ∧ mulResolution v resolution ≤ high ↔
      Python.CutsBetween low high (v * resolution) := by
  have product : 0 ≤ v * resolution := mul_nonneg nonneg (by exact_mod_cast counts)
  have cut : mulResolution v resolution = Python.trunc (Python.float (v * resolution)) := by
    unfold mulResolution
    rcases counts.eq_or_lt with rfl | positive
    · rw [if_pos le_rfl, Int.cast_zero, mul_zero, Python.float_zero]
      rfl
    · rw [if_neg (not_le.mpr positive)]
  rw [cut, Python.trunc_float_between_iff product]

/-- The base is that of the decimal. -/
theorem base_eq_iff (counts : 0 ≤ mm.syntheticResolution) {quantity : ℚ} (nonneg : 0 ≤ quantity) :
    (mulResolution (orderQuantity mm quantity) mm.syntheticResolution : ℚ) =
        Python.shortest (orderQuantity mm quantity) * mm.syntheticResolution ↔
      BaseKept mm quantity := by
  have cuts (n : ℤ) : n ≤ mulResolution (orderQuantity mm quantity) mm.syntheticResolution ∧
      mulResolution (orderQuantity mm quantity) mm.syntheticResolution ≤ n ↔
        Python.CutsBetween n n (orderQuantity mm quantity * mm.syntheticResolution) :=
    mulResolution_between_iff counts (orderQuantity_nonneg mm nonneg)
  unfold BaseKept
  constructor
  · intro same
    exact ⟨_, same.symm, (cuts _).mp ⟨le_rfl, le_rfl⟩⟩
  · rintro ⟨n, whole, kept⟩
    obtain ⟨least, most⟩ := (cuts n).mpr kept
    rw [whole, le_antisymm most least]

/-- The quote is that of the decimals, up to one unit. -/
theorem quote_close_iff (counts : 0 ≤ mm.collateralResolution) {quantity price : ℚ}
    (nonneg : 0 ≤ quantity) (priced : 0 ≤ Python.float price) :
    |(mulResolution (Python.float (orderQuantity mm quantity * Python.float price))
        mm.collateralResolution : ℚ) -
      Python.shortest (orderQuantity mm quantity) * price * mm.collateralResolution| ≤ 1 ↔
      QuoteKept mm quantity price := by
  have notional : 0 ≤ Python.float (orderQuantity mm quantity * Python.float price) :=
    Python.float_nonneg (mul_nonneg (orderQuantity_nonneg mm nonneg) priced)
  unfold QuoteKept
  rw [← mulResolution_between_iff counts notional, abs_le]
  refine and_congr ?_ ?_
  · rw [sub_le_iff_le_add, Rat.ceil_le_iff]
    push_cast
    constructor <;> intro close <;> linarith
  · rw [← sub_le_iff_le_add, Rat.le_floor_iff]
    push_cast
    constructor <;> intro close <;> linarith

theorem denotes_iff (counts : mm.Counts) (valid : req.validate = .ok ())
    (priced : 0 ≤ Python.float order.price) (bodySide : order.side = wireSide req.side)
    (qty : order.qty = Python.shortest (orderQuantity mm req.quantity)) {s : Signed}
    (signs : env.signedFor creds mm req.side req.quantity order = some s) :
    order.Denotes mm s req.side ↔
      BaseKept mm req.quantity ∧ QuoteKept mm req.quantity order.price := by
  obtain ⟨positionId, -, rfl⟩ := Option.map_eq_some_iff.mp signs
  have nonneg : 0 ≤ req.quantity := (req.quantity_pos valid).le
  rw [← base_eq_iff counts.synthetic nonneg, ← quote_close_iff counts.collateral nonneg priced,
    ← qty]
  cases side : req.side with
  | buy =>
      have negated : ∀ a b : ℚ, |(-a) - -1 * b| = |a - b| := by
        intro a b
        rw [← abs_neg]
        congr 1
        ring
      refine ⟨fun denotes => ⟨?_, ?_⟩, fun kept => ⟨side ▸ bodySide, ?_, ?_⟩⟩
      · simpa [signed, amounts, sign] using denotes.base
      · have quote := denotes.quote
        simp only [signed, amounts, sign, if_true, Int.cast_neg, Int.cast_one, negated] at quote
        exact quote
      · simpa [signed, amounts, sign] using kept.1
      · simp only [signed, amounts, sign, if_true, Int.cast_neg, Int.cast_one, negated]
        exact kept.2
  | sell =>
      refine ⟨fun denotes => ⟨?_, ?_⟩, fun kept => ⟨side ▸ bodySide, ?_, ?_⟩⟩
      · simpa [signed, amounts, sign] using denotes.base
      · simpa [signed, amounts, sign] using denotes.quote
      · simpa [signed, amounts, sign] using kept.1
      · simpa [signed, amounts, sign] using kept.2

theorem signsWhatItSends_iff (counts : mm.Counts) {markets : String → Option Market}
    (known : env.markets = .ok markets) (listed : markets (toMarket req.symbol) = some mm)
    (sent : env.placeOrder creds req = .ok order) :
    env.SignsWhatItSends creds mm req order ↔ env.AmountsKept mm req := by
  obtain ⟨valid, bodySide, qty, ⟨terms, read, price⟩, s, signs, signature⟩ :=
    Env.signed_of_placeOrder known listed sent
  have priced : 0 ≤ Python.float order.price := price ▸ Env.price_nonneg valid read
  have quote : QuoteKept mm req.quantity order.price ↔
      ∀ terms, env.terms (toMarket req.symbol) mm req = .ok terms →
        QuoteKept mm req.quantity terms.price := by
    rw [price]
    constructor
    · intro kept terms' read'
      cases read.symm.trans read'
      exact kept
    · exact fun kept => kept terms read
  unfold Env.AmountsKept
  rw [← quote, ← denotes_iff counts valid priced bodySide qty signs]
  constructor
  · rintro ⟨s', signs', -, denotes⟩
    cases signs.symm.trans signs'
    exact denotes
  · exact fun denotes => ⟨s, signs, signature, denotes⟩

end Extended

/-! ## Both -/

/-- What is signed is what is sent: on Paradex where the size comes out at the whole number of units
next to it, and on Extended where the base and the quote come out at what the body says. -/
theorem signsWhatItSends_venues (req : OpenRequest) :
    (∀ (env : Paradex.Env) order, env.placeOrder req = .ok order →
      (env.SignsWhatItSends req order ↔ Paradex.SizeKept req.quantity)) ∧
    ∀ (env : Extended.Env) creds markets (mm : Extended.Market) order, mm.Counts →
      env.markets = .ok markets → markets (Extended.toMarket req.symbol) = some mm →
      env.placeOrder creds req = .ok order →
      (env.SignsWhatItSends creds mm req order ↔ env.AmountsKept mm req) :=
  ⟨fun _ _ sent => Paradex.signsWhatItSends_iff sent,
    fun _ _ _ _ _ counts known listed sent =>
      Extended.signsWhatItSends_iff counts known listed sent⟩

/-! ## Requests -/

/-- A market buy. -/
def buyOf (quantity : ℚ) : OpenRequest :=
  { symbol := "BTC", side := .buy, quantity := quantity, leverage := 5,
    marginMode := some .isolated }

namespace Extended

/-- A market whose size step is `step`, or none. -/
def stepped (step : ℚ) : Market :=
  ⟨"0x1", 1000, "0x2", 1000000, 5 / 10000, 1 / 100, 1 / 1000, step⟩

def signing (step : ℚ) : Env :=
  ⟨.ok fun _ => some (stepped step), fun _ => .ok 100, fun _ _ _ => .ok ("0x3", "0x4"), 0, 5⟩

def keys : Engine.Creds := { apiSecret := "0x6", passphrase := "8", wallet := "0x9" }

theorem counts_stepped (step : ℚ) : (stepped step).Counts :=
  ⟨show (0 : ℤ) ≤ 1000 by decide, show (0 : ℤ) ≤ 1000000 by decide⟩

end Extended

theorem signsWhatItSends_fifteen :
    (∃ order, Paradex.Env.signing.placeOrder (buyOf (15 / 10)) = .ok order ∧
      Paradex.Env.signing.SignsWhatItSends (buyOf (15 / 10)) order) ∧
    ∃ order, (Extended.signing (1 / 100)).placeOrder Extended.keys (buyOf (15 / 10)) = .ok order ∧
      (Extended.signing (1 / 100)).SignsWhatItSends Extended.keys (Extended.stepped (1 / 100))
        (buyOf (15 / 10)) order := by
  have venues := signsWhatItSends_venues (buyOf (15 / 10))
  have paradex : (Paradex.Env.signing.placeOrder (buyOf (15 / 10))).map Paradex.Order.size =
      .ok (15 / 10) := by decide +kernel
  have extended : ((Extended.signing (1 / 100)).placeOrder Extended.keys (buyOf (15 / 10))).map
      Extended.Order.qty = .ok (15 / 10) := by decide +kernel
  obtain ⟨order, sent, -⟩ := Go.map_eq_ok paradex
  obtain ⟨order', sent', -⟩ := Go.map_eq_ok extended
  refine ⟨⟨order, sent, (venues.1 _ order sent).mpr (by decide +kernel)⟩, order', sent', ?_⟩
  refine (venues.2 _ _ _ _ order' (Extended.counts_stepped _) rfl rfl sent').mpr
    ⟨⟨1500, by decide +kernel, by decide +kernel⟩, fun terms read => ?_⟩
  have price : (Extended.signing (1 / 100)).terms "BTC-USD" (Extended.stepped (1 / 100))
      (buyOf (15 / 10)) = .ok ⟨"MARKET", "IOC", 10075 / 100⟩ := by decide +kernel
  cases price.symm.trans read
  decide +kernel

/-- On Paradex 1.6 units of 10⁻⁸ are signed as 1 and sent as 2, and on Extended, without a step, 1.5
units of the market are signed as 1 and sent as they are. -/
theorem signed_is_not_sent :
    (∃ order, Paradex.Env.signing.placeOrder (buyOf (16 / 1000000000)) = .ok order ∧
      order.size = 2 / 10 ^ 8 ∧
      (Paradex.Env.signing.message (buyOf (16 / 1000000000))).size = 1 ∧
      ¬Paradex.Env.signing.SignsWhatItSends (buyOf (16 / 1000000000)) order) ∧
    ∃ order, (Extended.signing 0).placeOrder Extended.keys (buyOf (15 / 10000)) = .ok order ∧
      order.qty = 15 / 10000 ∧ order.syntheticAmount = 1 ∧
      ¬(Extended.signing 0).SignsWhatItSends Extended.keys (Extended.stepped 0)
        (buyOf (15 / 10000)) order := by
  have paradex : (Paradex.Env.signing.placeOrder (buyOf (16 / 1000000000))).map
      Paradex.Order.size = .ok (2 / 10 ^ 8) := by decide +kernel
  have extended : ((Extended.signing 0).placeOrder Extended.keys (buyOf (15 / 10000))).map
      (fun order => (order.qty, order.syntheticAmount)) = .ok (15 / 10000, 1) := by decide +kernel
  obtain ⟨order, sent, size⟩ := Go.map_eq_ok paradex
  obtain ⟨order', sent', amounts⟩ := Go.map_eq_ok extended
  obtain ⟨qty, synthetic⟩ := Prod.mk.inj amounts
  refine ⟨⟨order, sent, size, by decide +kernel, fun same => ?_⟩, order', sent', qty, synthetic,
    fun same => ?_⟩
  · have counted := same.2.size
    rw [size] at counted
    exact absurd counted (by decide +kernel)
  · obtain ⟨s, signs, -, denotes⟩ := same
    have base := denotes.base
    obtain ⟨positionId, -, rfl⟩ := Option.map_eq_some_iff.mp signs
    have signed : (Extended.signed (Extended.signing 0) (Extended.stepped 0) .buy
        (Extended.amounts (Extended.stepped 0) (Extended.orderQuantity (Extended.stepped 0)
          (15 / 10000)) (Python.float order'.price)) positionId).baseAmount =
        Extended.mulResolution (Extended.orderQuantity (Extended.stepped 0) (15 / 10000)) 1000 :=
      rfl
    change ((Extended.signed (Extended.signing 0) (Extended.stepped 0) .buy
        (Extended.amounts (Extended.stepped 0) (Extended.orderQuantity (Extended.stepped 0)
          (15 / 10000)) (Python.float order'.price)) positionId).baseAmount : ℚ) = _ at base
    rw [signed, qty] at base
    exact absurd base (by decide +kernel)

end Avalant
