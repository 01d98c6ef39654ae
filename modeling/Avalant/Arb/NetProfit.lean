import Avalant.Funding.Store
import Avalant.Ws.InOut
import Mathlib.Tactic.FieldSimp
import Mathlib.Tactic.Linarith
import Mathlib.Tactic.NormNum
import Mathlib.Tactic.Ring

/-!
The net profit of the arbitrage tables.

Three tables pair a short leg, a perpetual, with a long leg: another perpetual, spot, or a price of
a decentralised exchange. Each has a formula of its own for the profit of eight hours. Spot has no
funding, so its formula should be that of two perpetuals of which one has rate 0.
-/

namespace Avalant

namespace Arb

open Funding (Tick)
open InOut (InOutPct)

/-! ## Fees -/

/-- Of a taker, on perpetuals. -/
def exchangeFees : List (String × ℚ) :=
  [("binance", 0.0004), ("bybit", 0.00055), ("okx", 0.0005), ("gate", 0.0005), ("kucoin", 0.0006),
    ("mexc", 0.0002), ("bitget", 0.0006), ("hyperliquid", 0.00035), ("aster", 0.0005),
    ("ethereal", 0.0003), ("whitebit", 0.0006), ("bingx", 0.0005), ("paradex", 0.0003),
    ("backpack", 0.0005), ("htx", 0.0005), ("kraken", 0.0005), ("lighter", 0.0003)]

def defaultFee : ℚ := 0.0006

def feeOf (ex : String) : ℚ :=
  (exchangeFees.lookup ex).getD defaultFee

/-- Of a taker, on spot. -/
def spotFees : List (String × ℚ) :=
  [("binance", 0.001), ("bybit", 0.001), ("okx", 0.001), ("gate", 0.001), ("kucoin", 0.001),
    ("mexc", 0.0005), ("bitget", 0.001), ("bingx", 0.001), ("htx", 0.002), ("upbit", 0.0025),
    ("binancealpha", 0.001)]

def spotFeeOf (ex : String) : ℚ :=
  (spotFees.lookup ex).getD 0.001

/-- Two swaps of 0.3 % and 0.2 % slippage, in per cent. -/
def dexFeeRoundtripPct : ℚ := 0.6 + 0.2

/-! ## Two perpetuals -/

/-- A leg of the futures table, its rate for eight hours. -/
structure Leg where
  ex : String
  rateNorm : ℚ
  fee : ℚ
  mark : ℚ

def preEntry (ex : String) (t : Tick) : Leg :=
  ⟨ex, t.rate * (8 / t.intervalH), feeOf ex, t.markPrice⟩

/-- Funding of both legs, price difference at entry and fees of both ways. -/
def futuresNet (long short : Leg) (inPct : Option ℚ) : ℚ :=
  let gross := short.rateNorm - long.rateNorm
  let totalFees := 2 * (long.fee + short.fee)
  let priceSpread := (short.mark - long.mark) / long.mark
  let entryBasis := match inPct with
    | some pct => pct / 100
    | none => priceSpread
  gross + entryBasis - totalFees

/-! ## One perpetual -/

structure SpotTicker where
  price : ℚ
  volumeUSD : ℚ

/-- A row of the spot table or of a dex table. -/
structure ShortRow where
  longPrice : ℚ
  perpPrice : ℚ
  fundingRate : ℚ
  shortFunding8h : ℚ
  basisPct : ℚ
  gross : ℚ
  feeLong : ℚ
  feePerp : ℚ
  totalFees : ℚ
  netProfit : ℚ
  netApr : ℚ
  intervalH : ℚ
  inPct : Option ℚ
  outPct : Option ℚ

/-- The row of two fees, once funding and basis are known. -/
def finishRow (longPrice : ℚ) (pd : Tick) (intH shortFunding basisPct feeLongRT feePerpRT : ℚ)
    (inOut : Option InOutPct) : ShortRow :=
  let totalFees := feeLongRT + feePerpRT
  let entryBasis := match inOut with
    | some value => value.inPct
    | none => basisPct
  let gross := shortFunding + entryBasis
  let fundingOnly := shortFunding - totalFees
  { longPrice
    perpPrice := pd.markPrice
    fundingRate := pd.rate
    shortFunding8h := shortFunding
    basisPct, gross
    feeLong := feeLongRT
    feePerp := feePerpRT
    totalFees
    netProfit := gross - totalFees
    netApr := if 0 < fundingOnly then fundingOnly * (365 * 3) else 0
    intervalH := intH
    inPct := inOut.map InOutPct.inPct
    outPct := inOut.map InOutPct.outPct }

/-- The perpetuals that the spot table takes. -/
def spotPerp (perpEx : String) (t : Tick) : Bool :=
  perpEx ≠ "lighter" ∧ 0 < t.markPrice ∧ 0 < t.intervalH

/-- A pair of the spot table. -/
def spotRow (minVolUSD : ℚ) (spotEx perpEx : String) (sd : SpotTicker) (pd : Tick)
    (inOut : Option InOutPct) : Option ShortRow :=
  if !spotPerp perpEx pd then none
  else if sd.price ≤ 0 ∨ sd.volumeUSD < minVolUSD then none
  else if pd.markPrice ≤ 0 ∨ pd.rate = 0 ∨ pd.volume24h < minVolUSD then none
  else
    let intH := if pd.intervalH ≤ 0 then 8 else pd.intervalH
    let rate8h := pd.rate * (8 / intH) * 100
    let shortFunding := rate8h
    let basisPct := (pd.markPrice - sd.price) / sd.price * 100
    if 5 < basisPct ∨ basisPct < -5 then none
    else
      some (finishRow sd.price pd intH shortFunding basisPct (spotFeeOf spotEx * 100 * 2)
        (feeOf perpEx * 100 * 2) inOut)

/-- The perpetuals that the dex tables take. -/
def dexPerp (minVolUSD : ℚ) (perpEx : String) (t : Tick) : Bool :=
  perpEx ≠ "lighter" ∧ ¬(t.markPrice ≤ 0 ∨ t.intervalH ≤ 0 ∨ t.rate = 0) ∧
    ¬(0 < t.volume24h ∧ t.volume24h < minVolUSD)

/-- A pair of a dex table. It is shown when it has been there for a while. -/
def dexRow (minVolUSD : ℚ) (perpEx : String) (dexPrice : ℚ) (p : Tick) (shown : Bool)
    (inOut : Option InOutPct) : Option ShortRow :=
  if !dexPerp minVolUSD perpEx p then none
  else if dexPrice ≤ 0 then none
  else
    let intH := if p.intervalH ≤ 0 then 8 else p.intervalH
    let rate8h := p.rate * (8 / intH) * 100
    let shortFunding := -rate8h
    let basisPct := (p.markPrice - dexPrice) / dexPrice * 100
    if 100 < basisPct ∨ basisPct < -100 then none
    else if !shown then none
    else
      some (finishRow dexPrice p intH shortFunding basisPct dexFeeRoundtripPct
        (feeOf perpEx * 100 * 2) inOut)

/-! ## The tables against each other -/

/-- The long leg of a row. The tables of OKX (with Binance Alpha) and of DexScreener have the same
rows. -/
inductive LongLeg
  | spot (ex : String) (ticker : SpotTicker)
  | dex (price : ℚ)

/-- As a leg of the futures table: no funding, and its own fee. -/
def LongLeg.leg : LongLeg → Leg
  | .spot ex ticker => ⟨ex, 0, spotFeeOf ex, ticker.price⟩
  | .dex price => ⟨"dex", 0, dexFeeRoundtripPct / 2 / 100, price⟩

/-- The row that a table publishes for a long leg. -/
def LongLeg.row (minVolUSD : ℚ) (perpEx : String) (t : Tick) (shown : Bool)
    (inOut : Option InOutPct) : LongLeg → Option ShortRow
  | .spot ex ticker => spotRow minVolUSD ex perpEx ticker t inOut
  | .dex price => dexRow minVolUSD perpEx price t shown inOut

/-- A row says what the futures table would say, in per cent. -/
structure AsFutures (long short : Leg) (inOut : Option InOutPct) (row : ShortRow) : Prop where
  net : row.netProfit = 100 * futuresNet long short (inOut.map InOutPct.inPct)
  funding : row.shortFunding8h = 100 * short.rateNorm

section

variable {minVolUSD : ℚ} {perpEx : String} {t : Tick} {shown : Bool} {inOut : Option InOutPct}
  {row : ShortRow}

/-- With the funding of the short leg as income, the rest is the same. -/
theorem finishRow_net (perpEx : String) (t : Tick) (inOut : Option InOutPct) {long : Leg}
    (noFunding : long.rateNorm = 0) (shortFunding : ℚ) :
    (finishRow long.mark t t.intervalH shortFunding ((t.markPrice - long.mark) / long.mark * 100)
      (long.fee * 100 * 2) (feeOf perpEx * 100 * 2) inOut).netProfit =
        shortFunding - 100 * (preEntry perpEx t).rateNorm +
          100 * futuresNet long (preEntry perpEx t) (inOut.map InOutPct.inPct) := by
  cases inOut with
  | none =>
      simp only [finishRow, futuresNet, preEntry, noFunding, Option.map_none]
      ring
  | some value =>
      simp only [finishRow, futuresNet, preEntry, noFunding, Option.map_some]
      ring

theorem spotRow_eq {spotEx : String} {sd : SpotTicker}
    (published : spotRow minVolUSD spotEx perpEx sd t inOut = some row) :
    row = finishRow sd.price t t.intervalH (t.rate * (8 / t.intervalH) * 100)
      ((t.markPrice - sd.price) / sd.price * 100) (spotFeeOf spotEx * 100 * 2)
        (feeOf perpEx * 100 * 2) inOut := by
  unfold spotRow at published
  rcases Option.ite_none_left_eq_some.mp published with ⟨taken, published⟩
  rcases Option.ite_none_left_eq_some.mp published with ⟨-, published⟩
  rcases Option.ite_none_left_eq_some.mp published with ⟨-, published⟩
  rw [Bool.not_eq_true, Bool.not_eq_false', spotPerp, decide_eq_true_eq] at taken
  rw [if_neg (not_le.mpr taken.2.2)] at published
  rcases Option.ite_none_left_eq_some.mp published with ⟨-, same⟩
  exact (Option.some.inj same).symm

theorem dexRow_eq {dexPrice : ℚ} (published : dexRow minVolUSD perpEx dexPrice t shown inOut = some row) :
    t.rate ≠ 0 ∧ 0 < t.intervalH ∧
      row = finishRow dexPrice t t.intervalH (-(t.rate * (8 / t.intervalH) * 100))
        ((t.markPrice - dexPrice) / dexPrice * 100) dexFeeRoundtripPct
          (feeOf perpEx * 100 * 2) inOut := by
  unfold dexRow at published
  rcases Option.ite_none_left_eq_some.mp published with ⟨taken, published⟩
  rcases Option.ite_none_left_eq_some.mp published with ⟨-, published⟩
  rw [Bool.not_eq_true, Bool.not_eq_false', dexPerp, decide_eq_true_eq, not_or, not_or] at taken
  rcases taken with ⟨-, ⟨-, interval, rate⟩, -⟩
  rw [if_neg interval] at published
  rcases Option.ite_none_left_eq_some.mp published with ⟨-, published⟩
  rcases Option.ite_none_left_eq_some.mp published with ⟨-, same⟩
  exact ⟨rate, not_le.mp interval, (Option.some.inj same).symm⟩

theorem asFutures_spotRow {spotEx : String} {sd : SpotTicker}
    (published : spotRow minVolUSD spotEx perpEx sd t inOut = some row) :
    AsFutures (LongLeg.spot spotEx sd).leg (preEntry perpEx t) inOut row := by
  have unfunded : (LongLeg.spot spotEx sd).leg.rateNorm = 0 := rfl
  have net := finishRow_net perpEx t inOut unfunded (t.rate * (8 / t.intervalH) * 100)
  have funding : t.rate * (8 / t.intervalH) * 100 = 100 * (preEntry perpEx t).rateNorm := mul_comm _ _
  rw [spotRow_eq published]
  refine ⟨net.trans ?_, funding⟩
  rw [funding, sub_self, zero_add]

/-- In a dex row a positive rate is a cost: twice the funding is missing. -/
theorem dexRow_net {dexPrice : ℚ} (published : dexRow minVolUSD perpEx dexPrice t shown inOut = some row) :
    row.netProfit = 100 * futuresNet (LongLeg.dex dexPrice).leg (preEntry perpEx t)
      (inOut.map InOutPct.inPct) - 2 * (100 * (preEntry perpEx t).rateNorm) := by
  have unfunded : (LongLeg.dex dexPrice).leg.rateNorm = 0 := rfl
  have net := finishRow_net perpEx t inOut unfunded (-(t.rate * (8 / t.intervalH) * 100))
  have fee : dexFeeRoundtripPct = (LongLeg.dex dexPrice).leg.fee * 100 * 2 := by
    simp only [LongLeg.leg]
    ring
  rw [(dexRow_eq published).2.2, fee]
  refine net.trans ?_
  simp only [preEntry]
  ring

end

/-- The net profit of a row is what the futures table gives for a long leg of rate 0 exactly for the
rows of the spot table. -/
theorem asFutures_iff_spot {minVolUSD : ℚ} {perpEx : String} {t : Tick} {shown : Bool}
    {inOut : Option InOutPct} {row : ShortRow} {long : LongLeg}
    (published : long.row minVolUSD perpEx t shown inOut = some row) :
    AsFutures long.leg (preEntry perpEx t) inOut row ↔ ∃ ex ticker, long = .spot ex ticker := by
  cases long with
  | spot ex ticker => exact ⟨fun _ => ⟨ex, ticker, rfl⟩, fun _ => asFutures_spotRow published⟩
  | dex price =>
      constructor
      · intro same
        have net := dexRow_net published
        rw [same.net] at net
        rcases dexRow_eq published with ⟨rate, interval, -⟩
        have income : (preEntry perpEx t).rateNorm ≠ 0 :=
          mul_ne_zero rate (div_ne_zero (by norm_num) (ne_of_gt interval))
        exact absurd (by linarith) income
      · rintro ⟨ex, ticker, other⟩
        cases other

/-- A perpetual at 101 with a rate of 0.01 % in four hours. -/
def perp : Tick := ⟨"BTC", 0.0001, 101, 101, 1000000, 0, 0, 4, 0⟩

theorem asFutures_perp_spot :
    ∃ row, spotRow 0 "binance" "okx" ⟨100, 1000000⟩ perp none = some row ∧
      AsFutures ⟨"binance", 0, 0.001, 100⟩ (preEntry "okx" perp) none row := by
  have shown : (spotRow 0 "binance" "okx" ⟨100, 1000000⟩ perp none).isSome := by decide +kernel
  rcases Option.isSome_iff_exists.mp shown with ⟨row, published⟩
  refine ⟨row, published, ?_⟩
  have here : (LongLeg.spot "binance" ⟨100, 1000000⟩).row 0 "okx" perp true none = some row :=
    published
  have same := (asFutures_iff_spot here).mpr ⟨_, _, rfl⟩
  have fee : spotFeeOf "binance" = 0.001 := by decide +kernel
  simp only [LongLeg.leg, fee] at same
  exact same

theorem not_asFutures_perp_dex :
    ¬∀ (minVolUSD : ℚ) (perpEx : String) (t : Tick) (shown : Bool) (inOut : Option InOutPct)
      (long : LongLeg) (row : ShortRow), long.row minVolUSD perpEx t shown inOut = some row →
        AsFutures long.leg (preEntry perpEx t) inOut row := by
  intro claim
  have shown : (dexRow 0 "okx" 100 perp true none).isSome := by decide +kernel
  rcases Option.isSome_iff_exists.mp shown with ⟨row, published⟩
  have same := claim 0 "okx" perp true none (.dex 100) row published
  have funding : row.shortFunding8h = -(perp.rate * (8 / perp.intervalH) * 100) := by
    rw [(dexRow_eq published).2.2]
    rfl
  rw [same.funding] at funding
  simp only [preEntry, perp] at funding
  norm_num at funding

end Arb

end Avalant
