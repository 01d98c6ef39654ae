import Avalant.Arb.Compute
import Avalant.Dex.CexAssets

/-!
The tables with a leg on a decentralised exchange, over the cycles of a run: a
perpetual against the price there, and a spot price of a centralised exchange
against it.

A row is shown when its pair has been there for 25 seconds; a pair that has not
been seen for five minutes is forgotten. A cycle that finds no price, or no
market, ends before it looks at any pair and forgets none.
-/

namespace Avalant

namespace Arb

open Funding (Tick)
open InOut (InOutPct)
open Presence (Event Unbroken Rounds)

/-- What the tables read of a `dexInfo`. -/
structure DexQuote where
  chain : String
  dex : String
  price : ℚ
  liquidityUsd : ℚ
  volumeUsd : ℚ
  baseAddress : String
  pairUrl : String

/-- By symbol. -/
abbrev DexQuotes := AList fun _ : String => DexQuote

/-- Of both tables, in nanoseconds. -/
def dexOppMinLifetime : Nat := 25000000000

def dexOppPurgeAfter : Nat := 300000000000

/-- Both tables keep this many rows. -/
def dexFileTopN : Nat := 200

/-! ## A perpetual against a price -/

structure DexShortInput where
  now : Nat
  ticks : Funding.Ticks
  /-- None, if the cycle ends before it has prices. -/
  prices : Option DexQuotes
  /-- What `ComputeInOutDex` answers. -/
  inOut : Pair → ℚ → Option InOutPct

/-- A perpetual of a venue, and the price of its symbol. -/
structure DexShortCandidate where
  pair : Pair
  tick : Tick
  quote : DexQuote

/-- Once it is shown. -/
def DexShortCandidate.row (minVolUSD : ℚ) (i : DexShortInput) (c : DexShortCandidate) :
    Option ShortRow :=
  dexRow minVolUSD c.pair.exchange c.quote.price c.tick true (i.inOut c.pair c.quote.price)

/-- A perpetual whose symbol has a price, if no guard stops its row. -/
def DexShortInput.candidate (minVolUSD : ℚ) (i : DexShortInput) (prices : DexQuotes)
    (e : Sigma fun _ : Pair => Tick) : Option DexShortCandidate :=
  (prices.lookup e.1.symbol).bind fun quote =>
    let c : DexShortCandidate := ⟨e.1, e.2, quote⟩
    if (c.row minVolUSD i).isSome then some c else none

def DexShortInput.candidates (minVolUSD : ℚ) (i : DexShortInput) (prices : DexQuotes) :
    List DexShortCandidate :=
  i.ticks.entries.filterMap (i.candidate minVolUSD prices)

/-- `DEXCompute.tick` and `DEXScreenerCompute.tick`, once the prices are there: purged, and then
observed. -/
def dexShortTable (minVolUSD : ℚ) : Rounds DexShortInput DexShortCandidate Pair where
  now := DexShortInput.now
  candidates i := i.prices.map (i.candidates minVolUSD)
  key := DexShortCandidate.pair
  lifetime := dexOppMinLifetime
  gap := dexOppPurgeAfter
  purgeFirst := true

/-- The rows of a cycle that comes after others. -/
def dexShortRows (minVolUSD : ℚ) (inputs : List DexShortInput) (i : DexShortInput) :
    List (Pair × ShortRow) :=
  ((dexShortTable minVolUSD).kept inputs i).filterMap fun c =>
    (c.row minVolUSD i).map fun row => (c.pair, row)

/-- A perpetual with funding and volume, of a venue other than Lighter, and a price of its symbol
that is at least half its mark. -/
def DexShortInput.Qualifies (minVolUSD : ℚ) (i : DexShortInput) (pair : Pair) : Prop :=
  ∃ prices tick quote, i.prices = some prices ∧ i.ticks.lookup pair = some tick ∧
    prices.lookup pair.symbol = some quote ∧ pair.exchange ≠ "lighter" ∧
    0 < tick.markPrice ∧ 0 < tick.intervalH ∧ tick.rate ≠ 0 ∧
    (0 < tick.volume24h → minVolUSD ≤ tick.volume24h) ∧
    0 < quote.price ∧ tick.markPrice ≤ 2 * quote.price

section

variable {minVolUSD : ℚ} {inputs : List DexShortInput} {i : DexShortInput} {pair : Pair}

theorem dexPerp_iff {perpEx : String} {t : Tick} :
    dexPerp minVolUSD perpEx t = true ↔ perpEx ≠ "lighter" ∧ 0 < t.markPrice ∧ 0 < t.intervalH ∧
      t.rate ≠ 0 ∧ (0 < t.volume24h → minVolUSD ≤ t.volume24h) := by
  unfold dexPerp
  rw [decide_eq_true_iff]
  simp only [not_or, not_and, not_le, not_lt, and_assoc]

/-- A price above the mark is never too far from it: the mark is positive. -/
theorem isSome_dexRow_iff {perpEx : String} {dexPrice : ℚ} {t : Tick} {inOut : Option InOutPct} :
    (dexRow minVolUSD perpEx dexPrice t true inOut).isSome = true ↔
      dexPerp minVolUSD perpEx t = true ∧ 0 < dexPrice ∧ t.markPrice ≤ 2 * dexPrice := by
  unfold dexRow
  cases perp : dexPerp minVolUSD perpEx t with
  | false => simp
  | true =>
      have mark := (dexPerp_iff.mp perp).2.1
      by_cases price : 0 < dexPrice
      · have basis : (100 < (t.markPrice - dexPrice) / dexPrice * 100 ∨
            (t.markPrice - dexPrice) / dexPrice * 100 < -100) ↔ 2 * dexPrice < t.markPrice := by
          have share : (t.markPrice - dexPrice) / dexPrice = t.markPrice / dexPrice - 1 := by
            rw [sub_div, div_self price.ne']
          have positive : 0 < t.markPrice / dexPrice := div_pos mark price
          rw [share]
          constructor
          · intro far
            rcases far with above | below
            · have : 2 < t.markPrice / dexPrice := by linarith
              exact (lt_div_iff₀ price).mp this
            · linarith
          · intro far
            have := (lt_div_iff₀ price).mpr far
            exact .inl (by linarith)
        simp only [Bool.not_true, Bool.false_eq_true, if_false, not_le.mpr price, basis, true_and,
          price]
        by_cases far : 2 * dexPrice < t.markPrice
        · simp [far]
        · simp [far, not_lt.mp far]
      · simp [price, not_lt.mp price]

theorem candidate_eq_some {prices : DexQuotes} {e : Sigma fun _ : Pair => Tick}
    {c : DexShortCandidate} :
    i.candidate minVolUSD prices e = some c ↔ e = ⟨c.pair, c.tick⟩ ∧
      prices.lookup c.pair.symbol = some c.quote ∧ (c.row minVolUSD i).isSome = true := by
  unfold DexShortInput.candidate
  rw [Option.bind_eq_some_iff]
  constructor
  · intro given
    obtain ⟨quote, priced, built⟩ := given
    obtain ⟨shown, built⟩ := Option.ite_none_right_eq_some.mp built
    cases built
    exact ⟨rfl, priced, shown⟩
  · intro given
    obtain ⟨rfl, priced, shown⟩ := given
    exact ⟨c.quote, priced, if_pos shown⟩

/-- The candidates of a cycle. -/
theorem mem_dexShort_iff {c : DexShortCandidate} :
    c ∈ ((dexShortTable minVolUSD).candidates i).getD [] ↔ ∃ prices, i.prices = some prices ∧
      i.ticks.lookup c.pair = some c.tick ∧ prices.lookup c.pair.symbol = some c.quote ∧
        (c.row minVolUSD i).isSome = true := by
  change c ∈ (i.prices.map (i.candidates minVolUSD)).getD [] ↔ _
  cases i.prices with
  | none => simp
  | some prices =>
      change c ∈ i.ticks.entries.filterMap (i.candidate minVolUSD prices) ↔ _
      rw [List.mem_filterMap]
      constructor
      · intro given
        obtain ⟨e, member, built⟩ := given
        obtain ⟨rfl, priced, shown⟩ := candidate_eq_some.mp built
        exact ⟨prices, rfl, AList.mem_lookup_iff.mpr member, priced, shown⟩
      · intro given
        obtain ⟨_, same, ticked, priced, shown⟩ := given
        cases same
        exact ⟨_, AList.mem_lookup_iff.mp ticked, candidate_eq_some.mpr ⟨rfl, priced, shown⟩⟩

theorem once_dexShort : (dexShortTable minVolUSD).Once := by
  intro i candidates given
  obtain ⟨prices, -, rfl⟩ := Option.map_eq_some_iff.mp given
  have keys : i.ticks.entries.Pairwise fun e e' => e.1 ≠ e'.1 :=
    List.pairwise_map.mp i.ticks.nodupKeys
  refine List.pairwise_map.mpr (List.pairwise_filterMap.mpr (keys.imp
    fun {e e'} unlike c built c' built' => ?_))
  obtain ⟨rfl, -⟩ := candidate_eq_some.mp built
  obtain ⟨rfl, -⟩ := candidate_eq_some.mp built'
  exact unlike

/-- Which pairs are candidates of a cycle. -/
theorem dexShort_qualifies_iff :
    (∃ c ∈ ((dexShortTable minVolUSD).candidates i).getD [], c.pair = pair) ↔
      i.Qualifies minVolUSD pair := by
  constructor
  · intro given
    obtain ⟨c, member, rfl⟩ := given
    obtain ⟨prices, priced, ticked, quoted, shown⟩ := mem_dexShort_iff.mp member
    obtain ⟨perp, price, near⟩ := isSome_dexRow_iff.mp shown
    obtain ⟨venue, mark, interval, rate, volume⟩ := dexPerp_iff.mp perp
    exact ⟨prices, c.tick, c.quote, priced, ticked, quoted, venue, mark, interval, rate, volume,
      price, near⟩
  · intro given
    obtain ⟨prices, tick, quote, priced, ticked, quoted, venue, mark, interval, rate, volume,
      price, near⟩ := given
    exact ⟨⟨pair, tick, quote⟩, mem_dexShort_iff.mpr ⟨prices, priced, ticked, quoted,
      isSome_dexRow_iff.mpr
        ⟨dexPerp_iff.mpr ⟨venue, mark, interval, rate, volume⟩, price, near⟩⟩, rfl⟩

theorem row_of_kept {c : DexShortCandidate} (member : c ∈ (dexShortTable minVolUSD).kept inputs i) :
    (c.row minVolUSD i).isSome = true := by
  rw [Rounds.kept_eq once_dexShort] at member
  obtain ⟨prices, -, -, -, shown⟩ := mem_dexShort_iff.mp (List.mem_filter.mp member).1
  exact shown

theorem map_fst_dexShortRows (inputs : List DexShortInput) (i : DexShortInput) :
    (dexShortRows minVolUSD inputs i).map Prod.fst =
      ((dexShortTable minVolUSD).kept inputs i).map DexShortCandidate.pair := by
  have shown : ∀ c ∈ (dexShortTable minVolUSD).kept inputs i,
      (c.row minVolUSD i).isSome = true := fun c => row_of_kept
  unfold dexShortRows
  rw [List.map_filterMap]
  generalize (dexShortTable minVolUSD).kept inputs i = kept at shown
  induction kept with
  | nil => rfl
  | cons c kept ih =>
      obtain ⟨row, built⟩ := Option.isSome_iff_exists.mp (shown c List.mem_cons_self)
      rw [List.filterMap_cons_some (by rw [built]; rfl), List.map_cons,
        ih fun c' member => shown c' (List.mem_cons_of_mem c member)]

end

/-- After any cycles, a cycle of the table has a row for exactly the pairs that qualify and have
been there for 25 seconds, each once, with the price and the mark of that cycle; and no row that
is left out of the file has a higher profit than one that is in it. -/
theorem dexShort_rows (minVolUSD : ℚ) {inputs : List DexShortInput} {i : DexShortInput}
    (ordered : (dexShortTable minVolUSD).Ordered (inputs ++ [i])) :
    (∀ pair, pair ∈ (dexShortRows minVolUSD inputs i).map Prod.fst ↔
      i.Qualifies minVolUSD pair ∧ ∃ first,
        Unbroken dexOppPurgeAfter ((dexShortTable minVolUSD).before inputs i) pair first ∧
          first + dexOppMinLifetime ≤ i.now) ∧
    ((dexShortRows minVolUSD inputs i).map Prod.fst).Nodup ∧
    (∀ pair row, (pair, row) ∈ dexShortRows minVolUSD inputs i → ∃ prices tick quote,
      i.prices = some prices ∧ i.ticks.lookup pair = some tick ∧
        prices.lookup pair.symbol = some quote ∧
        dexRow minVolUSD pair.exchange quote.price tick true (i.inOut pair quote.price) =
          some row) ∧
    ∀ written, Ranking.Top dexFileTopN (fun row => row.2.netProfit)
        (dexShortRows minVolUSD inputs i) written →
      ∀ row ∈ dexShortRows minVolUSD inputs i, row ∉ written →
        ∀ row' ∈ written, row.2.netProfit ≤ row'.2.netProfit := by
  refine ⟨fun pair => ?_, ?_, fun pair row member => ?_, fun written given row member out row' =>
    given.rank_le member out⟩
  · rw [map_fst_dexShortRows, List.mem_map, ← dexShort_qualifies_iff]
    simp only [Rounds.mem_kept_iff once_dexShort ordered]
    constructor
    · intro given
      obtain ⟨c, ⟨member, held⟩, rfl⟩ := given
      exact ⟨⟨c, member, rfl⟩, held⟩
    · intro given
      obtain ⟨⟨c, member, rfl⟩, held⟩ := given
      exact ⟨c, ⟨member, held⟩, rfl⟩
  · rw [map_fst_dexShortRows]
    exact Rounds.nodup_kept once_dexShort inputs i
  · obtain ⟨c, kept, built⟩ := List.mem_filterMap.mp member
    obtain ⟨row', row'Of, same⟩ := Option.map_eq_some_iff.mp built
    cases same
    obtain ⟨candidate, -⟩ := (Rounds.mem_kept_iff once_dexShort ordered).mp kept
    obtain ⟨prices, priced, ticked, quoted, -⟩ := mem_dexShort_iff.mp candidate
    exact ⟨prices, c.tick, c.quote, priced, ticked, quoted, row'Of⟩

/-! ## A spot price against a price -/

structure DexSpotInput where
  now : Nat
  quotes : DexQuotes
  spots : AList fun _ : Pair => SpotTicker
  /-- The registry of contracts, if there is one. -/
  venues : Option (List (String × Dex.VenueAssets))

/-- What to buy, and where to sell it. -/
inductive DexDirection
  | dexToCex
  | cexToDex
  deriving DecidableEq

structure DexSpotRow where
  symbol : String
  direction : DexDirection
  dexChain : String
  dexName : String
  dexPairUrl : String
  dexBaseAddress : String
  cexExchange : String
  dexPrice : ℚ
  cexSpotPrice : ℚ
  dexLiquidityUsd : ℚ
  dexVolumeUsd : ℚ
  cexVolumeUsd : ℚ
  spreadPct : ℚ
  absSpreadPct : ℚ
  feeDex : ℚ
  feeCex : ℚ
  totalFees : ℚ
  netPct : ℚ
  /-- The address fields. -/
  contract : Dex.MatchResult

def DexSpotRow.pair (row : DexSpotRow) : Pair := ⟨row.cexExchange, row.symbol⟩

def dexSpotMinDexLiqUsd : ℚ := 5000

def dexSpotVerifiedMaxPct : ℚ := 200

def dexSpotUnverifiedMaxPct : ℚ := 30

structure DexSpotCandidate where
  pair : Pair
  spot : SpotTicker
  quote : DexQuote

namespace DexSpotCandidate

variable (c : DexSpotCandidate)

/-- Of the middle of the two prices. -/
def spreadPct : ℚ :=
  (c.spot.price - c.quote.price) / ((c.spot.price + c.quote.price) / 2) * 100

/-- `cexMatcher`. -/
def contract (i : DexSpotInput) : Dex.MatchResult :=
  match i.venues with
  | none => {}
  | some venues =>
      Dex.matchByAddress venues c.pair.exchange c.pair.symbol c.quote.chain c.quote.baseAddress

/-- Once it is shown. -/
def row (i : DexSpotInput) : Option DexSpotRow :=
  let spreadPct := c.spreadPct
  let absSpread := if spreadPct < 0 then -spreadPct else spreadPct
  let feeDexRT := dexFeeRoundtripPct
  let feeCexRT := spotFeeOf c.pair.exchange * 100 * 2
  let totalFees := feeDexRT + feeCexRT
  let contract := c.contract i
  let maxAllowed := if contract.verified then dexSpotVerifiedMaxPct else dexSpotUnverifiedMaxPct
  if maxAllowed < spreadPct ∨ spreadPct < -maxAllowed then none
  else
    some
      { symbol := c.pair.symbol
        direction := if spreadPct < 0 then .cexToDex else .dexToCex
        dexChain := c.quote.chain
        dexName := c.quote.dex
        dexPairUrl := c.quote.pairUrl
        dexBaseAddress := c.quote.baseAddress
        cexExchange := c.pair.exchange
        dexPrice := c.quote.price
        cexSpotPrice := c.spot.price
        dexLiquidityUsd := c.quote.liquidityUsd
        dexVolumeUsd := c.quote.volumeUsd
        cexVolumeUsd := c.spot.volumeUSD
        spreadPct
        absSpreadPct := absSpread
        feeDex := feeDexRT
        feeCex := feeCexRT
        totalFees
        netPct := absSpread - totalFees
        contract }

end DexSpotCandidate

/-- A spot price whose symbol has a price on chain, both good, and enough liquidity if it is
known. -/
def DexSpotInput.candidate (i : DexSpotInput) (e : Sigma fun _ : Pair => SpotTicker) :
    Option DexSpotCandidate :=
  (i.quotes.lookup e.1.symbol).bind fun quote =>
    if 0 < quote.price ∧ ¬(0 < quote.liquidityUsd ∧ quote.liquidityUsd < dexSpotMinDexLiqUsd) ∧
        e.1.exchange ≠ "binancealpha" ∧ 0 < e.2.price then some ⟨e.1, e.2, quote⟩
    else none

/-- `DexSpotCompute.tick`: purged, and then observed. -/
def dexSpotTable : Rounds DexSpotInput DexSpotCandidate Pair where
  now := DexSpotInput.now
  candidates i :=
    if i.quotes.entries = [] ∨ i.spots.entries = [] then none
    else some (i.spots.entries.filterMap i.candidate)
  key := DexSpotCandidate.pair
  lifetime := dexOppMinLifetime
  gap := dexOppPurgeAfter
  purgeFirst := true

/-- The rows of a cycle that comes after others. -/
def dexSpotRows (inputs : List DexSpotInput) (i : DexSpotInput) : List DexSpotRow :=
  (dexSpotTable.kept inputs i).filterMap fun c => c.row i

/-- Two good prices of a symbol, and no known lack of liquidity. -/
structure DexSpotCandidate.Good (i : DexSpotInput) (c : DexSpotCandidate) : Prop where
  spot : i.spots.lookup c.pair = some c.spot
  quote : i.quotes.lookup c.pair.symbol = some c.quote
  onChain : 0 < c.quote.price
  liquid : 0 < c.quote.liquidityUsd → dexSpotMinDexLiqUsd ≤ c.quote.liquidityUsd
  venue : c.pair.exchange ≠ "binancealpha"
  price : 0 < c.spot.price

section

variable {inputs : List DexSpotInput} {i : DexSpotInput} {c : DexSpotCandidate}

theorem dexSpotCandidate_eq_some {e : Sigma fun _ : Pair => SpotTicker} :
    i.candidate e = some c ↔ e = ⟨c.pair, c.spot⟩ ∧ i.quotes.lookup c.pair.symbol = some c.quote ∧
      0 < c.quote.price ∧ (0 < c.quote.liquidityUsd → dexSpotMinDexLiqUsd ≤ c.quote.liquidityUsd) ∧
        c.pair.exchange ≠ "binancealpha" ∧ 0 < c.spot.price := by
  unfold DexSpotInput.candidate
  rw [Option.bind_eq_some_iff]
  constructor
  · intro given
    obtain ⟨quote, quoted, built⟩ := given
    obtain ⟨⟨onChain, liquid, venue, price⟩, built⟩ := Option.ite_none_right_eq_some.mp built
    cases built
    exact ⟨rfl, quoted, onChain, fun known => not_lt.mp fun low => liquid ⟨known, low⟩, venue,
      price⟩
  · intro given
    obtain ⟨rfl, quoted, onChain, liquid, venue, price⟩ := given
    exact ⟨c.quote, quoted, if_pos ⟨onChain, fun low => absurd (liquid low.1) (not_le.mpr low.2),
      venue, price⟩⟩

theorem mem_dexSpot_iff : c ∈ (dexSpotTable.candidates i).getD [] ↔ c.Good i := by
  change c ∈ (if _ then none else some (i.spots.entries.filterMap i.candidate)).getD [] ↔ _
  have listed : c ∈ i.spots.entries.filterMap i.candidate ↔ c.Good i := by
    rw [List.mem_filterMap]
    constructor
    · intro given
      obtain ⟨e, member, built⟩ := given
      obtain ⟨rfl, quoted, onChain, liquid, venue, price⟩ := dexSpotCandidate_eq_some.mp built
      exact ⟨AList.mem_lookup_iff.mpr member, quoted, onChain, liquid, venue, price⟩
    · intro given
      exact ⟨⟨c.pair, c.spot⟩, AList.mem_lookup_iff.mp given.spot, dexSpotCandidate_eq_some.mpr
        ⟨rfl, given.quote, given.onChain, given.liquid, given.venue, given.price⟩⟩
  split
  case isTrue empty =>
    refine ⟨fun member => absurd member List.not_mem_nil, fun given => ?_⟩
    rcases empty with none | none
    · have member := AList.mem_lookup_iff.mp (Option.mem_def.mpr given.quote)
      rw [none] at member
      cases member
    · have member := AList.mem_lookup_iff.mp (Option.mem_def.mpr given.spot)
      rw [none] at member
      cases member
  case isFalse => exact listed

theorem once_dexSpot : dexSpotTable.Once := by
  intro i candidates given
  obtain ⟨-, same⟩ := Option.ite_none_left_eq_some.mp given
  cases same
  have keys : i.spots.entries.Pairwise fun e e' => e.1 ≠ e'.1 :=
    List.pairwise_map.mp i.spots.nodupKeys
  refine List.pairwise_map.mpr (List.pairwise_filterMap.mpr (keys.imp
    fun {e e'} unlike c built c' built' => ?_))
  obtain ⟨rfl, -⟩ := dexSpotCandidate_eq_some.mp built
  obtain ⟨rfl, -⟩ := dexSpotCandidate_eq_some.mp built'
  exact unlike

/-- Two positive prices are less than 200 % of their middle apart. -/
theorem spreadPct_bounds (good : c.Good i) : -200 < c.spreadPct ∧ c.spreadPct < 200 := by
  have spot := good.price
  have onChain := good.onChain
  have middle : 0 < (c.spot.price + c.quote.price) / 2 := by linarith
  unfold DexSpotCandidate.spreadPct
  constructor
  · have : -2 < (c.spot.price - c.quote.price) / ((c.spot.price + c.quote.price) / 2) :=
      (lt_div_iff₀ middle).mpr (by linarith)
    linarith
  · have : (c.spot.price - c.quote.price) / ((c.spot.price + c.quote.price) / 2) < 2 :=
      (div_lt_iff₀ middle).mpr (by linarith)
    linarith

/-- The wide limit stops nothing, so a contract that matches is always shown. -/
theorem isSome_dexSpotRow_iff (good : c.Good i) :
    (c.row i).isSome = true ↔
      (c.contract i).verified = true ∨ |c.spreadPct| ≤ dexSpotUnverifiedMaxPct := by
  obtain ⟨lower, upper⟩ := spreadPct_bounds good
  unfold DexSpotCandidate.row
  dsimp only
  cases verified : (c.contract i).verified with
  | true =>
      rw [if_pos rfl, if_neg]
      · simp
      · unfold dexSpotVerifiedMaxPct
        rw [not_or]
        exact ⟨by linarith, by linarith⟩
  | false =>
      rw [if_neg Bool.false_ne_true]
      have outside : (dexSpotUnverifiedMaxPct < c.spreadPct ∨
          c.spreadPct < -dexSpotUnverifiedMaxPct) ↔ ¬ |c.spreadPct| ≤ dexSpotUnverifiedMaxPct := by
        rw [abs_le, not_and_or, not_le, not_le, or_comm]
      by_cases near : |c.spreadPct| ≤ dexSpotUnverifiedMaxPct
      · rw [if_neg fun far => outside.mp far near]
        simp [near]
      · rw [if_pos (outside.mpr near)]
        simp [near]

/-- A row buys where the price is lower. -/
structure DexSpotRow.Sound (row : DexSpotRow) : Prop where
  buysLow : row.direction = .dexToCex ↔ row.dexPrice ≤ row.cexSpotPrice
  spread : row.absSpreadPct = |row.spreadPct|
  bounded : row.absSpreadPct < 200
  net : row.netPct = row.absSpreadPct - row.totalFees

theorem sound_of_row (good : c.Good i) {row : DexSpotRow} (built : c.row i = some row) :
    row.pair = c.pair ∧ row.Sound := by
  obtain ⟨lower, upper⟩ := spreadPct_bounds good
  have middle : 0 < (c.spot.price + c.quote.price) / 2 := by
    have := good.price
    have := good.onChain
    linarith
  have sign : c.spreadPct < 0 ↔ c.spot.price < c.quote.price := by
    unfold DexSpotCandidate.spreadPct
    constructor
    · intro negative
      by_contra high
      have : 0 ≤ (c.spot.price - c.quote.price) / ((c.spot.price + c.quote.price) / 2) :=
        div_nonneg (by linarith) middle.le
      linarith
    · intro low
      have : (c.spot.price - c.quote.price) / ((c.spot.price + c.quote.price) / 2) < 0 :=
        div_neg_of_neg_of_pos (by linarith) middle
      linarith
  unfold DexSpotCandidate.row at built
  obtain ⟨-, same⟩ := Option.ite_none_left_eq_some.mp built
  cases same
  have abs : (if c.spreadPct < 0 then -c.spreadPct else c.spreadPct) = |c.spreadPct| := by
    split
    case isTrue negative => exact (abs_of_neg negative).symm
    case isFalse positive => exact (abs_of_nonneg (not_lt.mp positive)).symm
  refine ⟨rfl, ?_, abs, ?_, rfl⟩
  · change (if c.spreadPct < 0 then DexDirection.cexToDex else .dexToCex) = .dexToCex ↔
      c.quote.price ≤ c.spot.price
    rw [← not_lt, ← sign]
    split
    case isTrue negative => simp [negative]
    case isFalse positive => simp [positive]
  · change (if c.spreadPct < 0 then -c.spreadPct else c.spreadPct) < 200
    rw [abs]
    exact abs_lt.mpr ⟨lower, upper⟩

end

/-- After any cycles, a cycle of the table has a row for exactly the pairs that have been there for
25 seconds with good prices, and whose contracts match or whose prices are within 30 %, each once.
A row buys where the price is lower, and no row that is left out of the file is wider than one
that is in it. -/
theorem dexSpot_rows {inputs : List DexSpotInput} {i : DexSpotInput}
    (ordered : dexSpotTable.Ordered (inputs ++ [i])) :
    (∀ pair, pair ∈ (dexSpotRows inputs i).map DexSpotRow.pair ↔ ∃ c : DexSpotCandidate,
      c.pair = pair ∧ c.Good i ∧
      ((c.contract i).verified = true ∨ |c.spreadPct| ≤ dexSpotUnverifiedMaxPct) ∧
      ∃ first, Unbroken dexOppPurgeAfter (dexSpotTable.before inputs i) pair first ∧
        first + dexOppMinLifetime ≤ i.now) ∧
    ((dexSpotRows inputs i).map DexSpotRow.pair).Nodup ∧
    (∀ row ∈ dexSpotRows inputs i, row.Sound) ∧
    ∀ written, Ranking.Top dexFileTopN DexSpotRow.absSpreadPct (dexSpotRows inputs i) written →
      ∀ row ∈ dexSpotRows inputs i, row ∉ written →
        ∀ row' ∈ written, row.absSpreadPct ≤ row'.absSpreadPct := by
  have good : ∀ c ∈ dexSpotTable.kept inputs i, c.Good i := fun c kept =>
    mem_dexSpot_iff.mp ((Rounds.mem_kept_iff once_dexSpot ordered).mp kept).1
  refine ⟨fun pair => ?_, ?_, fun row member => ?_, fun written given row member out row' =>
    given.rank_le member out⟩
  · rw [List.mem_map]
    constructor
    · intro given
      obtain ⟨row, member, rfl⟩ := given
      obtain ⟨c, kept, built⟩ := List.mem_filterMap.mp member
      obtain ⟨-, held⟩ := (Rounds.mem_kept_iff once_dexSpot ordered).mp kept
      have shown := (isSome_dexSpotRow_iff (good c kept)).mp (Option.isSome_iff_exists.mpr ⟨row, built⟩)
      rw [(sound_of_row (good c kept) built).1]
      exact ⟨c, rfl, good c kept, shown, held⟩
    · intro given
      obtain ⟨c, rfl, good, shown, held⟩ := given
      obtain ⟨row, built⟩ := Option.isSome_iff_exists.mp ((isSome_dexSpotRow_iff good).mpr shown)
      have kept : c ∈ dexSpotTable.kept inputs i :=
        (Rounds.mem_kept_iff once_dexSpot ordered).mpr ⟨mem_dexSpot_iff.mpr good, held⟩
      exact ⟨row, List.mem_filterMap.mpr ⟨c, kept, built⟩, (sound_of_row good built).1⟩
  · have apart := List.pairwise_map.mp (Rounds.nodup_kept once_dexSpot inputs i)
    refine List.pairwise_map.mpr (List.pairwise_filterMap.mpr (apart.imp_of_mem
      fun {c c'} kept kept' unlike row built row' built' same => unlike ?_))
    rw [(sound_of_row (good c kept) built).1, (sound_of_row (good c' kept') built').1] at same
    exact same
  · obtain ⟨c, kept, built⟩ := List.mem_filterMap.mp member
    exact (sound_of_row (good c kept) built).2

/-- A price of 100, on chain and on two venues, and one of 104. -/
def sampleQuote : DexQuote := ⟨"ethereum", "OKX", 100, 0, 0, "0xab", ""⟩

def sampleDexShort (now : Nat) : DexShortInput where
  now
  ticks := (∅ : Funding.Ticks).insert ⟨"bybit", "BTC"⟩ (sampleTick 104)
  prices := some ((∅ : DexQuotes).insert "BTC" sampleQuote)
  inOut _ _ := none

theorem dexShort_rows_sample : ∃ first,
    Unbroken dexOppPurgeAfter ((dexShortTable 0).before
        [sampleDexShort 0, sampleDexShort 30000000000] (sampleDexShort 60000000000))
      ⟨"bybit", "BTC"⟩ first ∧ first + dexOppMinLifetime ≤ 60000000000 := by
  have ordered : (dexShortTable 0).Ordered
      ([sampleDexShort 0, sampleDexShort 30000000000] ++ [sampleDexShort 60000000000]) := by
    unfold Rounds.Ordered
    decide
  exact (((dexShort_rows 0 ordered).1 ⟨"bybit", "BTC"⟩).mp (by decide +kernel)).2

def sampleDexSpot (now : Nat) : DexSpotInput where
  now
  quotes := (∅ : DexQuotes).insert "BTC" sampleQuote
  spots := AList.insert ⟨"bybit", "BTC"⟩ ⟨104, 0⟩ ∅
  venues := none

theorem dexSpot_rows_sample : ∃ row ∈ dexSpotRows [sampleDexSpot 0, sampleDexSpot 30000000000]
    (sampleDexSpot 60000000000), row.pair = ⟨"bybit", "BTC"⟩ ∧ row.direction = .dexToCex := by
  have ordered : dexSpotTable.Ordered
      ([sampleDexSpot 0, sampleDexSpot 30000000000] ++ [sampleDexSpot 60000000000]) := by
    unfold Rounds.Ordered
    decide
  have shown : ((dexSpotRows [sampleDexSpot 0, sampleDexSpot 30000000000]
      (sampleDexSpot 60000000000)).head?).map (fun row =>
        (row.pair, row.dexPrice, row.cexSpotPrice)) = some (⟨"bybit", "BTC"⟩, 100, 104) := by
    decide +kernel
  obtain ⟨row, first, values⟩ := Option.map_eq_some_iff.mp shown
  have member := List.mem_of_mem_head? first
  obtain ⟨pair, prices⟩ := Prod.mk.inj values
  obtain ⟨onChain, spot⟩ := Prod.mk.inj prices
  refine ⟨row, member, pair, ((dexSpot_rows ordered).2.2.1 row member).buysLow.mpr ?_⟩
  rw [onChain, spot]
  norm_num

end Arb

end Avalant
