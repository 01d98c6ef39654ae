import Avalant.Arb.Tick
import Avalant.Lib.Presence
import Avalant.Lib.Ranking

/-!
The futures table over the ticks of a run: which pairs of venues have a row, and
which rows are written.

A pair that qualifies gets a row when it has done so for a second; a pair that
has not been seen for 90 seconds is forgotten. The rows with the widest price
difference go to the file.

What `ComputeInOutPair` and `IsListed` answer during a tick is part of its
input.
-/

namespace Avalant

namespace Arb

open Funding (Tick)
open InOut (InOutPct Legs round4)
open Presence (Event Unbroken Rounds)

/-! ## The input of a tick -/

structure TickInput where
  now : Nat
  ticks : Funding.Ticks
  listed : Pair → Bool
  /-- For the net profit and the in value. -/
  quote : Legs → Option InOutPct
  /-- For the out value. -/
  quoteAgain : Legs → Option InOutPct

structure ComputeConfig where
  /-- `AVALANT_ARB_FILE_TOP_N`. -/
  fileTopN : Nat := 1000
  /-- `AVALANT_MIN_VOLUME_USD`. -/
  minVolumeUSD : ℚ := 0

/-- In nanoseconds, like all times here. -/
def oppMinLifetime : Nat := 1000000000

def oppPurgeAfter : Nat := 90000000000

/-- Seconds from the Unix epoch; Go's zero time is 62135596800 s before it. -/
def nextTsOf (t : Nat) : ℤ :=
  if t = 0 then 0 else (t / 1000000000 : Nat) - 62135596800

/-! ## Rows -/

/-- A pair of ticks of one symbol. -/
structure Candidate where
  symbol : String
  longEx : String
  shortEx : String
  long : Tick
  short : Tick

def Candidate.legs (c : Candidate) : Legs := ⟨c.longEx, c.shortEx, c.symbol⟩

def Candidate.row (c : Candidate) : Row :=
  ⟨c.symbol, preEntry c.longEx c.long, preEntry c.shortEx c.short⟩

structure FuturesOpp where
  symbol : String
  longExchange : String
  shortExchange : String
  longRate : ℚ
  shortRate : ℚ
  longPrice : ℚ
  shortPrice : ℚ
  longVolume : ℚ
  shortVolume : ℚ
  grossFunding : ℚ
  priceSpread : ℚ
  feeLong : ℚ
  feeShort : ℚ
  totalFees : ℚ
  netProfit : ℚ
  grossApr : ℚ
  netApr : ℚ
  validPrice : Bool
  nextTsLong : ℤ
  nextTsShort : ℤ
  longIntervalH : ℚ
  shortIntervalH : ℚ
  inPct : Option ℚ
  outPct : Option ℚ

def FuturesOpp.legs (opp : FuturesOpp) : Legs := ⟨opp.longExchange, opp.shortExchange, opp.symbol⟩

def Candidate.opp (i : TickInput) (c : Candidate) : FuturesOpp :=
  let long := c.row.long
  let short := c.row.short
  let gross := short.rateNorm - long.rateNorm
  let totalFees := 2 * (long.fee + short.fee)
  let inPct := (i.quote c.legs).map InOutPct.inPct
  { symbol := c.symbol
    longExchange := c.longEx
    shortExchange := c.shortEx
    longRate := round6 (long.rateNorm * 100)
    shortRate := round6 (short.rateNorm * 100)
    longPrice := long.mark
    shortPrice := short.mark
    longVolume := c.long.volume24h
    shortVolume := c.short.volume24h
    grossFunding := round6 (gross * 100)
    priceSpread := round4 (spreads c.row * 100)
    feeLong := round4 (long.fee * 100)
    feeShort := round4 (short.fee * 100)
    totalFees := round4 (totalFees * 100)
    netProfit := round6 (futuresNet long short inPct * 100)
    grossApr := round4 (gross * (8760 / 8) * 100)
    netApr := round4 ((gross - totalFees) * (8760 / 8) * 100)
    validPrice := long.mark ≤ short.mark
    nextTsLong := nextTsOf c.long.nextFunding
    nextTsShort := nextTsOf c.short.nextFunding
    longIntervalH := c.long.intervalH
    shortIntervalH := c.short.intervalH
    inPct
    outPct := (i.quoteAgain c.legs).map InOutPct.outPct }

/-! ## The tick -/

/-- The ticks that are looked at. -/
def isIncluded (config : ComputeConfig) (i : TickInput) (pair : Pair) (t : Tick) : Bool :=
  ¬(t.rate = 0 ∧ t.markPrice = 0) ∧ 0 < t.intervalH ∧ i.listed pair ∧
    ¬(0 < t.volume24h ∧ t.volume24h < config.minVolumeUSD)

/-- The tick of a venue that is looked at. -/
def TickInput.included (config : ComputeConfig) (i : TickInput) (pair : Pair) : Option Tick :=
  (i.ticks.lookup pair).filter (isIncluded config i pair)

/-- A long and a short leg, if they are of one symbol and their marks are not too
far apart. -/
def pairUp (long short : Sigma fun _ : Pair => Tick) : Option Candidate :=
  let c : Candidate := ⟨long.1.symbol, long.1.exchange, short.1.exchange, long.2, short.2⟩
  if long.1.symbol = short.1.symbol ∧ long.1.exchange ≠ short.1.exchange ∧
      sameToken c.row.long c.row.short ∧ |spreads c.row| ≤ highSpreadThreshold then some c
  else none

/-- Both orders of two venues. -/
def TickInput.candidates (config : ComputeConfig) (i : TickInput) : List Candidate :=
  let entries := i.ticks.entries.filter fun e => isIncluded config i e.1 e.2
  entries.flatMap fun long => entries.filterMap (pairUp long)

/-- The table, observed and then purged. -/
def futuresTable (config : ComputeConfig) : Rounds TickInput Candidate Legs where
  now := TickInput.now
  candidates i := some (i.candidates config)
  key := Candidate.legs
  lifetime := oppMinLifetime
  gap := oppPurgeAfter
  purgeFirst := false

/-- The rows of a tick that comes after others. -/
def opportunities (config : ComputeConfig) (inputs : List TickInput) (i : TickInput) :
    List FuturesOpp :=
  ((futuresTable config).kept inputs i).map (Candidate.opp i)

/-- The rows that are written: those with the widest price difference. -/
def Written (config : ComputeConfig) (opps written : List FuturesOpp) : Prop :=
  Ranking.Top config.fileTopN (fun opp => |opp.priceSpread|) opps written

/-! ## Which pairs qualify -/

/-- Two different venues have ticks of the symbol that are looked at, with marks
that are within a factor of three. -/
def TickInput.Qualifies (config : ComputeConfig) (i : TickInput) (legs : Legs) : Prop :=
  legs.longEx ≠ legs.shortEx ∧
    ∃ long short, i.included config ⟨legs.longEx, legs.symbol⟩ = some long ∧
      i.included config ⟨legs.shortEx, legs.symbol⟩ = some short ∧
      0 < long.markPrice ∧ 0 < short.markPrice ∧
      long.markPrice ≤ 3 * short.markPrice ∧ short.markPrice ≤ 3 * long.markPrice

/-- The pair the other way round. -/
def reversed (legs : Legs) : Legs := ⟨legs.shortEx, legs.longEx, legs.symbol⟩

section

variable {config : ComputeConfig} {i : TickInput} {legs : Legs}

theorem sameToken_iff {long short : Leg} :
    sameToken long short ↔ 0 < long.mark ∧ 0 < short.mark ∧
      long.mark ≤ 3 * short.mark ∧ short.mark ≤ 3 * long.mark := by
  unfold sameToken
  refine and_congr_right fun longMark => and_congr_right fun shortMark => ?_
  rw [div_le_iff₀ (lt_min longMark shortMark), max_le_iff]
  rcases le_total long.mark short.mark with le | le
  · rw [min_eq_left le]
    constructor
    · intro given
      exact ⟨by linarith, given.2⟩
    · intro given
      exact ⟨by linarith, given.2⟩
  · rw [min_eq_right le]
    constructor
    · intro given
      exact ⟨given.1, by linarith⟩
    · intro given
      exact ⟨given.1, by linarith⟩

/-- Marks within a factor of three are never 200 % apart: the second guard stops
nothing. -/
theorem spreads_le {row : Row} (same : sameToken row.long row.short) :
    |spreads row| ≤ highSpreadThreshold := by
  obtain ⟨longMark, shortMark, -, upper⟩ := sameToken_iff.mp same
  unfold spreads highSpreadThreshold
  rw [abs_le]
  constructor
  · rw [le_div_iff₀ longMark]
    linarith
  · rw [div_le_iff₀ longMark]
    linarith

theorem mem_entries_iff {pair : Pair} {t : Tick} :
    (⟨pair, t⟩ : Sigma fun _ : Pair => Tick) ∈
        i.ticks.entries.filter (fun e => isIncluded config i e.1 e.2) ↔
      i.included config pair = some t := by
  unfold TickInput.included
  rw [List.mem_filter, Option.filter_eq_some_iff, ← AList.mem_lookup_iff, Option.mem_def]

theorem pairUp_eq_some {long short : Sigma fun _ : Pair => Tick} {c : Candidate} :
    pairUp long short = some c ↔ long = ⟨⟨c.longEx, c.symbol⟩, c.long⟩ ∧
      short = ⟨⟨c.shortEx, c.symbol⟩, c.short⟩ ∧ c.longEx ≠ c.shortEx ∧
        sameToken c.row.long c.row.short := by
  obtain ⟨⟨longEx, symbol⟩, long⟩ := long
  obtain ⟨⟨shortEx, symbol'⟩, short⟩ := short
  constructor
  · intro built
    obtain ⟨⟨symbols, venues, same, -⟩, built⟩ := Option.ite_none_right_eq_some.mp built
    cases built
    cases (symbols : symbol = symbol')
    exact ⟨rfl, rfl, venues, same⟩
  · intro given
    obtain ⟨longSame, shortSame, venues, same⟩ := given
    cases longSame
    cases shortSame
    exact if_pos ⟨rfl, venues, same, spreads_le same⟩

/-- The candidates are the pairs that qualify, with their ticks. -/
theorem mem_candidates_iff {c : Candidate} :
    c ∈ i.candidates config ↔ c.longEx ≠ c.shortEx ∧
      i.included config ⟨c.longEx, c.symbol⟩ = some c.long ∧
      i.included config ⟨c.shortEx, c.symbol⟩ = some c.short ∧ sameToken c.row.long c.row.short := by
  unfold TickInput.candidates
  rw [List.mem_flatMap]
  constructor
  · intro given
    obtain ⟨long, longTick, inner⟩ := given
    obtain ⟨short, shortTick, built⟩ := List.mem_filterMap.mp inner
    obtain ⟨rfl, rfl, venues, same⟩ := pairUp_eq_some.mp built
    exact ⟨venues, mem_entries_iff.mp longTick, mem_entries_iff.mp shortTick, same⟩
  · intro given
    obtain ⟨venues, longTick, shortTick, same⟩ := given
    refine ⟨_, mem_entries_iff.mpr longTick, List.mem_filterMap.mpr
      ⟨_, mem_entries_iff.mpr shortTick, pairUp_eq_some.mpr ⟨rfl, rfl, venues, same⟩⟩⟩

theorem mem_keys_iff : legs ∈ (i.candidates config).map Candidate.legs ↔
    i.Qualifies config legs := by
  constructor
  · intro given
    obtain ⟨c, member, rfl⟩ := List.mem_map.mp given
    obtain ⟨venues, longTick, shortTick, same⟩ := mem_candidates_iff.mp member
    exact ⟨venues, c.long, c.short, longTick, shortTick, sameToken_iff.mp same⟩
  · intro given
    obtain ⟨venues, long, short, longTick, shortTick, marks⟩ := given
    refine List.mem_map.mpr ⟨⟨legs.symbol, legs.longEx, legs.shortEx, long, short⟩, ?_, rfl⟩
    exact mem_candidates_iff.mpr ⟨venues, longTick, shortTick, sameToken_iff.mpr marks⟩

theorem qualifies_reversed : i.Qualifies config (reversed legs) ↔ i.Qualifies config legs := by
  have once : ∀ legs, i.Qualifies config legs → i.Qualifies config (reversed legs) := by
    intro legs given
    obtain ⟨venues, long, short, longTick, shortTick, longMark, shortMark, upper, lower⟩ := given
    exact ⟨venues.symm, short, long, shortTick, longTick, shortMark, longMark, lower, upper⟩
  exact ⟨once (reversed legs), once legs⟩

/-- A candidate is known by its pair. -/
theorem eq_of_legs {c c' : Candidate} (member : c ∈ i.candidates config)
    (member' : c' ∈ i.candidates config) (same : c.legs = c'.legs) : c = c' := by
  obtain ⟨-, longTick, shortTick, -⟩ := mem_candidates_iff.mp member
  obtain ⟨-, longTick', shortTick', -⟩ := mem_candidates_iff.mp member'
  obtain ⟨symbol, longEx, shortEx, long, short⟩ := c
  obtain ⟨symbol', longEx', shortEx', long', short'⟩ := c'
  cases same
  cases Option.some.inj (longTick.symm.trans longTick')
  cases Option.some.inj (shortTick.symm.trans shortTick')
  rfl

/-- Each pair is a candidate once. -/
theorem nodup_keys : ((i.candidates config).map Candidate.legs).Nodup := by
  have keys : i.ticks.entries.Pairwise fun e e' => e.1 ≠ e'.1 :=
    List.pairwise_map.mp i.ticks.nodupKeys
  have entries := keys.filter fun e => isIncluded config i e.1 e.2
  refine List.Nodup.map_on (fun c member c' member' => eq_of_legs member member') ?_
  refine List.nodup_flatMap.mpr ⟨fun long _ => ?_, entries.imp fun {long long'} unlike => ?_⟩
  · refine List.pairwise_filterMap.mpr (entries.imp fun {short short'} unlike c built c' built' => ?_)
    intro same
    subst same
    obtain ⟨-, rfl, -⟩ := pairUp_eq_some.mp built
    obtain ⟨-, rfl, -⟩ := pairUp_eq_some.mp built'
    exact unlike rfl
  · intro c inside inside'
    obtain ⟨short, -, built⟩ := List.mem_filterMap.mp inside
    obtain ⟨short', -, built'⟩ := List.mem_filterMap.mp inside'
    obtain ⟨rfl, -⟩ := pairUp_eq_some.mp built
    obtain ⟨rfl, -⟩ := pairUp_eq_some.mp built'
    exact unlike rfl

end

/-! ## Runs -/

/-- A pair has qualified since `first`, and no tick since then came more than 90
seconds after one at which it did. -/
def HeldSince (config : ComputeConfig) (inputs : List TickInput) (i : TickInput) (legs : Legs)
    (first : Nat) : Prop :=
  Unbroken oppPurgeAfter ((futuresTable config).before inputs i) legs first

section

variable {config : ComputeConfig} {inputs : List TickInput} {i : TickInput} {legs : Legs}

theorem once : (futuresTable config).Once := by
  intro i candidates given
  cases given
  exact nodup_keys

theorem mem_opportunities_iff (ordered : (futuresTable config).Ordered (inputs ++ [i]))
    {opp : FuturesOpp} :
    opp ∈ opportunities config inputs i ↔ ∃ c ∈ i.candidates config, c.opp i = opp ∧
      ∃ first, HeldSince config inputs i c.legs first ∧ first + oppMinLifetime ≤ i.now := by
  unfold opportunities
  rw [List.mem_map]
  refine exists_congr fun c => ?_
  rw [Rounds.mem_kept_iff once ordered, and_assoc, and_comm (a := ∃ _, _)]
  rfl

theorem mem_legs_iff (ordered : (futuresTable config).Ordered (inputs ++ [i])) :
    legs ∈ (opportunities config inputs i).map FuturesOpp.legs ↔
      i.Qualifies config legs ∧
        ∃ first, HeldSince config inputs i legs first ∧ first + oppMinLifetime ≤ i.now := by
  rw [List.mem_map]
  constructor
  · intro given
    obtain ⟨opp, member, rfl⟩ := given
    obtain ⟨c, candidate, rfl, held⟩ := (mem_opportunities_iff ordered).mp member
    exact ⟨mem_keys_iff.mp (List.mem_map_of_mem candidate), held⟩
  · intro given
    obtain ⟨qualifies, held⟩ := given
    obtain ⟨c, candidate, rfl⟩ := List.mem_map.mp (mem_keys_iff.mpr qualifies)
    exact ⟨c.opp i, (mem_opportunities_iff ordered).mpr ⟨c, candidate, rfl, held⟩, rfl⟩

theorem nodup_legs :
    ((opportunities config inputs i).map FuturesOpp.legs).Nodup := by
  unfold opportunities
  rw [List.map_map]
  exact Rounds.nodup_kept once inputs i

/-- A pair and its reverse come and go together. -/
theorem heldSince_reversed {first : Nat} (held : HeldSince config inputs i legs first) :
    HeldSince config inputs i (reversed legs) first := by
  have both : ∀ time keys, .observe time keys ∈ (futuresTable config).before inputs i →
      legs ∈ keys → reversed legs ∈ keys := by
    intro time keys inside member
    have observed := (List.mem_append.mp inside).resolve_right List.not_mem_nil
    obtain ⟨j, -, known⟩ := List.mem_flatMap.mp observed
    rcases List.mem_pair.mp known with same | same
    · cases same
      exact mem_keys_iff.mpr (qualifies_reversed.mpr (mem_keys_iff.mp member))
    · cases same
  obtain ⟨before, keys, later, split, member, kept⟩ := held
  have inside : ∀ e ∈ Event.observe first keys :: later,
      e ∈ (futuresTable config).before inputs i := by
    intro e known
    rw [split]
    exact List.mem_append_right _ known
  refine ⟨before, keys, later, split, both first keys (inside _ List.mem_cons_self) member,
    fun early time late cut => ?_⟩
  obtain ⟨t, keys', known, member', near⟩ := kept early time late cut
  refine ⟨t, keys', known, both t keys' (inside _ ?_) member', near⟩
  rw [cut]
  exact List.cons_subset_cons _ (List.subset_append_left _ _) known

end

/-- After any ticks, a tick has a row for exactly the pairs that qualify and have
been held for a second, once each and in both directions, made from the ticks of
the two venues; and the rows that are not written are no wider than those that
are. -/
theorem futures_rows (config : ComputeConfig) {inputs : List TickInput} {i : TickInput}
    (ordered : (futuresTable config).Ordered (inputs ++ [i])) :
    (∀ legs, legs ∈ (opportunities config inputs i).map FuturesOpp.legs ↔
      i.Qualifies config legs ∧
        ∃ first, HeldSince config inputs i legs first ∧ first + oppMinLifetime ≤ i.now) ∧
    ((opportunities config inputs i).map FuturesOpp.legs).Nodup ∧
    (∀ legs ∈ (opportunities config inputs i).map FuturesOpp.legs,
      reversed legs ∈ (opportunities config inputs i).map FuturesOpp.legs) ∧
    (∀ opp ∈ opportunities config inputs i, ∃ long short,
      i.included config ⟨opp.longExchange, opp.symbol⟩ = some long ∧
      i.included config ⟨opp.shortExchange, opp.symbol⟩ = some short ∧
      opp = Candidate.opp i ⟨opp.symbol, opp.longExchange, opp.shortExchange, long, short⟩) ∧
    (∃ written, Written config (opportunities config inputs i) written) ∧
    ∀ written, Written config (opportunities config inputs i) written →
      written.length = min config.fileTopN (opportunities config inputs i).length ∧
      written ⊆ opportunities config inputs i ∧
      ∀ opp ∈ opportunities config inputs i, opp ∉ written →
        ∀ opp' ∈ written, |opp.priceSpread| ≤ |opp'.priceSpread| := by
  refine ⟨fun legs => mem_legs_iff ordered, nodup_legs, fun legs member => ?_,
    fun opp member => ?_, Ranking.exists_top _ _ _, fun written given => ?_⟩
  · obtain ⟨now, first, held, old⟩ := (mem_legs_iff ordered).mp member
    exact (mem_legs_iff ordered).mpr
      ⟨qualifies_reversed.mpr now, first, heldSince_reversed held, old⟩
  · obtain ⟨c, candidate, rfl, -⟩ := (mem_opportunities_iff ordered).mp member
    obtain ⟨-, longTick, shortTick, -⟩ := mem_candidates_iff.mp candidate
    exact ⟨c.long, c.short, longTick, shortTick, rfl⟩
  · exact ⟨given.length_eq, given.subset,
      fun opp member out opp' inside => given.rank_le member out inside⟩

def sampleTick (markPrice : ℚ) : Tick where
  symbol := "BTC"
  rate := 1 / 10000
  markPrice
  indexPrice := markPrice
  volume24h := 1000000
  openIntUSD := 0
  nextFunding := 0
  intervalH := 8
  updatedAt := 0

/-- Two venues with marks of 100 and 110. -/
def sampleInput (now : Nat) : TickInput where
  now
  ticks := ((∅ : Funding.Ticks).insert ⟨"binance", "BTC"⟩ (sampleTick 100)).insert ⟨"bybit", "BTC"⟩
    (sampleTick 110)
  listed _ := true
  quote _ := none
  quoteAgain _ := none

theorem futures_rows_sample :
    ⟨"bybit", "binance", "BTC"⟩ ∈ (opportunities {}
      [sampleInput 0, sampleInput 700000000] (sampleInput 1400000000)).map FuturesOpp.legs := by
  have ordered : (futuresTable {}).Ordered
      ([sampleInput 0, sampleInput 700000000] ++ [sampleInput 1400000000]) := by
    unfold Rounds.Ordered
    decide
  exact (futures_rows {} ordered).2.2.1 ⟨"binance", "bybit", "BTC"⟩ (by decide +kernel)

end Arb

end Avalant
