import Avalant.Lib.Float
import Avalant.Lib.Median
import Avalant.Lib.Ranking
import Mathlib.Tactic.NormNum

/-!
The pool that prices a token on a decentralised exchange.

Anyone can open a pool at any price. The pools of a token are filtered by quote asset, the five
deepest vote for a price by their median, and the deepest eligible pool near that median is taken.
Arithmetic is exact. What `strings` and `strconv` make of a text is a parameter, and so is the
order `sort.Slice` leaves equal pools in.
-/

namespace Avalant

namespace Arb

open Go (Float64 SortSlice)

/-- A pool as DexScreener lists it. -/
structure DsPair where
  chainId : String
  dexId : String
  url : String
  priceUsd : String
  baseSymbol : String
  baseAddress : String
  quoteSymbol : String
  liquidityUsd : ℚ
  volumeH24 : ℚ

structure DexInfo where
  symbol : String
  chain : String
  dex : String
  price : Float64
  liquidityUsd : ℚ
  volumeUsd : ℚ
  baseAddress : String
  pairUrl : String

/-- `strings.ToLower`, `strings.ToUpper` and the value of `strconv.ParseFloat`, which is 0 for what
it cannot read. -/
structure Texts where
  toLower : String → String
  toUpper : String → String
  parseFloat : String → Float64

structure Pool where
  symbol : String
  dex : String
  price : Float64
  liq : ℚ
  vol : ℚ
  pairUrl : String
deriving DecidableEq

def minDexLiqUsd : ℚ := 5000

def minDexVolUsd : ℚ := 1000

def dexConsensusMaxDev : ℚ := 0.015

def acceptedQuotes : List String :=
  ["USDT", "USDC", "WETH", "WBTC", "WBNB", "WSOL", "SOL", "ETH", "BNB", "MATIC", "WMATIC"]

/-- The order of both sorts. -/
abbrev Pool.Deeper (p q : Pool) : Prop :=
  q.liq < p.liq

namespace PickFromPools

variable (texts : Texts) (slice : SortSlice Pool.Deeper) (chain address : String)
  (pairs : List DsPair)

/-- Of the token, against an accepted asset. -/
def quoted (p : DsPair) : Bool :=
  p.chainId = chain ∧ texts.toLower p.baseAddress = texts.toLower address ∧
    texts.toUpper p.quoteSymbol ∈ acceptedQuotes

def anyQuote : Bool :=
  pairs.any (quoted texts chain address)

def toPool (p : DsPair) : Option Pool :=
  let px := texts.parseFloat p.priceUsd
  if px.le (.fin 0) then none
  else some ⟨texts.toUpper p.baseSymbol, p.dexId, px, p.liquidityUsd, p.volumeH24, p.url⟩

def pools : List Pool :=
  (pairs.filter (quoted texts chain address)).filterMap (toPool texts)

def eligible : List Pool :=
  (pools texts chain address pairs).filter fun p => minDexLiqUsd ≤ p.liq ∧ minDexVolUsd ≤ p.vol

def voters : List Pool :=
  (slice.sort (pools texts chain address pairs)).take 5

/-- The index is in range where a pool votes. -/
def median : Float64 :=
  let prices := Float64.sort ((voters texts slice chain address pairs).map Pool.price)
  prices.getD (prices.length / 2) .nan

/-- Within the tolerance of a median. -/
def near (m : Float64) (p : Pool) : Bool :=
  (((p.price.sub m).abs).div m).le (.fin dexConsensusMaxDev)

def info (p : Pool) : DexInfo :=
  ⟨p.symbol, chain, p.dex, p.price, p.liq, p.vol, texts.toLower address, p.pairUrl⟩

end PickFromPools

open PickFromPools in
/-- The pool, and why there is none. -/
def pickFromPools (texts : Texts) (slice : SortSlice Pool.Deeper) (chain address : String)
    (pairs : List DsPair) : Option DexInfo × String :=
  if pools texts chain address pairs = [] then
    (none, if anyQuote texts chain address pairs then "liq" else "quote")
  else if eligible texts chain address pairs = [] then (none, "liq")
  else
    let m := median texts slice chain address pairs
    if m.le (.fin 0) then (none, "consensus")
    else
      match (slice.sort (eligible texts chain address pairs)).find? (near m) with
      | none => (none, "consensus")
      | some best => (some (info texts chain address best), "ok")

namespace PickFromPools

variable {texts : Texts} {slice : SortSlice Pool.Deeper} {chain address : String}
  {pairs : List DsPair} {a b m : ℚ} {p : Pool}

/-- A strict majority of the voters have prices in an interval. -/
def Majority (texts : Texts) (slice : SortSlice Pool.Deeper) (chain address : String)
    (pairs : List DsPair) (a b : ℚ) : Prop :=
  (voters texts slice chain address pairs).length <
    2 * (voters texts slice chain address pairs).countP fun p => p.price.within a b

/-- The median is a price of the majority, whatever the other voters' prices and places are. -/
theorem median_within (majority : Majority texts slice chain address pairs a b) :
    ∃ m : ℚ, median texts slice chain address pairs = .fin m ∧ a ≤ m ∧ m ≤ b := by
  unfold Majority at majority
  generalize drawn : (voters texts slice chain address pairs).map Pool.price = prices
  have perm := Float64.sort_perm prices
  have sorted_majority : (Float64.sort prices).length < 2 * (Float64.sort prices).countP
      (Float64.within a b) := by
    rw [perm.length_eq, perm.countP_eq, ← drawn, List.length_map, List.countP_map]
    exact majority
  have inside : (Float64.sort prices).length / 2 < (Float64.sort prices).length := by
    have some_in : (Float64.sort prices).countP (Float64.within a b) ≤ (Float64.sort prices).length :=
      List.countP_le_length
    omega
  have middle : (Float64.sort prices)[(Float64.sort prices).length / 2]? =
      some (median texts slice chain address pairs) := by
    unfold median
    rw [drawn, List.getD_eq_getElem?_getD, List.getElem?_eq_getElem inside]
    rfl
  have within := Sorted.getElem_middle_of_majority (Float64.sort_sorted prices)
    (fun x y z below above => Float64.within_of_between below above) middle sorted_majority
  exact Float64.within_iff.mp within

theorem near_iff (pos : 0 < m) :
    near (.fin m) p = true ↔ ∃ q : ℚ, p.price = .fin q ∧ |q - m| ≤ dexConsensusMaxDev * m :=
  Float64.deviation_le_iff pos

/-- The pools that vote are the deepest five, whatever order equal pools are left in. -/
theorem voters_top :
    Ranking.Top 5 Pool.liq (pools texts chain address pairs)
      (voters texts slice chain address pairs) :=
  ⟨_, slice.perm _, (slice.sorted _).imp not_lt.mp, rfl⟩

/-- Where the median is positive, there is an answer exactly where an eligible pool is near it. -/
theorem pickFromPools_isSome_iff (here : median texts slice chain address pairs = .fin m)
    (pos : 0 < m) :
    (pickFromPools texts slice chain address pairs).1.isSome ↔
      ∃ p ∈ eligible texts chain address pairs, near (.fin m) p = true := by
  have positive : Float64.le (.fin m) (.fin 0) = false := by
    simpa [Float64.le] using pos
  unfold pickFromPools
  rw [here]
  split
  case isTrue nothing =>
    have no_eligible : eligible texts chain address pairs = [] := by
      unfold eligible
      rw [nothing]
      rfl
    simp [no_eligible]
  case isFalse =>
    split
    case isTrue no_eligible => simp [no_eligible]
    case isFalse =>
      have same (p : Pool) : p ∈ slice.sort (eligible texts chain address pairs) ↔
          p ∈ eligible texts chain address pairs :=
        (slice.perm _).mem_iff
      have found_iff := @List.find?_isSome _ (slice.sort (eligible texts chain address pairs))
        (near (.fin m))
      simp only [same] at found_iff
      simp only [positive, Bool.false_eq_true, if_false]
      rw [← found_iff]
      split
      case h_1 missing => simp [missing]
      case h_2 best found => simp [found]

/-- What is returned is the first near pool of the eligible ones, the deepest first. -/
theorem pickFromPools_eq_some {answer : DexInfo}
    (picked : (pickFromPools texts slice chain address pairs).1 = some answer) :
    ∃ best, (slice.sort (eligible texts chain address pairs)).find?
        (near (median texts slice chain address pairs)) = some best ∧
      answer = info texts chain address best := by
  unfold pickFromPools at picked
  split at picked
  · cases picked
  · split at picked
    · cases picked
    · dsimp only at picked
      split at picked
      · cases picked
      · split at picked
        case h_1 => cases picked
        case h_2 best found =>
          cases picked
          exact ⟨best, found, rfl⟩

end PickFromPools

open PickFromPools

/-- The deepest five vote. Where a strict majority of them agree on an interval, the median is of the
interval, there is an answer exactly where an eligible pool is within the tolerance of the median,
its price is within the tolerance of the interval, and it is the deepest of these pools. -/
theorem pickFromPools_of_majority (texts : Texts) (slice : SortSlice Pool.Deeper)
    (chain address : String) (pairs : List DsPair) (a b : ℚ) (pos : 0 < a)
    (majority : Majority texts slice chain address pairs a b) :
    Ranking.Top 5 Pool.liq (pools texts chain address pairs)
      (voters texts slice chain address pairs) ∧
    ∃ m : ℚ, median texts slice chain address pairs = .fin m ∧ a ≤ m ∧ m ≤ b ∧
      ((pickFromPools texts slice chain address pairs).1.isSome ↔
        ∃ p ∈ eligible texts chain address pairs, ∃ q : ℚ, p.price = .fin q ∧
          |q - m| ≤ dexConsensusMaxDev * m) ∧
      ∀ answer, (pickFromPools texts slice chain address pairs).1 = some answer →
        (∃ q : ℚ, answer.price = .fin q ∧ a * (1 - dexConsensusMaxDev) ≤ q ∧
          q ≤ b * (1 + dexConsensusMaxDev)) ∧
        ∃ best ∈ eligible texts chain address pairs, answer = info texts chain address best ∧
          (∃ q : ℚ, best.price = .fin q ∧ |q - m| ≤ dexConsensusMaxDev * m) ∧
          ∀ p ∈ eligible texts chain address pairs,
            (∃ q : ℚ, p.price = .fin q ∧ |q - m| ≤ dexConsensusMaxDev * m) → p.liq ≤ best.liq := by
  rcases median_within majority with ⟨m, here, low, high⟩
  have m_pos : 0 < m := pos.trans_le low
  have answered := pickFromPools_isSome_iff here m_pos
  simp only [near_iff m_pos] at answered
  refine ⟨voters_top, m, here, low, high, answered, fun answer picked => ?_⟩
  rcases pickFromPools_eq_some picked with ⟨best, found, rfl⟩
  rw [here] at found
  have chosen := (near_iff m_pos).mp (List.find?_some found)
  have member : best ∈ eligible texts chain address pairs :=
    (slice.perm _).mem_iff.mp (List.mem_of_find?_eq_some found)
  refine ⟨?_, best, member, rfl, chosen, fun p listed close => ?_⟩
  · rcases chosen with ⟨q, price, close⟩
    have small : dexConsensusMaxDev ≤ 1 := by norm_num [dexConsensusMaxDev]
    have nonneg : 0 ≤ dexConsensusMaxDev := by norm_num [dexConsensusMaxDev]
    exact ⟨q, price, Float64.bounds_of_deviation nonneg small low high close⟩
  · have sorted := slice.sorted (eligible texts chain address pairs)
    have among : p ∈ slice.sort (eligible texts chain address pairs) :=
      (slice.perm _).mem_iff.mpr listed
    rcases Sorted.first_of_find? sorted found among ((near_iff m_pos).mpr close) with rfl | later
    · exact le_rfl
    · exact not_lt.mp later

/-- Of the texts below, which are in the right case. -/
def plainTexts : Texts where
  toLower s := s
  toUpper s := s
  parseFloat s := if s = "2.00" then .fin 2 else if s = "1e400" then .inf false else .fin 0

def poolAt (priceUsd : String) (liq : ℚ) : DsPair :=
  ⟨"base", "uniswap", "", priceUsd, "TOK", "0xab", "USDC", liq, 20000⟩

/-- The deepest pool has an infinite price. -/
def poisoned : List DsPair :=
  [poolAt "2.00" 6000, poolAt "1e400" 900000, poolAt "2.00" 7000]

theorem majority_poisoned :
    Majority plainTexts (SortSlice.stable Pool.liq) "base" "0xab" poisoned 2 2 := by
  unfold Majority
  decide +kernel

theorem pickFromPools_outvoted :
    (pickFromPools plainTexts (SortSlice.stable Pool.liq) "base" "0xab" poisoned).1.isSome ∧
    ∀ answer, (pickFromPools plainTexts (SortSlice.stable Pool.liq) "base" "0xab" poisoned).1 =
      some answer → ∃ q : ℚ, answer.price = .fin q ∧ 2 * (1 - dexConsensusMaxDev) ≤ q ∧
        q ≤ 2 * (1 + dexConsensusMaxDev) := by
  constructor
  · decide +kernel
  · intro answer picked
    obtain ⟨-, m, -, -, -, -, answers⟩ := pickFromPools_of_majority plainTexts
      (SortSlice.stable Pool.liq) "base" "0xab" poisoned 2 2 (by norm_num) majority_poisoned
    exact (answers answer picked).1

end Arb

end Avalant
