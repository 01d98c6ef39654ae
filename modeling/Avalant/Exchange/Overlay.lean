import Avalant.Exchange.Session
import Avalant.Lib.Ladder

/-!
Best prices over the depth of a book.

Venues send the depth of a book and its best prices in two streams. `ws.SortedLevels` gives the
depth; where both best prices are there, the depth that crosses them is purged, and they are put in
front. OKX, Gate and HTX merge the streams in the same way.
-/

namespace Avalant

namespace Exchange

open Gate (BboLevel BookLevel Ladders Side setLevel sortedLevels spliceBBOAsk spliceBBOBid)
open Ladder (Apart Ordered)

/-- No depth of one side reaches the best price of the other. -/
def purge (depth : Depth) (b : BboLevel) : Depth :=
  ⟨depth.bids.filter fun level => level.1 < b.askPx, depth.asks.filter fun level => b.bidPx < level.1⟩

/-- `mergedSnapshot`, from the depth and the best prices of its symbol: the depth alone where a best
price is missing or the two cross. -/
def merge (depth : Depth) (bbo : Option BboLevel) : Depth :=
  match bbo with
  | none => depth
  | some b =>
      if b.bidPx ≤ 0 ∨ b.askPx ≤ 0 ∨ b.askPx ≤ b.bidPx then depth
      else
        ⟨spliceBBOBid (purge depth b).bids b.bidPx b.bidSz,
          spliceBBOAsk (purge depth b).asks b.askPx b.askSz⟩

/-- Two cells of a row, as `strconv.ParseFloat` reads them. Rows with fewer cells, or with others,
are skipped. -/
def rowLevel : List (Option ℚ) → Option BookLevel
  | some p :: some s :: _ => some ⟨p, s⟩
  | _ => none

/-- The rows of a frame, over a side of a book. -/
def applyRows (side : Side) (rows : List (List (Option ℚ))) : Side :=
  (rows.filterMap rowLevel).foldl setLevel side

end Exchange

/-- A depth that a table can trade on. -/
structure Depth.WellFormed (depth : Depth) : Prop where
  bids : depth.bids.Pairwise fun level level' => level'.1 < level.1
  asks : depth.asks.Pairwise fun level level' => level.1 < level'.1
  bidsOnce : (depth.bids.map Prod.fst).Nodup
  asksOnce : (depth.asks.map Prod.fst).Nodup
  best : ∀ bid ∈ depth.bids.head?, ∀ ask ∈ depth.asks.head?, bid.1 < ask.1

/-- Every bid is below every ask. -/
def Depth.Uncrossed (depth : Depth) : Prop :=
  Ladder.Apart depth.bids depth.asks

namespace Exchange

open Gate (BboLevel Ladders Side sortedLevels spliceBBOAsk spliceBBOBid)
open Ladder (Apart Ordered)

/-- Both sides are ladders. -/
structure Sorted (depth : Depth) : Prop where
  bids : Ordered (· > ·) depth.bids
  asks : Ordered (· < ·) depth.asks

variable {depth : Depth}

theorem Sorted.wellFormed_iff (sorted : Sorted depth) : depth.WellFormed ↔ depth.Uncrossed := by
  have iff := Ladder.apart_iff sorted.bids sorted.asks
  exact ⟨fun formed => iff.mpr formed.best, fun apart =>
    ⟨sorted.bids, sorted.asks, sorted.bids.nodup, sorted.asks.nodup, iff.mp apart⟩⟩

/-! ## The depth of a book -/

/-- The prices of a side are different, so that a strict order is left. -/
theorem ordered_sortedLevels {r r' : ℚ → ℚ → Prop} [DecidableRel r] [IsTrans ℚ r]
    [Std.Antisymm r] [Std.Total r] (strict : ∀ p q, r p q → p ≠ q → r' p q) (side : Side)
    (cap : Nat) : Ordered r' (sortedLevels side r cap) := by
  have prices : (side.keys.sort r).Pairwise r' := by
    have sorted := Finset.pairwise_sort side.keys r
    have distinct := Finset.sort_nodup side.keys r
    exact (sorted.and distinct).imp fun both => strict _ _ both.1 both.2
  unfold sortedLevels
  exact ((Ordered.of_prices prices _).filter _).take cap

theorem sorted_depth (book : Ladders) : Sorted book.depth where
  bids := ordered_sortedLevels (fun _ _ le ne => lt_of_le_of_ne le ne.symm) _ _
  asks := ordered_sortedLevels (fun _ _ le ne => lt_of_le_of_ne le ne) _ _

theorem sorted_nil : Sorted ⟨[], []⟩ :=
  ⟨List.Pairwise.nil, List.Pairwise.nil⟩

/-! ## The best prices -/

theorem spliceBBOBid_eq {price : ℚ} (positive : 0 < price) (bids : List Level) (size : ℚ) :
    spliceBBOBid bids price size = Ladder.splice (· > ·) bids price size := by
  unfold spliceBBOBid
  rw [if_neg (not_le.mpr positive)]
  cases bids with
  | nil => rfl
  | cons best rest => rfl

theorem spliceBBOAsk_eq {price : ℚ} (positive : 0 < price) (asks : List Level) (size : ℚ) :
    spliceBBOAsk asks price size = Ladder.splice (· < ·) asks price size := by
  unfold spliceBBOAsk
  rw [if_neg (not_le.mpr positive)]
  cases asks with
  | nil => rfl
  | cons best rest => rfl

variable {b : BboLevel}

theorem Sorted.purge (sorted : Sorted depth) (b : BboLevel) : Sorted (purge depth b) :=
  ⟨sorted.bids.filter _, sorted.asks.filter _⟩

theorem uncrossed_purge (uncrossed : depth.Uncrossed) (b : BboLevel) :
    (purge depth b).Uncrossed :=
  fun bid member ask member' =>
    uncrossed bid (List.mem_filter.mp member).1 ask (List.mem_filter.mp member').1

/-- Best prices that do not cross, over a depth that they have purged. -/
theorem uncrossed_splice (uncrossed : depth.Uncrossed) (apart : b.bidPx < b.askPx) :
    Apart (Ladder.splice (· > ·) (purge depth b).bids b.bidPx b.bidSz)
      (Ladder.splice (· < ·) (purge depth b).asks b.askPx b.askSz) := by
  refine (Ladder.apart_splice_bid _ _ _ _).mpr
    ⟨(Ladder.apart_splice_ask _ _ _ _).mpr ⟨uncrossed_purge uncrossed b, fun bid member => ?_⟩,
      fun ask member => ?_⟩
  · exact of_decide_eq_true (List.mem_filter.mp member).2
  · rcases Ladder.price_of_mem_splice member with same | ⟨level, kept, same⟩
    · rw [same]
      exact apart
    · rw [same]
      exact of_decide_eq_true (List.mem_filter.mp kept).2

/-- Whatever the two streams say, the merged book is well formed. -/
theorem wellFormed_merge (sorted : Sorted depth) (uncrossed : depth.Uncrossed)
    (bbo : Option BboLevel) : (merge depth bbo).WellFormed := by
  cases bbo with
  | none => exact sorted.wellFormed_iff.mpr uncrossed
  | some b =>
      simp only [merge]
      split
      · exact sorted.wellFormed_iff.mpr uncrossed
      case isFalse both =>
        rw [not_or, not_or, not_le, not_le, not_le] at both
        rcases both with ⟨bid, ask, apart⟩
        rw [spliceBBOBid_eq bid, spliceBBOAsk_eq ask]
        have purged := sorted.purge b
        have spliced : Sorted ⟨Ladder.splice (· > ·) (Exchange.purge depth b).bids b.bidPx b.bidSz,
            Ladder.splice (· < ·) (Exchange.purge depth b).asks b.askPx b.askSz⟩ :=
          ⟨purged.bids.splice _ _, purged.asks.splice _ _⟩
        exact spliced.wellFormed_iff.mpr (uncrossed_splice uncrossed apart)

end Exchange

end Avalant
