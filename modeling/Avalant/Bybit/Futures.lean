import Avalant.Exchange.DualTrack
import Avalant.Lib.Go

/-!
The orderbook adapter of Bybit futures.

The topic `orderbook.50` brings depth, `orderbook.1` brings best prices, of which a delta may have
one side only. Each side is put over the depth on its own, and the depth is purged only where both
sides are there.
-/

namespace Avalant

namespace Bybit

open Exchange
open Gate (BboLevel spliceBBOAsk spliceBBOBid)
open Ladder (Ordered)

structure Message where
  topic : String := ""
  type : String := ""
  symbol : String := ""
  rows : Rows := {}
  op : String := ""
  ret : String := ""

/-- One side of the best prices. Size 0 means that it is gone, as does a snapshot without it. -/
def bestOf (snapshot : Bool) (rows : List (List (Option ℚ))) (old : ℚ × ℚ) : ℚ × ℚ :=
  match parseLvl rows with
  | some (px, sz) => if sz = 0 then (0, 0) else (px, sz)
  | none => if snapshot then (0, 0) else old

/-- `applyBBO`. -/
def setBest (snapshot : Bool) (rows : Rows) (b : BboLevel) : BboLevel :=
  let bid := bestOf snapshot rows.bids (b.bidPx, b.bidSz)
  let ask := bestOf snapshot rows.asks (b.askPx, b.askSz)
  ⟨bid.1, bid.2, ask.1, ask.2⟩

/-- The checks of `Parse`. -/
def read (msg : Message) : Option (String × Update) :=
  let isDepth := Go.hasPrefix msg.topic "orderbook.50."
  let isBBO := Go.hasPrefix msg.topic "orderbook.1."
  if msg.op ≠ "" ∨ msg.ret ≠ "" then none
  else if !isDepth && !isBBO then none
  else if !Go.hasSuffix msg.symbol "USDT" then none
  else
    let token := Go.trimSuffix msg.symbol "USDT"
    if isBBO then some (token, .best (msg.type = "snapshot") msg.rows)
    else some (token, .depth (msg.type = "snapshot") msg.rows)

/-- `mergedSnapshot`. -/
def mergeSides (depth : Depth) (bbo : Option BboLevel) : Depth :=
  match bbo with
  | none => depth
  | some b =>
      if b.bidPx ≤ 0 ∧ b.askPx ≤ 0 then depth
      else
        let depth := if 0 < b.bidPx ∧ 0 < b.askPx ∧ b.bidPx < b.askPx then purge depth b else depth
        ⟨if 0 < b.bidPx then spliceBBOBid depth.bids b.bidPx b.bidSz else depth.bids,
          if 0 < b.askPx then spliceBBOAsk depth.asks b.askPx b.askSz else depth.asks⟩

def adapter : TwoTrack Message where
  read := read
  setBest := setBest
  merge := mergeSides

/-- The best prices do not cross each other, and one that is alone does not cross the depth. -/
def InStep (depth : Depth) (bbo : Option BboLevel) : Prop :=
  ∀ b ∈ bbo,
    if 0 < b.bidPx ∧ 0 < b.askPx then b.bidPx < b.askPx
    else (0 < b.bidPx → ∀ ask ∈ depth.asks, b.bidPx < ask.1) ∧
      (0 < b.askPx → ∀ bid ∈ depth.bids, bid.1 < b.askPx)

variable {depth : Depth} {b : BboLevel}

theorem mergeSides_of_both (bid : 0 < b.bidPx) (ask : 0 < b.askPx) :
    mergeSides depth (some b) =
      let depth := if b.bidPx < b.askPx then purge depth b else depth
      ⟨Ladder.splice (· > ·) depth.bids b.bidPx b.bidSz,
        Ladder.splice (· < ·) depth.asks b.askPx b.askSz⟩ := by
  simp only [mergeSides]
  rw [if_neg (fun none => not_lt.mpr none.1 bid), if_pos bid, if_pos ask, spliceBBOBid_eq bid,
    spliceBBOAsk_eq ask]
  simp only [bid, ask, true_and]

theorem mergeSides_of_bid (bid : 0 < b.bidPx) (noAsk : ¬0 < b.askPx) :
    mergeSides depth (some b) =
      ⟨Ladder.splice (· > ·) depth.bids b.bidPx b.bidSz, depth.asks⟩ := by
  simp only [mergeSides]
  rw [if_neg (fun none => not_lt.mpr none.1 bid), if_pos bid, if_neg noAsk, spliceBBOBid_eq bid,
    if_neg (fun both => noAsk both.2.1)]

theorem mergeSides_of_ask (noBid : ¬0 < b.bidPx) (ask : 0 < b.askPx) :
    mergeSides depth (some b) =
      ⟨depth.bids, Ladder.splice (· < ·) depth.asks b.askPx b.askSz⟩ := by
  simp only [mergeSides]
  rw [if_neg (fun none => not_lt.mpr none.2 ask), if_pos ask, if_neg noBid, spliceBBOAsk_eq ask,
    if_neg (fun both => noBid both.1)]

theorem mergeSides_of_neither (noBid : ¬0 < b.bidPx) (noAsk : ¬0 < b.askPx) :
    mergeSides depth (some b) = depth := by
  simp only [mergeSides]
  rw [if_pos ⟨not_lt.mp noBid, not_lt.mp noAsk⟩]

/-- Two best prices that cross are both in the book. -/
theorem crossed_splice (depth : Depth) (crossed : b.askPx ≤ b.bidPx) :
    ¬Ladder.Apart (Ladder.splice (· > ·) depth.bids b.bidPx b.bidSz)
      (Ladder.splice (· < ·) depth.asks b.askPx b.askSz) := by
  intro apart
  rcases Ladder.head_splice (· > ·) depth.bids b.bidPx b.bidSz with ⟨bid, member, high⟩
  rcases Ladder.head_splice (· < ·) depth.asks b.askPx b.askSz with ⟨ask, member', low⟩
  have below : bid.1 < ask.1 := apart bid member ask member'
  have bidHigh : b.bidPx ≤ bid.1 := high.elim (fun same => same.ge) fun better => le_of_lt better
  have askLow : ask.1 ≤ b.askPx := low.elim (fun same => same.le) fun better => le_of_lt better
  exact absurd below (not_lt.mpr (le_trans askLow (le_trans crossed bidHigh)))

theorem wellFormed_of_both (sorted : Sorted depth) (uncrossed : depth.Uncrossed)
    (bid : 0 < b.bidPx) (ask : 0 < b.askPx) :
    (mergeSides depth (some b)).WellFormed ↔ b.bidPx < b.askPx := by
  rw [mergeSides_of_both bid ask]
  by_cases apart : b.bidPx < b.askPx
  · simp only [if_pos apart]
    have purged := sorted.purge b
    have spliced : Sorted ⟨Ladder.splice (· > ·) (purge depth b).bids b.bidPx b.bidSz,
        Ladder.splice (· < ·) (purge depth b).asks b.askPx b.askSz⟩ :=
      ⟨purged.bids.splice _ _, purged.asks.splice _ _⟩
    exact ⟨fun _ => apart, fun _ => spliced.wellFormed_iff.mpr (uncrossed_splice uncrossed apart)⟩
  · simp only [if_neg apart]
    have spliced : Sorted ⟨Ladder.splice (· > ·) depth.bids b.bidPx b.bidSz,
        Ladder.splice (· < ·) depth.asks b.askPx b.askSz⟩ :=
      ⟨sorted.bids.splice _ _, sorted.asks.splice _ _⟩
    have crossed := crossed_splice depth (not_lt.mp apart)
    exact ⟨fun formed => absurd (spliced.wellFormed_iff.mp formed) crossed,
      fun same => absurd same apart⟩

theorem wellFormed_of_bid (sorted : Sorted depth) (uncrossed : depth.Uncrossed)
    (bid : 0 < b.bidPx) (noAsk : ¬0 < b.askPx) :
    (mergeSides depth (some b)).WellFormed ↔ ∀ ask ∈ depth.asks, b.bidPx < ask.1 := by
  rw [mergeSides_of_bid bid noAsk]
  have spliced : Sorted ⟨Ladder.splice (· > ·) depth.bids b.bidPx b.bidSz, depth.asks⟩ :=
    ⟨sorted.bids.splice _ _, sorted.asks⟩
  have iff := Ladder.apart_splice_bid depth.bids depth.asks b.bidPx b.bidSz
  rw [spliced.wellFormed_iff]
  exact ⟨fun apart => (iff.mp apart).2, fun below => iff.mpr ⟨uncrossed, below⟩⟩

theorem wellFormed_of_ask (sorted : Sorted depth) (uncrossed : depth.Uncrossed)
    (noBid : ¬0 < b.bidPx) (ask : 0 < b.askPx) :
    (mergeSides depth (some b)).WellFormed ↔ ∀ bid ∈ depth.bids, bid.1 < b.askPx := by
  rw [mergeSides_of_ask noBid ask]
  have spliced : Sorted ⟨depth.bids, Ladder.splice (· < ·) depth.asks b.askPx b.askSz⟩ :=
    ⟨sorted.bids, sorted.asks.splice _ _⟩
  have iff := Ladder.apart_splice_ask depth.bids depth.asks b.askPx b.askSz
  rw [spliced.wellFormed_iff]
  exact ⟨fun apart => (iff.mp apart).2, fun above => iff.mpr ⟨uncrossed, above⟩⟩

/-- Over a depth that is not crossed, the merged book is well formed exactly when the two streams
are in step. -/
theorem wellFormed_mergeSides_iff (sorted : Sorted depth) (uncrossed : depth.Uncrossed)
    (bbo : Option BboLevel) : (mergeSides depth bbo).WellFormed ↔ InStep depth bbo := by
  cases bbo with
  | none =>
      constructor
      · intro _ b here
        cases here
      · intro _
        exact sorted.wellFormed_iff.mpr uncrossed
  | some b =>
      have inStep : InStep depth (some b) ↔
          if 0 < b.bidPx ∧ 0 < b.askPx then b.bidPx < b.askPx
          else (0 < b.bidPx → ∀ ask ∈ depth.asks, b.bidPx < ask.1) ∧
            (0 < b.askPx → ∀ bid ∈ depth.bids, bid.1 < b.askPx) := by
        simp only [InStep, Option.mem_some_iff, forall_eq']
      rw [inStep]
      by_cases bid : 0 < b.bidPx
      · by_cases ask : 0 < b.askPx
        · rw [if_pos ⟨bid, ask⟩]
          exact wellFormed_of_both sorted uncrossed bid ask
        · rw [if_neg (fun both => ask both.2), wellFormed_of_bid sorted uncrossed bid ask]
          exact ⟨fun below => ⟨fun _ => below, fun there => absurd there ask⟩,
            fun safe => safe.1 bid⟩
      · rw [if_neg (fun both => bid both.1)]
        by_cases ask : 0 < b.askPx
        · rw [wellFormed_of_ask sorted uncrossed bid ask]
          exact ⟨fun above => ⟨fun there => absurd there bid, fun _ => above⟩,
            fun safe => safe.2 ask⟩
        · rw [mergeSides_of_neither bid ask]
          exact ⟨fun _ => ⟨fun there => absurd there bid, fun there => absurd there ask⟩,
            fun _ => sorted.wellFormed_iff.mpr uncrossed⟩

end Bybit

end Avalant
