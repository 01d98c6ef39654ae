import Avalant.Bybit.Futures
import Avalant.Gate.Ticker
import Avalant.Okx.Futures
import Mathlib.Tactic.NormNum

/-!
The books that the adapters with two streams emit.

OKX and Gate put best prices over the depth only where both are there and do not cross, and the
depth that crosses them is purged first, so that no order of the two streams gives a crossed book.
Bybit puts each best price over the depth on its own, and purges only for both.
-/

namespace Avalant

namespace Exchange

/-- OKX and Gate emit well formed books. Bybit does if and only if its best prices are in step with
the depth. -/
theorem emitted_wellFormed (instSuffix : String) (oms : List Okx.Message)
    (bms : List Bybit.Message) (inputs : List Gate.Input) (snap : Snapshot) :
    (Emits (DualTrack.parse (Okx.adapter instSuffix)) .new oms snap →
      ((Okx.adapter instSuffix).streams snap.symbol oms).1.depth.Uncrossed →
        snap.depth.WellFormed) ∧
    (∀ (input : Gate.Input) (a : Gate.Futures),
      Transition.exec (goOn Gate.Futures.receive) .new inputs = some a →
        (a.receive input).2 = .snapshot snap →
          ((a.receive input).1.depthOf snap.symbol).Uncrossed → snap.depth.WellFormed) ∧
    (Emits (DualTrack.parse Bybit.adapter) .new bms snap →
      (Bybit.adapter.streams snap.symbol bms).1.depth.Uncrossed →
        (snap.depth.WellFormed ↔
          Bybit.InStep (Bybit.adapter.streams snap.symbol bms).1.depth
            (Bybit.adapter.streams snap.symbol bms).2)) := by
  refine ⟨fun emits uncrossed => ?_, fun input a _ emitted uncrossed => ?_,
    fun emits uncrossed => ?_⟩
  · rw [depth_of_emits emits]
    exact wellFormed_merge (sorted_depth _) uncrossed _
  · rw [Gate.Futures.receive_emits emitted, Gate.Futures.mergedSnapshot_eq]
    exact wellFormed_merge ((a.receive input).1.sorted_depthOf _) uncrossed _
  · rw [depth_of_emits emits]
    exact Bybit.wellFormed_mergeSides_iff (sorted_depth _) uncrossed _

/-- One bid and one ask. -/
def oneEach : Rows :=
  ⟨[[some 100, some 1]], [[some 101, some 1]]⟩

def oneEachBook : Gate.Ladders :=
  applyDepth true oneEach ⟨∅, ∅⟩

theorem depth_oneEachBook : oneEachBook.depth = ⟨[(100, 1)], [(101, 1)]⟩ := by
  decide +kernel

theorem uncrossed_oneEachBook : oneEachBook.depth.Uncrossed := by
  rw [depth_oneEachBook]
  intro bid member ask member'
  rw [List.mem_singleton.mp member, List.mem_singleton.mp member']
  norm_num

/-- Best prices that have left the depth behind. -/
def okxAhead : List Okx.Message :=
  [{ channel := "books", instId := "BTC-USDT-SWAP", action := "snapshot", data := [oneEach] },
    { channel := "bbo-tbt", instId := "BTC-USDT-SWAP"
      data := [⟨[[some 102, some 1]], [[some 103, some 1]]⟩] }]

def bybitDepth : Bybit.Message :=
  { topic := "orderbook.50.BTCUSDT", type := "snapshot", symbol := "BTCUSDT", rows := oneEach }

/-- A best bid above the ask of the depth, and no best ask. -/
def loneBid : Bybit.Message :=
  { topic := "orderbook.1.BTCUSDT", type := "snapshot", symbol := "BTCUSDT"
    rows := ⟨[[some 102, some 1]], []⟩ }

theorem wellFormed_ahead :
    (merge oneEachBook.depth (some ⟨102, 1, 103, 1⟩)).WellFormed ∧
      (merge ⟨[], []⟩ (some ⟨100, 1, 101, 1⟩)).WellFormed ∧
        ((Bybit.mergeSides oneEachBook.depth none).WellFormed ↔
          Bybit.InStep oneEachBook.depth none) := by
  have okx := (emitted_wellFormed "-USDT-SWAP" okxAhead [] []
    ⟨"BTC", merge oneEachBook.depth (some ⟨102, 1, 103, 1⟩), none⟩).1
  have gate := (emitted_wellFormed "-USDT-SWAP" [] [] []
    ⟨"BTC", merge ⟨[], []⟩ (some ⟨100, 1, 101, 1⟩), none⟩).2.1
  have bybit := (emitted_wellFormed "-USDT-SWAP" [] [bybitDepth] []
    ⟨"BTC", Bybit.mergeSides oneEachBook.depth none, none⟩).2.2
  refine ⟨okx ⟨okxAhead.take 1, _, _, rfl, rfl, rfl⟩ uncrossed_oneEachBook, ?_,
    bybit ⟨[], bybitDepth, _, rfl, rfl, rfl⟩ uncrossed_oneEachBook⟩
  refine gate (.ticker ⟨"BTC_USDT", 0, ⟨100, 1, 101, 1⟩⟩) _ rfl rfl ?_
  intro bid member
  cases member

/-- Rows with positive prices and without negative sizes. -/
def Rows.Legal (rows : Rows) : Prop :=
  ∀ row ∈ rows.bids ++ rows.asks, ∀ level ∈ rowLevel row, 0 < level.p ∧ 0 ≤ level.s

theorem crossed_by_loneBid :
    ¬∀ (bms : List Bybit.Message) (snap : Snapshot),
      (∀ msg ∈ bms, msg.rows.Legal) → Emits (DualTrack.parse Bybit.adapter) .new bms snap →
        (Bybit.adapter.streams snap.symbol bms).1.depth.Uncrossed → snap.depth.WellFormed := by
  intro claim
  have legal : ∀ msg ∈ [bybitDepth, loneBid], msg.rows.Legal := by
    intro msg member row rowMember level here
    rcases List.mem_pair.mp member with rfl | rfl
    · rcases List.mem_pair.mp rowMember with rfl | rfl
      · cases here
        norm_num
      · cases here
        norm_num
    · cases List.mem_singleton.mp rowMember
      cases here
      norm_num
  have formed := claim [bybitDepth, loneBid]
    ⟨"BTC", Bybit.mergeSides oneEachBook.depth (some ⟨102, 1, 0, 0⟩), none⟩ legal
    ⟨[bybitDepth], loneBid, _, rfl, rfl, rfl⟩ uncrossed_oneEachBook
  rw [depth_oneEachBook] at formed
  have below : (102 : ℚ) < 101 := formed.best (102, 1) rfl (101, 1) rfl
  norm_num at below

end Exchange

end Avalant
