import Avalant.Htx.Futures
import Avalant.Kraken.Futures

/-!
What the adapters that number their deltas emit.

Kraken and HTX check a delta against the last number of its book, but for the number 0. A session
begins with empty books of number 0, so that a book is what the deltas since the last snapshot make
of it, or all deltas if no snapshot has come.
-/

namespace Avalant

namespace Exchange

/-- Every snapshot that is emitted is the fold of a full book of its product that the session has
received, or of the empty one with which it begins, and of all deltas since, in which each number
is the next one or follows the number 0. -/
theorem foldOf_of_emits (kms : List Kraken.Message) (hms : List Htx.Message) (snap : Snapshot) :
    (Emits Kraken.Futures.parse .new kms snap →
      FoldOf Kraken.setSide Follows (opening :: kms.filterMap (Kraken.frameOf snap.symbol)) snap) ∧
    ((∀ msg ∈ hms, Htx.IsDepth msg) → Emits Htx.Futures.parse .new hms snap →
      FoldOf Htx.applyTick Follows (opening :: hms.filterMap (Htx.frameOf snap.symbol)) snap) :=
  ⟨Kraken.foldOf_emitted, Htx.foldOf_emitted⟩

/-- A book of Kraken and the next delta. -/
def krakenBook : List Kraken.Message :=
  [{ feed := "book_snapshot", productId := "PF_XBTUSD", seq := 7, bids := [⟨100, 1⟩] },
    { feed := "book", productId := "PF_XBTUSD", side := "buy", price := 101, qty := 2, seq := 8 }]

/-- A book of HTX and the next update. -/
def htxBook : List Htx.Message :=
  [{ ch := "market.BTC-USDT.depth.size_20.high_freq"
     tick := { bids := [[100, 1]], event := "snapshot", version := 7 } },
    { ch := "market.BTC-USDT.depth.size_20.high_freq"
      tick := { bids := [[101, 2]], event := "update", version := 8 } }]

/-- Two bids. -/
def twoBids : Snapshot :=
  ⟨"BTC", (Htx.applyTick ⟨∅, ∅⟩ ([[100, 1], [101, 2]], [])).depth, none⟩

theorem foldOf_twoBids :
    FoldOf Kraken.setSide Follows (opening :: krakenBook.filterMap (Kraken.frameOf "BTC")) twoBids ∧
      FoldOf Htx.applyTick Follows (opening :: htxBook.filterMap (Htx.frameOf "BTC")) twoBids := by
  have both := foldOf_of_emits krakenBook htxBook twoBids
  refine ⟨both.1 ⟨krakenBook.take 1, _, _, rfl, rfl, rfl⟩,
    both.2 (fun msg member => ?_) ⟨htxBook.take 1, _, _, rfl, rfl, rfl⟩⟩
  unfold htxBook at member
  rcases List.mem_pair.mp member with rfl | rfl
  · exact ⟨by decide, .inl rfl⟩
  · exact ⟨by decide, .inr rfl⟩

/-- Without a full book there is nothing to fold. -/
theorem not_foldOf_changes {C : Type} {apply : Gate.Ladders → C → Gate.Ladders}
    {follows : ℤ → ℤ → Prop} (changes : List (ℤ × C)) (snap : Snapshot) :
    ¬FoldOf apply follows (changes.map fun c => .change c.1 c.2) snap := by
  rintro ⟨copy, ⟨before, number, state, since, split, -⟩, -⟩
  have full : Numbered.Frame.full number state ∈
      changes.map fun c => (Numbered.Frame.change c.1 c.2 : BookFrame C) := by
    rw [split]
    exact List.mem_append_right _ List.mem_cons_self
  rcases List.mem_map.mp full with ⟨c, -, same⟩
  cases same

/-- A delta of Kraken, with no snapshot before it. -/
def firstDelta : Kraken.Message :=
  { feed := "book", productId := "PF_XBTUSD", side := "buy", price := 100, qty := 1, seq := 999 }

/-- An update of HTX, with no snapshot before it. -/
def firstUpdate : Htx.Message :=
  { ch := "market.BTC-USDT.depth.size_20.high_freq"
    tick := { bids := [[100, 1]], event := "update", version := 999 } }

theorem deltas_before_snapshot :
    ¬(∀ kms snap, Emits Kraken.Futures.parse .new kms snap →
        FoldOf Kraken.setSide Next (kms.filterMap (Kraken.frameOf snap.symbol)) snap) ∧
      ¬(∀ hms snap, (∀ msg ∈ hms, Htx.IsDepth msg) → Emits Htx.Futures.parse .new hms snap →
        FoldOf Htx.applyTick Next (hms.filterMap (Htx.frameOf snap.symbol)) snap) := by
  constructor
  · intro claim
    have emits : Emits Kraken.Futures.parse .new [firstDelta]
        ⟨"BTC", (Kraken.setSide ⟨∅, ∅⟩ ("buy", ⟨100, 1⟩)).depth, none⟩ :=
      ⟨[], firstDelta, _, rfl, rfl, rfl⟩
    let change : ℤ × String × Gate.BookLevel := (999, "buy", ⟨100, 1⟩)
    exact not_foldOf_changes [change] _ (claim _ _ emits)
  · intro claim
    have emits : Emits Htx.Futures.parse .new [firstUpdate]
        ⟨"BTC", (Htx.applyTick ⟨∅, ∅⟩ ([[100, 1]], [])).depth, none⟩ :=
      ⟨[], firstUpdate, _, rfl, rfl, rfl⟩
    have depth : ∀ msg ∈ [firstUpdate], Htx.IsDepth msg := by
      intro msg member
      rw [List.mem_singleton.mp member]
      exact ⟨by decide, .inr rfl⟩
    exact not_foldOf_changes [(999, ([[100, 1]], []))] _ (claim _ _ depth emits)

end Exchange

end Avalant
