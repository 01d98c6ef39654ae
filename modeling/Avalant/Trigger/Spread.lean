import Avalant.Db.Models

/-!
Spread evaluation on the merged orderbook cache, and the firing condition.

The entry spread is what an opening order of the given size would get (long
asks, short bids); the exit spread what a closing one would (long bids, short
asks). Both are `none` when a book is missing, stale or too thin.
-/

namespace Avalant

/-- If an orderbook is older than this it is not used. -/
def booksStaleMaxS : Time := 5

/-- One leg's entry of books.json: levels are (price, quantity). -/
structure Book where
  asks : List (ℚ × ℚ) := []
  bids : List (ℚ × ℚ) := []
  ts : Option ℚ := none
  timestamp : Option ℚ := none
  deriving DecidableEq, Repr

/-- books.json: flat `exchange:SYMBOL` keys, and the older nested shape. -/
structure Books where
  flat : List (String × Book) := []
  nested : List (String × List (String × Book)) := []
  deriving DecidableEq, Repr

/-- Walk the levels until `qty` is filled; returns the filled quantity and its cost. -/
def walkLevels (qty : ℚ) : List (ℚ × ℚ) → ℚ → ℚ → ℚ × ℚ
  | [], filled, pxQty => (filled, pxQty)
  | (px, lvlQty) :: levels, filled, pxQty =>
      if qty ≤ filled then (filled, pxQty)
      else
        let take := min lvlQty (qty - filled)
        walkLevels qty levels (filled + take) (pxQty + px * take)

/-- `_vwap_from_levels`; a short fill of up to 0.1 % is tolerated. -/
def vwapFromLevels (levels : List (ℚ × ℚ)) (qty : ℚ) : Option ℚ :=
  if levels.isEmpty || decide (qty ≤ 0) then none
  else
    let (filled, pxQty) := walkLevels qty levels 0 0
    if filled < qty * (999 / 1000) then none else some (pxQty / filled)

/-- `_read_book_for_leg`. -/
def readBookForLeg (books : Books) (exchange symbol : Option String) (now : Time) :
    Option Book := do
  let exchange ← Python.nonEmpty exchange
  let symbol ← Python.nonEmpty symbol
  let ex := Python.lower exchange
  let sym := Python.upper symbol
  let entry ←
    (books.flat.lookup (ex ++ ":" ++ sym)).or
      ((books.nested.lookup ex).bind fun perEx => (perEx.lookup sym).or (perEx.lookup symbol))
  let ts ← Python.or_ entry.ts entry.timestamp
  let tsS := if (10 ^ 12 : ℚ) < ts then ts / 1000 else ts
  if booksStaleMaxS < now - tsS then none else some entry

/-- The two venues and symbols a spread is taken over. -/
structure PairRef where
  longExchange : Option String
  longSymbol : Option String
  shortExchange : Option String
  shortSymbol : Option String
  deriving DecidableEq, Repr

/-- `_compute_effective_spread`: (short bid − long ask) / long ask × 100. -/
def computeEffectiveSpread (books : Books) (pair : PairRef) (qty : ℚ) (now : Time) :
    Option ℚ := do
  let longBook ← readBookForLeg books pair.longExchange pair.longSymbol now
  let shortBook ← readBookForLeg books pair.shortExchange pair.shortSymbol now
  let longVwap ← vwapFromLevels longBook.asks qty
  let shortVwap ← vwapFromLevels shortBook.bids qty
  if longVwap ≤ 0 ∨ shortVwap = 0 then none
  else some ((shortVwap - longVwap) / longVwap * 100)

/-- `_compute_exit_spread`: (long bid − short ask) / short ask × 100. -/
def computeExitSpread (books : Books) (pair : PairRef) (qty : ℚ) (now : Time) : Option ℚ := do
  let longBook ← readBookForLeg books pair.longExchange pair.longSymbol now
  let shortBook ← readBookForLeg books pair.shortExchange pair.shortSymbol now
  let longVwap ← vwapFromLevels longBook.bids qty
  let shortVwap ← vwapFromLevels shortBook.asks qty
  if shortVwap ≤ 0 ∨ longVwap = 0 then none
  else some ((longVwap - shortVwap) / shortVwap * 100)

/-- `condition_met`: no threshold is a market trigger. -/
def conditionMet (kind : TriggerKind) (triggerSpreadPct : Option ℚ) (currentSpread : ℚ) :
    Bool :=
  match triggerSpreadPct with
  | none => true
  | some threshold =>
      match kind with
      | .open_ | .tp => decide (threshold ≤ currentSpread)
      | .close | .sl => decide (currentSpread ≤ threshold)

/-! ## What the tick selects -/

def ArbTriggerOrder.pair (order : ArbTriggerOrder) : PairRef :=
  ⟨order.longExchange, order.longSymbol, order.shortExchange, order.shortSymbol⟩

/-- The venues and the size the tick evaluates: TP/SL inherit both from their position. -/
def tickTarget (order : ArbTriggerOrder) (pos : Option ArbPosition) : Option (PairRef × ℚ) :=
  match order.portionQty with
  | none => none
  | some qty =>
      if qty ≤ 0 then none
      else
        match pos with
        | some pos =>
            if order.kind = .tp ∨ order.kind = .sl then
              some
                (⟨(Python.nonEmpty order.longExchange).or (some pos.longExchange),
                  (Python.nonEmpty order.longSymbol).or (some pos.longSymbol),
                  (Python.nonEmpty order.shortExchange).or (some pos.shortExchange),
                  (Python.nonEmpty order.shortSymbol).or (some pos.shortSymbol)⟩,
                  Python.orZero (Python.or_ (some pos.longQty) (some qty)))
            else some (order.pair, qty)
        | none => some (order.pair, qty)

/-- The spread in the direction of the trigger's kind. -/
def tickSpread (books : Books) (order : ArbTriggerOrder) (pos : Option ArbPosition)
    (now : Time) : Option ℚ := do
  let (pair, qty) ← tickTarget order pos
  let _ ← Python.nonEmpty pair.longExchange
  let _ ← Python.nonEmpty pair.shortExchange
  if order.kind = .open_ then computeEffectiveSpread books pair qty now
  else computeExitSpread books pair qty now

/-- The tick goes on to claim this trigger. -/
def tickFires (books : Books) (order : ArbTriggerOrder) (pos : Option ArbPosition)
    (now : Time) : Bool :=
  match tickSpread books order pos now with
  | none => false
  | some spread => conditionMet order.kind order.triggerSpreadPct spread

end Avalant
