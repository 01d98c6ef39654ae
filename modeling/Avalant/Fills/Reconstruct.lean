import Avalant.Db.Models
import Avalant.Lib.Grouping
import Avalant.Lib.Timeline
import Avalant.Lib.Transducer
import Mathlib.Algebra.Order.Field.Rat
import Mathlib.Data.List.Dedup

/-!
Closed positions from the fills of the venues.

For each wallet, venue, market and symbol the fills of the last days are walked in the order of
time, with a signed net quantity that starts at zero. Where it comes back to zero, or crosses it, a
closed position is inserted, unless a row with about the same times is there.
-/

namespace Avalant

open Relational

namespace Fills

/-! ## Rows -/

/-- The columns of `trade_fills` that the reconstruction reads. -/
structure TradeFill where
  userId : Nat
  walletId : Option Nat
  exchange : String
  market : String
  kind : String := "trade"
  symbol : String
  side : Option String
  qty : ℚ
  price : ℚ
  feeUsd : Option ℚ := none
  realizedPnlUsd : Option ℚ := none
  ts : Time
  deriving DecidableEq, Repr

/-- `TradePosition.source`. -/
inductive PositionSource
  | platform | reconcile | fillsBackfill
  deriving DecidableEq, Repr

/-- The columns of `trade_positions` that the reconstruction reads or writes, but for the number. -/
structure PositionRow where
  userId : Nat
  kind : TradePositionKind := .single
  status : TradePositionStatus := .closed
  symbol : String
  legAWalletId : Option Nat
  legAExchange : String
  legASide : String
  legAQty : ℚ
  legAEntryPrice : Option ℚ
  legAExitPrice : Option ℚ
  legARealizedPnlUsd : Option ℚ
  legAFundingPnlUsd : Option ℚ
  legAFeesUsd : Option ℚ
  legAMarket : String
  openedAt : Time
  closedAt : Option Time
  openedExternally : Bool := true
  closedExternally : Bool := true
  source : PositionSource := .fillsBackfill
  realizedPnlUsd : Option ℚ
  deriving DecidableEq, Repr

/-- The fills that are walked together. -/
structure FillGroup where
  walletId : Option Nat
  exchange : String
  market : String
  symbol : String
  deriving DecidableEq, Repr

def TradeFill.group (f : TradeFill) : FillGroup :=
  ⟨f.walletId, f.exchange, f.market, f.symbol⟩

def PositionRow.group (row : PositionRow) : FillGroup :=
  ⟨row.legAWalletId, row.legAExchange, row.legAMarket, row.symbol⟩

/-! ## The walk -/

/-- The variables of the loop of `_reconstruct_one`. -/
structure Walk where
  /-- Signed, positive for a long. -/
  netQty : ℚ := 0
  vwapEntry : ℚ := 0
  vwapEntrySide : ℤ := 0
  posOpenTs : Option Time := none
  posRealized : ℚ := 0
  posFunding : ℚ := 0
  posFees : ℚ := 0
  posOpenQty : ℚ := 0
  posCloseQty : ℚ := 0
  posCloseValue : ℚ := 0
  deriving DecidableEq, Repr

namespace Walk

/-- The row of `_emit`, before the look for an existing one. -/
def emit (w : Walk) (userId : Nat) (g : FillGroup) (closeTs : Time) (closePrice : ℚ) :
    List PositionRow :=
  match w.posOpenTs with
  | none => []
  | some openTs =>
      if w.posOpenQty ≤ 0 then []
      else
        [{ userId
           symbol := g.symbol
           legAWalletId := g.walletId
           legAExchange := g.exchange
           legASide := if w.vwapEntrySide > 0 then "buy" else "sell"
           legAQty := w.posOpenQty
           legAEntryPrice := some w.vwapEntry
           legAExitPrice :=
             some (if w.posCloseQty > 0 then w.posCloseValue / w.posCloseQty else closePrice)
           legARealizedPnlUsd := some w.posRealized
           legAFundingPnlUsd := if w.posFunding = 0 then none else some w.posFunding
           legAFeesUsd := some w.posFees
           legAMarket := g.market
           openedAt := openTs
           closedAt := some closeTs
           realizedPnlUsd := some w.posRealized }]

/-- A position opened by a trade, or by what is left of one. -/
def opened (signed price fees : ℚ) (ts : Time) : Walk where
  netQty := signed
  vwapEntry := price
  vwapEntrySide := if signed > 0 then 1 else -1
  posOpenTs := some ts
  posFees := fees
  posOpenQty := |signed|

/-- A trade on the side of the position. -/
def extend (w : Walk) (signed price fee : ℚ) : Walk :=
  let newSize := |w.netQty| + |signed|
  { w with
    vwapEntry := (w.vwapEntry * |w.netQty| + price * |signed|) / newSize
    netQty := w.netQty + signed
    posOpenQty := w.posOpenQty + |signed|
    posFees := w.posFees + fee }

/-- A trade on the other side. -/
def reduce (w : Walk) (signed price fee : ℚ) (realized : Option ℚ) : Walk :=
  let reducingQty := min |w.netQty| |signed|
  let signFactor : ℚ := if w.vwapEntrySide > 0 then 1 else -1
  { w with
    posRealized := w.posRealized +
      realized.getD (signFactor * (price - w.vwapEntry) * reducingQty)
    posCloseQty := w.posCloseQty + reducingQty
    posCloseValue := w.posCloseValue + price * reducingQty
    posFees := w.posFees + fee
    netQty := w.netQty + signed }

/-- `net_qty = 0.0`, with the entry and the opening. -/
def close (w : Walk) : Walk :=
  { w with netQty := 0, vwapEntry := 0, vwapEntrySide := 0, posOpenTs := none }

end Walk

/-- The signed quantity of a fill that trades, zero for any other. -/
def TradeFill.signed (f : TradeFill) : ℚ :=
  let side := Python.lower (f.side.getD "")
  if f.kind = "funding" ∨ (side ≠ "buy" ∧ side ≠ "sell") then 0
  else f.qty * (if side = "buy" then 1 else -1)

/-- Below this a net quantity counts as closed. -/
def flatQty : ℚ := 1 / 1000000000

namespace Walk

/-- One fill of the loop. -/
def step (userId : Nat) (g : FillGroup) (w : Walk) (f : TradeFill) : Walk × List PositionRow :=
  if f.kind = "funding" then
    if w.posOpenTs.isSome then
      ({ w with posFunding := w.posFunding + Python.orZero f.realizedPnlUsd }, [])
    else (w, [])
  else
    let signed := f.signed
    let fee := Python.orZero f.feeUsd
    if signed = 0 then (w, [])
    else if w.netQty = 0 then (opened signed f.price fee f.ts, [])
    else if (w.netQty > 0 ∧ signed > 0) ∨ (w.netQty < 0 ∧ signed < 0) then
      (w.extend signed f.price fee, [])
    else
      let w := w.reduce signed f.price fee f.realizedPnlUsd
      if |w.netQty| < flatQty then (w.close, w.emit userId g f.ts f.price)
      else if (w.vwapEntrySide > 0 ∧ w.netQty < 0) ∨ (w.vwapEntrySide < 0 ∧ w.netQty > 0) then
        (opened w.netQty f.price 0 f.ts, w.emit userId g f.ts f.price)
      else (w, [])

end Walk

/-- The rows that a walk over fills comes up with. -/
def episodes (userId : Nat) (g : FillGroup) (fills : List TradeFill) : List PositionRow :=
  Transducer.output (Walk.step userId g) {} fills

/-! ## The reconstruction -/

def emitWindow : Time := 120

/-- Within the window around a time. -/
def around (center t : Time) : Bool :=
  center - emitWindow ≤ t ∧ t ≤ center + emitWindow

/-- `existing`: a row that `_emit` finds for a candidate. -/
def PositionRow.existingFor (row candidate : PositionRow) : Bool :=
  row.userId = candidate.userId ∧ row.kind = .single ∧ row.status = .closed ∧
    row.symbol = candidate.symbol ∧ row.legAExchange = candidate.legAExchange ∧
    row.legAMarket = candidate.legAMarket ∧ row.legASide = candidate.legASide ∧
    around candidate.openedAt row.openedAt ∧
    (candidate.closedAt.any fun closeTs => row.closedAt.any (around closeTs))

/-- `_reconstruct_one`: the session does not flush, so rows are looked for among the committed
ones only. -/
def reconstructOne (positions : List PositionRow) (userId : Nat) (g : FillGroup)
    (fills : List TradeFill) : List PositionRow :=
  (episodes userId g fills).filter fun candidate =>
    !positions.any fun row => row.existingFor candidate

def backfillDays : Nat := 7

def cutoff (now : Time) : Time :=
  now - (backfillDays + 1) * 86400

/-- The user's fills since the cutoff. -/
def queried (fills : Timeline TradeFill.ts) (userId : Nat) (now : Time) : List TradeFill :=
  Timeline.since TradeFill.ts (fills.rows.filter fun f => f.userId = userId) (cutoff now)

/-- Those of a group. -/
def window (fills : Timeline TradeFill.ts) (userId : Nat) (now : Time) (g : FillGroup) :
    List TradeFill :=
  (queried fills userId now).filter fun f => f.group = g

/-- `_reconstruct_positions`: the rows it inserts. -/
def reconstructPositions (fills : Timeline TradeFill.ts) (positions : List PositionRow)
    (userId : Nat) (now : Time) : List PositionRow :=
  Grouping.perGroup TradeFill.group (reconstructOne positions userId) (queried fills userId now)

/-! ## What a walk keeps -/

namespace Walk

/-- A position is open exactly if the net quantity is not zero, and is on its side. -/
structure WellFormed (w : Walk) : Prop where
  flat : w.netQty = 0 → w.posOpenTs = none
  long : 0 < w.netQty → w.vwapEntrySide = 1
  short : w.netQty < 0 → w.vwapEntrySide = -1

theorem wellFormed_start : ({} : Walk).WellFormed :=
  ⟨fun _ => rfl, fun long => absurd long (lt_irrefl 0), fun short => absurd short (lt_irrefl 0)⟩

theorem wellFormed_opened {signed : ℚ} (nonzero : signed ≠ 0) (price fees : ℚ) (ts : Time) :
    (opened signed price fees ts).WellFormed where
  flat := fun zero => absurd zero nonzero
  long := fun long => if_pos long
  short := fun short => if_neg (not_lt.mpr short.le)

theorem wellFormed_close (w : Walk) : w.close.WellFormed :=
  ⟨fun _ => rfl, fun long => absurd long (lt_irrefl 0), fun short => absurd short (lt_irrefl 0)⟩

variable {w w' : Walk} {userId : Nat} {g : FillGroup} {f : TradeFill} {rows : List PositionRow}

/-- What one fill does. -/
inductive Moves (userId : Nat) (g : FillGroup) (w : Walk) (f : TradeFill) :
    Walk → List PositionRow → Prop
  | funded (idle : f.signed = 0) (funding : ℚ) :
      Moves userId g w f { w with posFunding := funding } []
  | skipped (idle : f.signed = 0) : Moves userId g w f w []
  | opened (trades : f.signed ≠ 0) (flat : w.netQty = 0) :
      Moves userId g w f (opened f.signed f.price (Python.orZero f.feeUsd) f.ts) []
  | extended (sameSide : (w.netQty > 0 ∧ f.signed > 0) ∨ (w.netQty < 0 ∧ f.signed < 0)) :
      Moves userId g w f (w.extend f.signed f.price (Python.orZero f.feeUsd)) []
  | closed (against : (w.netQty > 0 ∧ f.signed < 0) ∨ (w.netQty < 0 ∧ f.signed > 0))
      (flat : |w.netQty + f.signed| < flatQty) :
      Moves userId g w f
        (w.reduce f.signed f.price (Python.orZero f.feeUsd) f.realizedPnlUsd).close
        ((w.reduce f.signed f.price (Python.orZero f.feeUsd) f.realizedPnlUsd).emit userId g f.ts
          f.price)
  | flipped (against : (w.netQty > 0 ∧ f.signed < 0) ∨ (w.netQty < 0 ∧ f.signed > 0))
      (left : ¬|w.netQty + f.signed| < flatQty)
      (crossed : (w.vwapEntrySide > 0 ∧ w.netQty + f.signed < 0) ∨
        (w.vwapEntrySide < 0 ∧ w.netQty + f.signed > 0)) :
      Moves userId g w f (Walk.opened (w.netQty + f.signed) f.price 0 f.ts)
        ((w.reduce f.signed f.price (Python.orZero f.feeUsd) f.realizedPnlUsd).emit userId g f.ts
          f.price)
  | reduced (against : (w.netQty > 0 ∧ f.signed < 0) ∨ (w.netQty < 0 ∧ f.signed > 0))
      (left : ¬|w.netQty + f.signed| < flatQty)
      (uncrossed : ¬((w.vwapEntrySide > 0 ∧ w.netQty + f.signed < 0) ∨
        (w.vwapEntrySide < 0 ∧ w.netQty + f.signed > 0))) :
      Moves userId g w f (w.reduce f.signed f.price (Python.orZero f.feeUsd) f.realizedPnlUsd) []

theorem moves_step (userId : Nat) (g : FillGroup) (w : Walk) (f : TradeFill) :
    Moves userId g w f (w.step userId g f).1 (w.step userId g f).2 := by
  unfold step
  by_cases funding : f.kind = "funding"
  · have idle : f.signed = 0 := if_pos (Or.inl funding)
    rw [if_pos funding]
    split
    · exact .funded idle _
    · exact .skipped idle
  rw [if_neg funding]
  dsimp only
  by_cases idle : f.signed = 0
  · rw [if_pos idle]
    exact .skipped idle
  rw [if_neg idle]
  by_cases flat : w.netQty = 0
  · rw [if_pos flat]
    exact .opened idle flat
  rw [if_neg flat]
  by_cases sameSide : (w.netQty > 0 ∧ f.signed > 0) ∨ (w.netQty < 0 ∧ f.signed < 0)
  · rw [if_pos sameSide]
    exact .extended sameSide
  rw [if_neg sameSide]
  have against : (w.netQty > 0 ∧ f.signed < 0) ∨ (w.netQty < 0 ∧ f.signed > 0) := by
    rcases lt_or_gt_of_ne flat with short | long
    · rcases lt_or_gt_of_ne idle with sell | buy
      · exact absurd (Or.inr ⟨short, sell⟩) sameSide
      · exact Or.inr ⟨short, buy⟩
    · rcases lt_or_gt_of_ne idle with sell | buy
      · exact Or.inl ⟨long, sell⟩
      · exact absurd (Or.inl ⟨long, buy⟩) sameSide
  by_cases left : |w.netQty + f.signed| < flatQty
  · rw [if_pos (show |(w.reduce _ _ _ _).netQty| < flatQty from left)]
    exact .closed against left
  rw [if_neg (show ¬|(w.reduce _ _ _ _).netQty| < flatQty from left)]
  split
  case isTrue crossed => exact .flipped against left crossed
  case isFalse uncrossed => exact .reduced against left uncrossed

theorem nonzero_of_left {net : ℚ} (left : ¬|net| < flatQty) : net ≠ 0 := by
  intro zero
  rw [zero] at left
  exact left (by decide +kernel)

theorem WellFormed.moves (wellFormed : w.WellFormed) (moved : Moves userId g w f w' rows) :
    w'.WellFormed := by
  cases moved with
  | funded idle funding => exact ⟨wellFormed.flat, wellFormed.long, wellFormed.short⟩
  | skipped idle => exact wellFormed
  | opened trades flat => exact wellFormed_opened trades _ _ _
  | extended sameSide =>
      rcases sameSide with ⟨long, buy⟩ | ⟨short, sell⟩
      · have grows : 0 < w.netQty + f.signed := add_pos long buy
        exact ⟨fun zero => absurd zero grows.ne', fun _ => wellFormed.long long,
          fun negative => absurd negative (not_lt.mpr grows.le)⟩
      · have grows : w.netQty + f.signed < 0 := add_neg short sell
        exact ⟨fun zero => absurd zero grows.ne, fun positive => absurd positive
          (not_lt.mpr grows.le), fun _ => wellFormed.short short⟩
  | closed against flat => exact wellFormed_close _
  | flipped against left crossed => exact wellFormed_opened (nonzero_of_left left) _ _ _
  | reduced against left uncrossed =>
      have open_ := nonzero_of_left left
      rcases against with ⟨long, -⟩ | ⟨short, -⟩
      · have side := wellFormed.long long
        have still : ¬w.netQty + f.signed < 0 := fun crossed =>
          uncrossed (Or.inl ⟨by rw [side]; decide, crossed⟩)
        exact ⟨fun zero => absurd zero open_, fun _ => side, fun crossed => absurd crossed still⟩
      · have side := wellFormed.short short
        have still : ¬w.netQty + f.signed > 0 := fun crossed =>
          uncrossed (Or.inr ⟨by rw [side]; decide, crossed⟩)
        exact ⟨fun zero => absurd zero open_, fun crossed => absurd crossed still, fun _ => side⟩

theorem wellFormed_step (w : Walk) (f : TradeFill) (wellFormed : w.WellFormed) :
    (w.step userId g f).1.WellFormed :=
  wellFormed.moves (moves_step userId g w f)

/-! ## Flat walks -/

/-- Nothing that a flat walk still has from before is read again. -/
def Alike (w w' : Walk) : Prop :=
  w = w' ∨ ((w.netQty = 0 ∧ w.posOpenTs = none) ∧ w'.netQty = 0 ∧ w'.posOpenTs = none)

theorem alike_step (w w' : Walk) (f : TradeFill) (alike : Alike w w') :
    (w.step userId g f).2 = (w'.step userId g f).2 ∧
      Alike (w.step userId g f).1 (w'.step userId g f).1 := by
  rcases alike with rfl | ⟨⟨flat, closed⟩, flat', closed'⟩
  · exact ⟨rfl, Or.inl rfl⟩
  unfold step
  by_cases funding : f.kind = "funding"
  · rw [if_pos funding, if_pos funding, closed, closed']
    exact ⟨rfl, Or.inr ⟨⟨flat, closed⟩, flat', closed'⟩⟩
  rw [if_neg funding, if_neg funding]
  dsimp only
  by_cases idle : f.signed = 0
  · rw [if_pos idle, if_pos idle]
    exact ⟨rfl, Or.inr ⟨⟨flat, closed⟩, flat', closed'⟩⟩
  rw [if_neg idle, if_neg idle, if_pos flat, if_pos flat']
  exact ⟨rfl, Or.inl rfl⟩

/-! ## Walks that do not close -/

/-- Whether trades bring a net quantity back to zero or across. -/
def closes : ℚ → List ℚ → Bool
  | _, [] => false
  | net, signed :: rest =>
      if signed = 0 then closes net rest
      else if net = 0 then closes signed rest
      else if (net > 0 ∧ signed > 0) ∨ (net < 0 ∧ signed < 0) then closes (net + signed) rest
      else if |net + signed| < flatQty ∨ (net > 0 ∧ net + signed < 0) ∨ (net < 0 ∧ net + signed > 0)
      then true
      else closes (net + signed) rest

theorem open_of_against {net signed : ℚ}
    (against : (net > 0 ∧ signed < 0) ∨ (net < 0 ∧ signed > 0)) : net ≠ 0 := by
  rcases against with ⟨long, -⟩ | ⟨short, -⟩
  · exact long.ne'
  · exact short.ne

theorem closes_of_sameSide {net signed : ℚ}
    (sameSide : (net > 0 ∧ signed > 0) ∨ (net < 0 ∧ signed < 0)) (rest : List ℚ) :
    closes net (signed :: rest) = closes (net + signed) rest := by
  have trades : signed ≠ 0 := by
    rcases sameSide with ⟨-, buy⟩ | ⟨-, sell⟩
    · exact buy.ne'
    · exact sell.ne
  have open_ : net ≠ 0 := by
    rcases sameSide with ⟨long, -⟩ | ⟨short, -⟩
    · exact long.ne'
    · exact short.ne
  rw [closes, if_neg trades, if_neg open_, if_pos sameSide]

theorem closes_of_against {net signed : ℚ}
    (against : (net > 0 ∧ signed < 0) ∨ (net < 0 ∧ signed > 0)) (rest : List ℚ) :
    closes net (signed :: rest) =
      if |net + signed| < flatQty ∨ (net > 0 ∧ net + signed < 0) ∨ (net < 0 ∧ net + signed > 0)
      then true
      else closes (net + signed) rest := by
  have trades : signed ≠ 0 := by
    rcases against with ⟨-, sell⟩ | ⟨-, buy⟩
    · exact sell.ne
    · exact buy.ne'
  have other : ¬((net > 0 ∧ signed > 0) ∨ (net < 0 ∧ signed < 0)) := by
    rcases against with ⟨long, sell⟩ | ⟨short, buy⟩
    · intro sameSide
      rcases sameSide with ⟨-, buy⟩ | ⟨short, -⟩
      · exact lt_asymm sell buy
      · exact lt_asymm long short
    · intro sameSide
      rcases sameSide with ⟨long, -⟩ | ⟨-, sell⟩
      · exact lt_asymm long short
      · exact lt_asymm sell buy
  rw [closes, if_neg trades, if_neg (open_of_against against), if_neg other]

/-- The side of the entry is the side of the net quantity. -/
theorem WellFormed.crossed (wellFormed : w.WellFormed) {net : ℚ}
    (crossed : (w.vwapEntrySide > 0 ∧ net < 0) ∨ (w.vwapEntrySide < 0 ∧ net > 0))
    (open_ : w.netQty ≠ 0) : (w.netQty > 0 ∧ net < 0) ∨ (w.netQty < 0 ∧ net > 0) := by
  rcases lt_or_gt_of_ne open_ with short | long
  · have side := wellFormed.short short
    rcases crossed with ⟨up, -⟩ | ⟨-, above⟩
    · rw [side] at up
      cases up
    · exact Or.inr ⟨short, above⟩
  · have side := wellFormed.long long
    rcases crossed with ⟨-, below⟩ | ⟨down, -⟩
    · exact Or.inl ⟨long, below⟩
    · rw [side] at down
      cases down

theorem output_of_not_closes (wellFormed : w.WellFormed) {fills : List TradeFill}
    (still : closes w.netQty (fills.map TradeFill.signed) = false) :
    Transducer.output (step userId g) w fills = [] := by
  induction fills generalizing w with
  | nil => rfl
  | cons f fills ih =>
      have moved := moves_step userId g w f
      change (w.step userId g f).2 ++ Transducer.output (step userId g) (w.step userId g f).1 fills =
        []
      have next := wellFormed.moves moved
      generalize w.step userId g f = result at moved next
      obtain ⟨w', rows⟩ := result
      rw [List.map_cons] at still
      dsimp only at moved next ⊢
      cases moved with
      | funded idle funding =>
          rw [closes, if_pos idle] at still
          exact ih next still
      | skipped idle =>
          rw [closes, if_pos idle] at still
          exact ih next still
      | opened trades flat =>
          rw [closes, if_neg trades, if_pos flat] at still
          exact ih next still
      | extended sameSide =>
          rw [closes_of_sameSide sameSide] at still
          exact ih next still
      | closed against flat =>
          rw [closes_of_against against, if_pos (Or.inl flat)] at still
          cases still
      | flipped against left crossed =>
          have across := wellFormed.crossed crossed (open_of_against against)
          rw [closes_of_against against, if_pos (Or.inr across)] at still
          cases still
      | reduced against left uncrossed =>
          rw [closes_of_against against] at still
          split at still
          · cases still
          · exact ih next still

end Walk

/-! ## The rows of a walk -/

/-- What every row of a walk over a group has. -/
structure PositionRow.Of (row : PositionRow) (userId : Nat) (g : FillGroup) :
    Prop where
  user : row.userId = userId
  group : row.group = g
  single : row.kind = .single
  closed : row.status = .closed
  source : row.source = .fillsBackfill
  ended : row.closedAt.isSome = true

theorem of_emit {w : Walk} {userId : Nat} {g : FillGroup} {closeTs : Time} {closePrice : ℚ}
    {row : PositionRow} (emitted : row ∈ w.emit userId g closeTs closePrice) : row.Of userId g := by
  unfold Walk.emit at emitted
  split at emitted
  · cases emitted
  split at emitted
  · cases emitted
  · rw [List.mem_singleton.mp emitted]
    exact ⟨rfl, rfl, rfl, rfl, rfl, rfl⟩

theorem of_episodes {userId : Nat} {g : FillGroup} {fills : List TradeFill} {row : PositionRow}
    (emitted : row ∈ episodes userId g fills) : row.Of userId g := by
  refine Transducer.forall_output (I := fun _ => True) (P := fun row => row.Of userId g)
    (fun _ _ _ => trivial) (fun w f _ row member => ?_) trivial emitted
  have moved := Walk.moves_step userId g w f
  generalize w.step userId g f = result at moved member
  obtain ⟨w', rows⟩ := result
  cases moved with
  | funded idle funding => cases member
  | skipped idle => cases member
  | opened trades flat => cases member
  | extended sameSide => cases member
  | closed against flat => exact of_emit member
  | flipped against left crossed => exact of_emit member
  | reduced against left uncrossed => cases member

theorem around_self (t : Time) : around t t = true := by
  unfold around emitWindow
  rw [decide_eq_true_eq]
  exact ⟨sub_le_self t (by norm_num), le_add_of_nonneg_right (by norm_num)⟩

/-- A row is one that is found for itself. -/
theorem PositionRow.Of.existingFor_self {userId : Nat} {g : FillGroup} {row : PositionRow}
    (of : row.Of userId g) : row.existingFor row = true := by
  obtain ⟨closeTs, ended⟩ := Option.isSome_iff_exists.mp of.ended
  have closes : (row.closedAt.any fun closeTs => row.closedAt.any (around closeTs)) = true := by
    rw [ended]
    exact around_self closeTs
  unfold existingFor
  rw [decide_eq_true_eq]
  exact ⟨rfl, of.single, of.closed, rfl, rfl, rfl, rfl, around_self row.openedAt, closes⟩

end Fills

end Avalant
