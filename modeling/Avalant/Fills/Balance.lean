import Avalant.Fills.Reconstruct
import Mathlib.Algebra.BigOperators.Group.List.Basic
import Mathlib.Algebra.Order.Ring.Abs
import Mathlib.Tactic.Linarith
import Mathlib.Tactic.Ring

/-!
What the reconstruction of closed positions keeps: quantities, fees and realised PnL.

Over trades for which the venue reports no PnL, what is realised is the cash flow of the trades and
the open quantity at its average entry price. A net quantity below the threshold at which a position
counts as closed is dropped, at the entry price, or at the price of the trade where it crosses zero.
-/

namespace Avalant

open Relational

namespace Fills

/-! ## Trades -/

/-- A trade of a positive quantity for which no PnL is reported. -/
structure TradeFill.Trades (f : TradeFill) : Prop where
  kind : f.kind ≠ "funding"
  side : Python.lower (f.side.getD "") = "buy" ∨ Python.lower (f.side.getD "") = "sell"
  qty : 0 < f.qty
  unreported : f.realizedPnlUsd = none

/-- What a trade pays or costs, fees apart. -/
def TradeFill.cash (f : TradeFill) : ℚ :=
  -(f.signed * f.price)

def TradeFill.fee (f : TradeFill) : ℚ :=
  Python.orZero f.feeUsd

theorem TradeFill.Trades.signed_ne_zero {f : TradeFill} (trades : f.Trades) : f.signed ≠ 0 := by
  have qty := trades.qty.ne'
  unfold signed
  rcases trades.side with buy | sell
  · simp [trades.kind, buy, qty]
  · simp [trades.kind, sell, qty]

/-! ## Closings -/

/-- A call of `_emit`: the state it reads, its time and price, and the net quantity that is dropped
after it. -/
structure Closing where
  walk : Walk
  ts : Time
  price : ℚ
  left : ℚ

namespace Closing

/-- What the dropped quantity is worth: at the price of the trade where it is beyond zero, else at
the entry price. -/
def leftValue (c : Closing) : ℚ :=
  c.left * if 0 < (c.walk.vwapEntrySide : ℚ) * c.left then c.walk.vwapEntry else c.price

/-- What was opened and not closed is what is dropped of the position, less than the threshold. -/
structure Even (c : Closing) : Prop where
  qty : c.walk.posOpenQty - c.walk.posCloseQty = max 0 ((c.walk.vwapEntrySide : ℚ) * c.left)
  dropped : |c.left| < flatQty

end Closing

namespace Walk

/-- The call of `_emit` that a fill leads to. -/
def closing (w : Walk) (f : TradeFill) : Option Closing :=
  if f.signed = 0 ∨ w.netQty = 0 ∨ (w.netQty > 0 ∧ f.signed > 0) ∨ (w.netQty < 0 ∧ f.signed < 0) then
    none
  else
    let w := w.reduce f.signed f.price (Python.orZero f.feeUsd) f.realizedPnlUsd
    if |w.netQty| < flatQty then some ⟨w, f.ts, f.price, w.netQty⟩
    else if (w.vwapEntrySide > 0 ∧ w.netQty < 0) ∨ (w.vwapEntrySide < 0 ∧ w.netQty > 0) then
      some ⟨w, f.ts, f.price, 0⟩
    else none

/-- The fees of the open episode. -/
def openFees (w : Walk) : ℚ :=
  if w.netQty = 0 then 0 else w.posFees

/-- The realised part of the open episode. -/
def openRealized (w : Walk) : ℚ :=
  if w.netQty = 0 then 0 else w.posRealized

/-- What an open position keeps: its net quantity is what was opened and not closed. -/
structure Counts (w : Walk) : Prop where
  wellFormed : w.WellFormed
  opening : w.netQty ≠ 0 → w.posOpenTs.isSome = true
  opened : w.netQty ≠ 0 → 0 < w.posOpenQty
  qty : w.netQty ≠ 0 → w.posOpenQty - w.posCloseQty = |w.netQty|

variable {w w' : Walk} {f : TradeFill} {userId : Nat} {g : FillGroup}

/-- What one trade does, with the call of `_emit` that it leads to. -/
inductive Turns (w : Walk) (f : TradeFill) : Walk → Option Closing → Prop
  | opened (flat : w.netQty = 0) : Turns w f (Walk.opened f.signed f.price f.fee f.ts) none
  | extended (sameSide : (w.netQty > 0 ∧ f.signed > 0) ∨ (w.netQty < 0 ∧ f.signed < 0)) :
      Turns w f (w.extend f.signed f.price f.fee) none
  | closed (against : (w.netQty > 0 ∧ f.signed < 0) ∨ (w.netQty < 0 ∧ f.signed > 0))
      (flat : |w.netQty + f.signed| < flatQty) :
      Turns w f (w.reduce f.signed f.price f.fee none).close
        (some ⟨w.reduce f.signed f.price f.fee none, f.ts, f.price, w.netQty + f.signed⟩)
  | flipped (against : (w.netQty > 0 ∧ f.signed < 0) ∨ (w.netQty < 0 ∧ f.signed > 0))
      (left : ¬|w.netQty + f.signed| < flatQty)
      (crossed : (w.vwapEntrySide > 0 ∧ w.netQty + f.signed < 0) ∨
        (w.vwapEntrySide < 0 ∧ w.netQty + f.signed > 0)) :
      Turns w f (Walk.opened (w.netQty + f.signed) f.price 0 f.ts)
        (some ⟨w.reduce f.signed f.price f.fee none, f.ts, f.price, 0⟩)
  | reduced (against : (w.netQty > 0 ∧ f.signed < 0) ∨ (w.netQty < 0 ∧ f.signed > 0))
      (left : ¬|w.netQty + f.signed| < flatQty)
      (uncrossed : ¬((w.vwapEntrySide > 0 ∧ w.netQty + f.signed < 0) ∨
        (w.vwapEntrySide < 0 ∧ w.netQty + f.signed > 0))) :
      Turns w f (w.reduce f.signed f.price f.fee none) none

theorem not_sameSide (against : (w.netQty > 0 ∧ f.signed < 0) ∨ (w.netQty < 0 ∧ f.signed > 0)) :
    ¬(f.signed = 0 ∨ w.netQty = 0 ∨ (w.netQty > 0 ∧ f.signed > 0) ∨
      (w.netQty < 0 ∧ f.signed < 0)) := by
  rcases against with ⟨long, sell⟩ | ⟨short, buy⟩
  · rintro (idle | flat | ⟨-, buy⟩ | ⟨short, -⟩) <;> linarith
  · rintro (idle | flat | ⟨long, -⟩ | ⟨-, sell⟩) <;> linarith

/-- A trade against the position. -/
theorem closing_of_against
    (against : (w.netQty > 0 ∧ f.signed < 0) ∨ (w.netQty < 0 ∧ f.signed > 0)) :
    w.closing f =
      if |w.netQty + f.signed| < flatQty then
        some ⟨w.reduce f.signed f.price f.fee f.realizedPnlUsd, f.ts, f.price, w.netQty + f.signed⟩
      else if (w.vwapEntrySide > 0 ∧ w.netQty + f.signed < 0) ∨
          (w.vwapEntrySide < 0 ∧ w.netQty + f.signed > 0) then
        some ⟨w.reduce f.signed f.price f.fee f.realizedPnlUsd, f.ts, f.price, 0⟩
      else none := by
  unfold closing
  rw [if_neg (not_sameSide against)]
  rfl

theorem turns_step (userId : Nat) (g : FillGroup) (w : Walk) (trades : f.Trades) :
    Turns w f (w.step userId g f).1 (w.closing f) := by
  have moved := moves_step userId g w f
  generalize w.step userId g f = result at moved
  obtain ⟨w', rows⟩ := result
  cases moved with
  | funded idle funding => exact absurd idle trades.signed_ne_zero
  | skipped idle => exact absurd idle trades.signed_ne_zero
  | opened nonzero flat =>
      unfold closing
      rw [if_pos (Or.inr (Or.inl flat))]
      exact .opened flat
  | extended sameSide =>
      unfold closing
      rw [if_pos (Or.inr (Or.inr sameSide))]
      exact .extended sameSide
  | closed against flat =>
      rw [closing_of_against against, if_pos flat, trades.unreported]
      exact .closed against flat
  | flipped against left crossed =>
      rw [closing_of_against against, if_neg left, if_pos crossed, trades.unreported]
      exact .flipped against left crossed
  | reduced against left uncrossed =>
      rw [closing_of_against against, if_neg left, if_neg uncrossed, trades.unreported]
      exact .reduced against left uncrossed

/-! ## One trade -/

/-- A trade against the position, by the side `s` of the position and the two quantities. -/
structure Opposed (w : Walk) (f : TradeFill) (s n m : ℚ) : Prop where
  unit : s * s = 1
  side : (w.vwapEntrySide : ℚ) = s
  factor : (if w.vwapEntrySide > 0 then 1 else -1 : ℚ) = s
  net : w.netQty = s * n
  signed : f.signed = -(s * m)
  pos : 0 < n ∧ 0 < m
  absNet : |w.netQty| = n
  absSigned : |f.signed| = m
  crossed : ((w.vwapEntrySide > 0 ∧ w.netQty + f.signed < 0) ∨
    (w.vwapEntrySide < 0 ∧ w.netQty + f.signed > 0)) ↔ n < m

theorem opposed_of_against (wellFormed : w.WellFormed)
    (against : (w.netQty > 0 ∧ f.signed < 0) ∨ (w.netQty < 0 ∧ f.signed > 0)) :
    ∃ s n m, Opposed w f s n m := by
  rcases against with ⟨long, sell⟩ | ⟨short, buy⟩
  · have side := wellFormed.long long
    refine ⟨1, w.netQty, -f.signed, ?_⟩
    exact
      { unit := by norm_num
        side := by rw [side]; norm_num
        factor := by rw [side]; norm_num
        net := by ring
        signed := by ring
        pos := ⟨long, by linarith⟩
        absNet := abs_of_pos long
        absSigned := abs_of_neg sell
        crossed := by
          rw [side]
          simp [lt_neg_iff_add_neg] }
  · have side := wellFormed.short short
    refine ⟨-1, -w.netQty, f.signed, ?_⟩
    exact
      { unit := by norm_num
        side := by rw [side]; norm_num
        factor := by rw [side]; norm_num
        net := by ring
        signed := by ring
        pos := ⟨by linarith, buy⟩
        absNet := abs_of_neg short
        absSigned := abs_of_pos buy
        crossed := by
          rw [side]
          simp [neg_lt_iff_pos_add'] }

namespace Opposed

variable {s n m : ℚ} (opposed : Opposed w f s n m)
include opposed

theorem rest : w.netQty + f.signed = s * (n - m) := by
  rw [opposed.net, opposed.signed]
  ring

theorem abs_rest : |w.netQty + f.signed| = |n - m| := by
  have unit : |s| = 1 := by
    rcases mul_self_eq_one_iff.mp opposed.unit with rfl | rfl <;> norm_num
  rw [opposed.rest, abs_mul, unit, one_mul]

theorem sided_rest : (w.vwapEntrySide : ℚ) * (w.netQty + f.signed) = n - m := by
  rw [opposed.side, opposed.rest, ← mul_assoc, opposed.unit, one_mul]

theorem posCloseQty : (w.reduce f.signed f.price f.fee none).posCloseQty =
    w.posCloseQty + min n m := by
  simp only [reduce, opposed.absNet, opposed.absSigned]

theorem posRealized : (w.reduce f.signed f.price f.fee none).posRealized =
    w.posRealized + s * (f.price - w.vwapEntry) * min n m := by
  simp only [reduce, opposed.absNet, opposed.absSigned, opposed.factor, Option.getD_none]

end Opposed

/-- What trades with these fees and this cash flow keep, in fees and in realised value less the value
of the open position. -/
structure Settles (w : Walk) (fee cash : ℚ) (w' : Walk) (closings : List Closing) : Prop where
  counts : w'.Counts
  even : ∀ c ∈ closings, c.Even
  emits : ∀ c ∈ closings, c.walk.posOpenTs.isSome = true ∧ 0 < c.walk.posOpenQty
  fees : w'.openFees + (closings.map fun c => c.walk.posFees).sum = w.openFees + fee
  realized : w'.openRealized - w'.netQty * w'.vwapEntry +
      (closings.map fun c => c.walk.posRealized).sum =
    w.openRealized - w.netQty * w.vwapEntry + cash + (closings.map Closing.leftValue).sum

theorem openFees_of_ne (open_ : w.netQty ≠ 0) : w.openFees = w.posFees := if_neg open_

theorem openRealized_of_ne (open_ : w.netQty ≠ 0) : w.openRealized = w.posRealized := if_neg open_

theorem settles_opened (flat : w.netQty = 0) (trades : f.signed ≠ 0) :
    Settles w f.fee f.cash (opened f.signed f.price f.fee f.ts) [] where
  counts :=
    { wellFormed := wellFormed_opened trades _ _ _
      opening := fun _ => rfl
      opened := fun _ => abs_pos.mpr trades
      qty := fun _ => sub_zero _ }
  even := fun _ none => absurd none List.not_mem_nil
  emits := fun _ none => absurd none List.not_mem_nil
  fees := by
    rw [openFees_of_ne (show (opened f.signed f.price f.fee f.ts).netQty ≠ 0 from trades)]
    simp [opened, openFees, flat]
  realized := by
    rw [openRealized_of_ne (show (opened f.signed f.price f.fee f.ts).netQty ≠ 0 from trades)]
    simp [opened, openRealized, flat, TradeFill.cash]

theorem open_of_sameSide
    (sameSide : (w.netQty > 0 ∧ f.signed > 0) ∨ (w.netQty < 0 ∧ f.signed < 0)) : w.netQty ≠ 0 := by
  rcases sameSide with ⟨long, -⟩ | ⟨short, -⟩
  · exact long.ne'
  · exact short.ne

theorem abs_extend (sameSide : (w.netQty > 0 ∧ f.signed > 0) ∨ (w.netQty < 0 ∧ f.signed < 0)) :
    |w.netQty + f.signed| = |w.netQty| + |f.signed| := by
  rw [abs_add_eq_add_abs_iff]
  exact sameSide.imp (fun both => ⟨both.1.le, both.2.le⟩) fun both => ⟨both.1.le, both.2.le⟩

/-- The average entry price is that of what is held and what is added. -/
theorem value_extend (sameSide : (w.netQty > 0 ∧ f.signed > 0) ∨ (w.netQty < 0 ∧ f.signed < 0)) :
    (w.netQty + f.signed) *
      ((w.vwapEntry * |w.netQty| + f.price * |f.signed|) / (|w.netQty| + |f.signed|)) =
        w.netQty * w.vwapEntry + f.signed * f.price := by
  have size : 0 < |w.netQty| + |f.signed| :=
    add_pos_of_pos_of_nonneg (abs_pos.mpr (open_of_sameSide sameSide)) (abs_nonneg _)
  rw [mul_div_assoc', div_eq_iff size.ne']
  rcases sameSide with ⟨long, buy⟩ | ⟨short, sell⟩
  · rw [abs_of_pos long, abs_of_pos buy]
    ring
  · rw [abs_of_neg short, abs_of_neg sell]
    ring

theorem settles_extended (counts : w.Counts)
    (sameSide : (w.netQty > 0 ∧ f.signed > 0) ∨ (w.netQty < 0 ∧ f.signed < 0)) :
    Settles w f.fee f.cash (w.extend f.signed f.price f.fee) [] := by
  have abs_sum := abs_extend sameSide
  have open_ := open_of_sameSide sameSide
  have open' : (w.extend f.signed f.price f.fee).netQty ≠ 0 := by
    intro zero
    change w.netQty + f.signed = 0 at zero
    rw [zero, abs_zero] at abs_sum
    linarith [abs_pos.mpr open_, abs_nonneg f.signed]
  have moved : Moves 0 ⟨none, "", "", ""⟩ w f (w.extend f.signed f.price f.fee) [] :=
    .extended sameSide
  exact
    { counts :=
        { wellFormed := counts.wellFormed.moves moved
          opening := fun _ => counts.opening open_
          opened := fun _ => add_pos_of_pos_of_nonneg (counts.opened open_) (abs_nonneg _)
          qty := fun _ => by
            have qty := counts.qty open_
            change w.posOpenQty + |f.signed| - w.posCloseQty = |w.netQty + f.signed|
            rw [abs_sum]
            linarith }
      even := fun _ none => absurd none List.not_mem_nil
      emits := fun _ none => absurd none List.not_mem_nil
      fees := by
        rw [openFees_of_ne open', openFees_of_ne open_]
        exact add_zero _
      realized := by
        rw [openRealized_of_ne open', openRealized_of_ne open_]
        simp only [extend, value_extend sameSide, List.map_nil, List.sum_nil, TradeFill.cash]
        ring }

theorem open_of_opposed {s n m : ℚ} (opposed : Opposed w f s n m) : w.netQty ≠ 0 := by
  intro flat
  have abs := opposed.absNet
  rw [flat, abs_zero] at abs
  exact opposed.pos.1.ne abs

/-- What is opened and not closed when a trade against the position is through. -/
theorem qty_reduce {s n m : ℚ} (counts : w.Counts) (opposed : Opposed w f s n m) :
    w.posOpenQty - (w.reduce f.signed f.price f.fee none).posCloseQty = max 0 (n - m) := by
  have qty := counts.qty (open_of_opposed opposed)
  rw [opposed.absNet] at qty
  rw [opposed.posCloseQty, ← sub_sub, qty]
  rcases le_total n m with beyond | under
  · rw [min_eq_left beyond, max_eq_left (by linarith), sub_self]
  · rw [min_eq_right under, max_eq_right (by linarith)]

theorem settles_closed (counts : w.Counts)
    (against : (w.netQty > 0 ∧ f.signed < 0) ∨ (w.netQty < 0 ∧ f.signed > 0))
    (flat : |w.netQty + f.signed| < flatQty) :
    Settles w f.fee f.cash (w.reduce f.signed f.price f.fee none).close
      [⟨w.reduce f.signed f.price f.fee none, f.ts, f.price, w.netQty + f.signed⟩] := by
  obtain ⟨s, n, m, opposed⟩ := opposed_of_against counts.wellFormed against
  have open_ := open_of_opposed opposed
  refine
    { counts := ⟨wellFormed_close _, fun left => absurd rfl left, fun left => absurd rfl left,
        fun left => absurd rfl left⟩
      even := fun c own => ?_
      emits := fun c own => ?_
      fees := ?_
      realized := ?_ }
  · rw [List.mem_singleton.mp own]
    refine ⟨?_, flat⟩
    change w.posOpenQty - _ = max 0 ((w.vwapEntrySide : ℚ) * (w.netQty + f.signed))
    rw [qty_reduce counts opposed, opposed.sided_rest]
  · rw [List.mem_singleton.mp own]
    exact ⟨counts.opening open_, counts.opened open_⟩
  · rw [openFees_of_ne open_]
    simp [openFees, close, reduce]
  · have left : (⟨w.reduce f.signed f.price f.fee none, f.ts, f.price, w.netQty + f.signed⟩ :
        Closing).leftValue = s * (n - m) * if 0 < n - m then w.vwapEntry else f.price := by
      change (w.netQty + f.signed) * (if 0 < (w.vwapEntrySide : ℚ) * (w.netQty + f.signed) then
        w.vwapEntry else f.price) = _
      rw [opposed.sided_rest, opposed.rest]
    rw [openRealized_of_ne open_, List.map_singleton, List.map_singleton, List.sum_singleton,
      List.sum_singleton, left, opposed.posRealized, TradeFill.cash, opposed.net, opposed.signed]
    simp only [openRealized, close, if_true, zero_mul, sub_zero, zero_add]
    rcases lt_or_ge m n with under | beyond
    · rw [if_pos (by linarith), min_eq_right under.le]
      ring
    · rw [if_neg (by linarith), min_eq_left beyond]
      ring

theorem settles_flipped (counts : w.Counts)
    (against : (w.netQty > 0 ∧ f.signed < 0) ∨ (w.netQty < 0 ∧ f.signed > 0))
    (left : ¬|w.netQty + f.signed| < flatQty)
    (crossed : (w.vwapEntrySide > 0 ∧ w.netQty + f.signed < 0) ∨
      (w.vwapEntrySide < 0 ∧ w.netQty + f.signed > 0)) :
    Settles w f.fee f.cash (opened (w.netQty + f.signed) f.price 0 f.ts)
      [⟨w.reduce f.signed f.price f.fee none, f.ts, f.price, 0⟩] := by
  obtain ⟨s, n, m, opposed⟩ := opposed_of_against counts.wellFormed against
  have open_ := open_of_opposed opposed
  have open' := nonzero_of_left left
  have beyond := opposed.crossed.mp crossed
  refine
    { counts := ⟨wellFormed_opened open' _ _ _, fun _ => rfl, fun _ => abs_pos.mpr open',
        fun _ => sub_zero _⟩
      even := fun c own => ?_
      emits := fun c own => ?_
      fees := ?_
      realized := ?_ }
  · rw [List.mem_singleton.mp own]
    refine ⟨?_, by rw [abs_zero]; decide +kernel⟩
    change w.posOpenQty - _ = max 0 ((w.vwapEntrySide : ℚ) * 0)
    rw [qty_reduce counts opposed, mul_zero, max_self, max_eq_left (by linarith)]
  · rw [List.mem_singleton.mp own]
    exact ⟨counts.opening open_, counts.opened open_⟩
  · rw [openFees_of_ne open_, openFees_of_ne (show (opened _ f.price 0 f.ts).netQty ≠ 0 from open')]
    simp [opened, reduce]
  · rw [openRealized_of_ne open_,
      openRealized_of_ne (show (opened _ f.price 0 f.ts).netQty ≠ 0 from open'),
      List.map_singleton, List.map_singleton, List.sum_singleton, List.sum_singleton,
      opposed.posRealized, min_eq_left beyond.le]
    simp only [opened, Closing.leftValue, TradeFill.cash, zero_mul]
    rw [opposed.net, opposed.signed]
    ring

theorem settles_reduced (counts : w.Counts)
    (against : (w.netQty > 0 ∧ f.signed < 0) ∨ (w.netQty < 0 ∧ f.signed > 0))
    (left : ¬|w.netQty + f.signed| < flatQty)
    (uncrossed : ¬((w.vwapEntrySide > 0 ∧ w.netQty + f.signed < 0) ∨
      (w.vwapEntrySide < 0 ∧ w.netQty + f.signed > 0))) :
    Settles w f.fee f.cash (w.reduce f.signed f.price f.fee none) [] := by
  obtain ⟨s, n, m, opposed⟩ := opposed_of_against counts.wellFormed against
  have open_ := open_of_opposed opposed
  have open' : (w.reduce f.signed f.price f.fee none).netQty ≠ 0 := nonzero_of_left left
  have under : m ≤ n := not_lt.mp fun beyond => uncrossed (opposed.crossed.mpr beyond)
  have moved : Moves 0 ⟨none, "", "", ""⟩ w { f with realizedPnlUsd := none }
      (w.reduce f.signed f.price f.fee none) [] := .reduced against left uncrossed
  refine
    { counts := ⟨counts.wellFormed.moves moved, fun _ => counts.opening open_,
        fun _ => counts.opened open_, fun _ => ?_⟩
      even := fun _ none => absurd none List.not_mem_nil
      emits := fun _ none => absurd none List.not_mem_nil
      fees := ?_
      realized := ?_ }
  · change w.posOpenQty - _ = |w.netQty + f.signed|
    rw [qty_reduce counts opposed, opposed.abs_rest, max_eq_right (by linarith),
      abs_of_nonneg (by linarith)]
  · rw [openFees_of_ne open_, openFees_of_ne open']
    exact add_zero _
  · rw [openRealized_of_ne open_, openRealized_of_ne open', opposed.posRealized,
      min_eq_right under]
    change _ - (w.netQty + f.signed) * w.vwapEntry + _ = _
    simp only [List.map_nil, List.sum_nil, TradeFill.cash]
    rw [opposed.net, opposed.signed]
    ring

theorem settles_step (userId : Nat) (g : FillGroup) (counts : w.Counts) (trades : f.Trades) :
    Settles w f.fee f.cash (w.step userId g f).1 (w.closing f).toList := by
  have turned := turns_step userId g w trades
  generalize (w.step userId g f).1 = w', w.closing f = closing at turned
  cases turned with
  | opened flat => exact settles_opened flat trades.signed_ne_zero
  | extended sameSide => exact settles_extended counts sameSide
  | closed against flat => exact settles_closed counts against flat
  | flipped against left crossed => exact settles_flipped counts against left crossed
  | reduced against left uncrossed => exact settles_reduced counts against left uncrossed

/-! ## All trades -/

theorem Settles.trans {w'' : Walk} {fee cash fee' cash' : ℚ} {closings closings' : List Closing}
    (first : Settles w fee cash w' closings) (later : Settles w' fee' cash' w'' closings') :
    Settles w (fee + fee') (cash + cash') w'' (closings ++ closings') where
  counts := later.counts
  even c member := (List.mem_append.mp member).elim (first.even c) (later.even c)
  emits c member := (List.mem_append.mp member).elim (first.emits c) (later.emits c)
  fees := by
    rw [List.map_append, List.sum_append]
    linarith [first.fees, later.fees]
  realized := by
    rw [List.map_append, List.sum_append, List.map_append, List.sum_append]
    linarith [first.realized, later.realized]

/-- The calls of `_emit` over a list of fills. -/
def closings (userId : Nat) (g : FillGroup) : Walk → List TradeFill → List Closing
  | _, [] => []
  | w, f :: fills => (w.closing f).toList ++ closings userId g (w.step userId g f).1 fills

theorem settles_run (userId : Nat) (g : FillGroup) {fills : List TradeFill}
    (trades : ∀ f ∈ fills, f.Trades) (counts : w.Counts) :
    Settles w (fills.map TradeFill.fee).sum (fills.map TradeFill.cash).sum
      (Transducer.final (step userId g) w fills) (closings userId g w fills) := by
  induction fills generalizing w with
  | nil =>
      exact ⟨counts, fun _ none => absurd none List.not_mem_nil,
        fun _ none => absurd none List.not_mem_nil, rfl, by simp [Transducer.final, closings]⟩
  | cons f fills ih =>
      have first := settles_step userId g counts (trades f List.mem_cons_self)
      rw [List.map_cons, List.map_cons, List.sum_cons, List.sum_cons]
      exact first.trans (ih (fun f' later => trades f' (List.mem_cons_of_mem _ later)) first.counts)

theorem counts_start : ({} : Walk).Counts :=
  ⟨wellFormed_start, fun open_ => absurd rfl open_, fun open_ => absurd rfl open_,
    fun open_ => absurd rfl open_⟩

end Walk

/-! ## The rows -/

variable {userId : Nat} {g : FillGroup} {fills : List TradeFill}

def Closing.emit (c : Closing) (userId : Nat) (g : FillGroup) : List PositionRow :=
  c.walk.emit userId g c.ts c.price

/-- A row is of the state that `_emit` reads. -/
structure PositionRow.Tells (row : PositionRow) (c : Closing) : Prop where
  qty : row.legAQty = c.walk.posOpenQty
  fees : row.legAFeesUsd = some c.walk.posFees
  realized : row.legARealizedPnlUsd = some c.walk.posRealized

theorem Closing.emit_eq {c : Closing} (userId : Nat) (g : FillGroup)
    (emits : c.walk.posOpenTs.isSome = true ∧ 0 < c.walk.posOpenQty) :
    ∃ row, c.emit userId g = [row] ∧ row.Tells c := by
  obtain ⟨opening, open_⟩ := emits
  obtain ⟨openTs, found⟩ := Option.isSome_iff_exists.mp opening
  unfold emit Walk.emit
  rw [found]
  dsimp only
  rw [if_neg (not_le.mpr open_)]
  exact ⟨_, rfl, rfl, rfl, rfl⟩

theorem Walk.step_rows (userId : Nat) (g : FillGroup) (w : Walk) (f : TradeFill) :
    (w.step userId g f).2 = (w.closing f).toList.flatMap fun c => c.emit userId g := by
  have moved := Walk.moves_step userId g w f
  generalize w.step userId g f = result at moved
  obtain ⟨w', rows⟩ := result
  dsimp only at moved ⊢
  cases moved with
  | funded idle funding =>
      unfold closing
      rw [if_pos (Or.inl idle)]
      rfl
  | skipped idle =>
      unfold closing
      rw [if_pos (Or.inl idle)]
      rfl
  | opened trades flat =>
      unfold closing
      rw [if_pos (Or.inr (Or.inl flat))]
      rfl
  | extended sameSide =>
      unfold closing
      rw [if_pos (Or.inr (Or.inr sameSide))]
      rfl
  | closed against flat =>
      rw [closing_of_against against, if_pos flat, Option.toList_some, List.flatMap_singleton]
      rfl
  | flipped against left crossed =>
      rw [closing_of_against against, if_neg left, if_pos crossed, Option.toList_some,
        List.flatMap_singleton]
      rfl
  | reduced against left uncrossed =>
      rw [closing_of_against against, if_neg left, if_neg uncrossed]
      rfl

theorem output_eq_closings (w : Walk) (fills : List TradeFill) :
    Transducer.output (Walk.step userId g) w fills =
      (Walk.closings userId g w fills).flatMap fun c => c.emit userId g := by
  induction fills generalizing w with
  | nil => rfl
  | cons f fills ih =>
      rw [Walk.closings, List.flatMap_append, ← Walk.step_rows, ← ih]
      rfl

def feesOf (rows : List PositionRow) : ℚ :=
  (rows.map fun row => Python.orZero row.legAFeesUsd).sum

def realizedOf (rows : List PositionRow) : ℚ :=
  (rows.map fun row => Python.orZero row.legARealizedPnlUsd).sum

/-- The rows say the fees and the realised PnL of the states they come from. -/
theorem sums_of_emits {closings : List Closing}
    (emits : ∀ c ∈ closings, c.walk.posOpenTs.isSome = true ∧ 0 < c.walk.posOpenQty) :
    feesOf (closings.flatMap fun c => c.emit userId g) =
        (closings.map fun c => c.walk.posFees).sum ∧
      realizedOf (closings.flatMap fun c => c.emit userId g) =
        (closings.map fun c => c.walk.posRealized).sum := by
  induction closings with
  | nil => exact ⟨rfl, rfl⟩
  | cons c closings ih =>
      obtain ⟨row, only, tells⟩ := c.emit_eq userId g (emits c List.mem_cons_self)
      obtain ⟨fees, realized⟩ := ih fun c' later => emits c' (List.mem_cons_of_mem _ later)
      unfold feesOf at fees ⊢
      unfold realizedOf at realized ⊢
      rw [List.flatMap_cons, only, List.singleton_append]
      simp only [List.map_cons, List.sum_cons, fees, realized, tells.fees, tells.realized,
        Python.orZero_some]
      exact ⟨trivial, trivial⟩

/-! ## The balance -/

/-- The calls of `_emit` of `_reconstruct_one`. -/
def closingsOf (userId : Nat) (g : FillGroup) (fills : List TradeFill) : List Closing :=
  Walk.closings userId g {} fills

/-- The loop's variables at its end. -/
def lastWalk (userId : Nat) (g : FillGroup) (fills : List TradeFill) : Walk :=
  Transducer.final (Walk.step userId g) {} fills

/-- Rows whose fees, with those of the open episode, are those of the fills, and whose realised PnL,
with that of the open episode, is the cash flow of the fills and the open quantity at its entry
price, but for what is dropped. -/
structure Balances (userId : Nat) (g : FillGroup) (fills : List TradeFill)
    (rows : List PositionRow) (dropped : ℚ) : Prop where
  fees : feesOf rows + (lastWalk userId g fills).openFees = (fills.map TradeFill.fee).sum
  realized : realizedOf rows + (lastWalk userId g fills).openRealized =
    (fills.map TradeFill.cash).sum +
      (lastWalk userId g fills).netQty * (lastWalk userId g fills).vwapEntry + dropped

/-- Every row opens what it closes, and the rows that are inserted balance the fills. -/
structure BalancesExactly (positions : List PositionRow) (userId : Nat) (g : FillGroup)
    (fills : List TradeFill) : Prop where
  qty : ∀ c ∈ closingsOf userId g fills, c.walk.posOpenQty = c.walk.posCloseQty
  rows : Balances userId g fills (reconstructOne positions userId g fills) 0

/-- The rows of the walk that are not inserted, because a stored row is found for them. -/
def skippedRows (positions : List PositionRow) (userId : Nat) (g : FillGroup)
    (fills : List TradeFill) : List PositionRow :=
  (episodes userId g fills).filter fun row => positions.any fun stored => stored.existingFor row

/-- Every row opens what it closes but for the quantity below the threshold that is dropped. The
rows that are inserted and those that are skipped are the rows of the walk, each once, and together
they balance the fills. -/
structure BalancesNearly (positions : List PositionRow) (userId : Nat) (g : FillGroup)
    (fills : List TradeFill) : Prop where
  qty : ∀ row ∈ reconstructOne positions userId g fills,
    ∃ c ∈ closingsOf userId g fills, row ∈ c.emit userId g ∧ row.Tells c ∧ c.Even
  once : (reconstructOne positions userId g fills ++ skippedRows positions userId g fills).Perm
    (episodes userId g fills)
  rows : Balances userId g fills
    (reconstructOne positions userId g fills ++ skippedRows positions userId g fills)
    ((closingsOf userId g fills).map Closing.leftValue).sum

/-- Trades for which no PnL is reported are balanced by the rows of `_reconstruct_one`. -/
theorem reconstructOne_balances (positions : List PositionRow) (userId : Nat) (g : FillGroup)
    {fills : List TradeFill} (trades : ∀ f ∈ fills, f.Trades) :
    BalancesNearly positions userId g fills := by
  have settled := Walk.settles_run userId g trades Walk.counts_start
  obtain ⟨sameFees, sameRealized⟩ := @sums_of_emits userId g _ settled.emits
  have all : episodes userId g fills =
      (closingsOf userId g fills).flatMap fun c => c.emit userId g := output_eq_closings _ fills
  have split : (reconstructOne positions userId g fills ++
      skippedRows positions userId g fills).Perm (episodes userId g fills) :=
    List.perm_append_comm.trans (List.filter_append_perm _ _)
  refine ⟨fun row member => ?_, split, ?_, ?_⟩
  · have emitted := (List.mem_filter.mp member).1
    rw [all] at emitted
    obtain ⟨c, known, own⟩ := List.mem_flatMap.mp emitted
    obtain ⟨row', only, tells⟩ := c.emit_eq userId g (settled.emits c known)
    have same : row = row' := List.mem_singleton.mp (only ▸ own)
    exact ⟨c, known, own, same ▸ tells, settled.even c known⟩
  · have fees := settled.fees
    rw [← sameFees] at fees
    unfold feesOf
    rw [(split.map _).sum_eq, all]
    unfold feesOf at fees
    have start : ({} : Walk).openFees = 0 := rfl
    rw [start] at fees
    simp only [lastWalk, closingsOf]
    linarith
  · have realized := settled.realized
    rw [← sameRealized] at realized
    unfold realizedOf
    rw [(split.map _).sum_eq, all]
    unfold realizedOf at realized
    have start : ({} : Walk).openRealized = 0 := rfl
    rw [start] at realized
    simp only [lastWalk, closingsOf]
    linarith

/-! ## Dust, and a stored row -/

def btcGroup : FillGroup :=
  ⟨some 1, "binance", "futures", "BTC"⟩

def btcTrade (side : String) (qty price fee : ℚ) (ts : Time) : TradeFill where
  userId := 9
  walletId := some 1
  exchange := "binance"
  market := "futures"
  symbol := "BTC"
  side := some side
  qty
  price
  feeUsd := some fee
  ts

theorem btcTrade_trades {side : String} {qty : ℚ} (price fee : ℚ) (ts : Time)
    (known : Python.lower side = "buy" ∨ Python.lower side = "sell") (pos : 0 < qty) :
    (btcTrade side qty price fee ts).Trades :=
  ⟨by simp [btcTrade], known, pos, rfl⟩

/-- All but half a billionth is sold. -/
def dustyFills : List TradeFill :=
  [btcTrade "buy" 1 100 0 0, btcTrade "sell" (1 - 1 / 2000000000) 110 0 10]

def wholeFills : List TradeFill :=
  [btcTrade "buy" 1 100 1 0, btcTrade "sell" 1 110 1 10]

/-- Each of two trades of which one opens a position and one closes it. -/
theorem reconstructOne_balances_whole : BalancesNearly [] 9 btcGroup wholeFills := by
  refine reconstructOne_balances [] 9 btcGroup fun f member => ?_
  rcases List.mem_cons.mp member with rfl | last
  · exact btcTrade_trades 100 1 0 (by decide +kernel) (by norm_num)
  · rw [List.mem_singleton.mp last]
    exact btcTrade_trades 110 1 10 (by decide +kernel) (by norm_num)

/-- The position counts as closed with dust that was not sold; and where the row is stored, no row
has the fees. -/
theorem dust_and_stored_rows :
    ¬BalancesExactly [] 9 btcGroup dustyFills ∧
      ¬BalancesExactly (reconstructOne [] 9 btcGroup wholeFills) 9 btcGroup wholeFills := by
  constructor
  · intro balances
    have even : ((closingsOf 9 btcGroup dustyFills).all fun c =>
        decide (c.walk.posOpenQty = c.walk.posCloseQty)) = true :=
      List.all_eq_true.mpr fun c member => decide_eq_true (balances.qty c member)
    revert even
    decide +kernel
  · intro balances
    have fees := balances.rows.fees
    revert fees
    decide +kernel

end Fills

end Avalant
