import Mathlib.Algebra.BigOperators.Group.List.Basic
import Mathlib.Algebra.Order.Ring.Unbundled.Rat
import Mathlib.Data.List.MinMax

/-!
Candles of the in and out spread of a pair, their fold over time, and the aggregate that the
rollup queries compute.
-/

namespace Avalant

namespace Spread

structure SpreadPair where
  exchangeLong : String
  exchangeShort : String
  symbol : String
  deriving DecidableEq

structure Ohlc where
  open_ : ℚ
  high : ℚ
  low : ℚ
  close : ℚ
  deriving DecidableEq

structure Candle where
  in_ : Ohlc
  out : Ohlc
  samples : ℤ
  deriving DecidableEq

/-- A row of a candle table; its key is the pair and `bucket_ts`. -/
structure CandleRow where
  pair : SpreadPair
  bucketTs : Nat
  candle : Candle
  deriving DecidableEq

/-- A value of a `smallint` column, unless it is out of range. -/
def smallint (x : ℤ) : Option ℤ :=
  if -32768 ≤ x ∧ x ≤ 32767 then some x else none

theorem smallint_of_isSome {x : ℤ} (fits : (smallint x).isSome) : smallint x = some x := by
  unfold smallint at fits ⊢
  split at fits
  case isTrue range => exact if_pos range
  case isFalse => cases fits

/-! ## The fold over time -/

def Ohlc.merge (a b : Ohlc) : Ohlc :=
  ⟨a.open_, max a.high b.high, min a.low b.low, b.close⟩

def Candle.merge (a b : Candle) : Candle :=
  ⟨a.in_.merge b.in_, a.out.merge b.out, a.samples + b.samples⟩

/-- First open, max high, min low, last close and sum of the samples of candles in their order. -/
def foldCandles : List Candle → Option Candle
  | [] => none
  | c :: cs => some (cs.foldl Candle.merge c)

theorem in_foldl (cs : List Candle) (c : Candle) :
    (cs.foldl Candle.merge c).in_ = (cs.map Candle.in_).foldl Ohlc.merge c.in_ := by
  induction cs generalizing c with
  | nil => rfl
  | cons d cs ih => exact ih (c.merge d)

theorem out_foldl (cs : List Candle) (c : Candle) :
    (cs.foldl Candle.merge c).out = (cs.map Candle.out).foldl Ohlc.merge c.out := by
  induction cs generalizing c with
  | nil => rfl
  | cons d cs ih => exact ih (c.merge d)

theorem samples_foldl (cs : List Candle) (c : Candle) :
    (cs.foldl Candle.merge c).samples = c.samples + (cs.map Candle.samples).sum := by
  induction cs generalizing c with
  | nil => simp
  | cons d cs ih =>
      rw [List.foldl_cons, ih, List.map_cons, List.sum_cons]
      exact add_assoc _ _ _

theorem merge_foldl (os : List Ohlc) (o : Ohlc) :
    os.foldl Ohlc.merge o =
      ⟨o.open_, (os.map Ohlc.high).foldl max o.high, (os.map Ohlc.low).foldl min o.low,
        (os.getLast?.getD o).close⟩ := by
  induction os generalizing o with
  | nil => rfl
  | cons p os ih =>
      rw [List.foldl_cons, ih]
      cases os with
      | nil => rfl
      | cons q os => rw [List.getLast?_cons_cons, List.getLast?_cons]; rfl

/-! ## The aggregate -/

/-- The aggregated columns of one side, with the first and the last row by time. -/
def aggregateOhlc (rows : List CandleRow) (first last : CandleRow) (side : Candle → Ohlc) : Ohlc where
  open_ := (side first.candle).open_
  high := (rows.map fun r => (side r.candle).high).foldl max (side first.candle).high
  low := (rows.map fun r => (side r.candle).low).foldl min (side first.candle).low
  close := (side last.candle).close

/-- `array_agg(open ORDER BY bucket_ts ASC)[1]`, `MAX(high)`, `MIN(low)`,
`array_agg(close ORDER BY bucket_ts DESC)[1]` and `SUM(samples)` of the rows of one group. -/
def aggregate (rows : List CandleRow) : Option Candle :=
  (rows.argmin CandleRow.bucketTs).bind fun first =>
    (rows.argmax CandleRow.bucketTs).map fun last =>
      { in_ := aggregateOhlc rows first last Candle.in_
        out := aggregateOhlc rows first last Candle.out
        samples := (rows.map fun r => r.candle.samples).sum }

/-- Rows in the order of their times. -/
def InOrder (rows : List CandleRow) : Prop :=
  rows.Pairwise fun r r' => r.bucketTs < r'.bucketTs

variable {rows : List CandleRow} {r : CandleRow}

theorem argmin_of_inOrder (inOrder : InOrder (r :: rows)) :
    (r :: rows).argmin CandleRow.bucketTs = some r := by
  cases found : (r :: rows).argmin CandleRow.bucketTs with
  | none => exact absurd (List.argmin_eq_none.mp found) (List.cons_ne_nil _ _)
  | some first =>
      rcases List.mem_cons.mp (List.argmin_mem found) with same | later
      · rw [same]
      · have least := List.le_of_mem_argmin List.mem_cons_self found
        have greater := (List.pairwise_cons.mp inOrder).1 first later
        exact absurd greater (Nat.not_lt.mpr least)

theorem argmax_of_inOrder (inOrder : InOrder (r :: rows)) :
    (r :: rows).argmax CandleRow.bucketTs = some (rows.getLast?.getD r) := by
  have ends : ∃ before last, r :: rows = before ++ [last] ∧ last = rows.getLast?.getD r := by
    refine ⟨(r :: rows).dropLast, rows.getLast?.getD r, ?_, rfl⟩
    have last : (r :: rows).getLast (List.cons_ne_nil _ _) = rows.getLast?.getD r :=
      Option.some_injective _ (by rw [← List.getLast?_eq_some_getLast, List.getLast?_cons])
    rw [← last, List.dropLast_append_getLast]
  obtain ⟨before, last, split, named⟩ := ends
  rw [← named]
  cases found : (r :: rows).argmax CandleRow.bucketTs with
  | none => exact absurd (List.argmax_eq_none.mp found) (List.cons_ne_nil _ _)
  | some greatest =>
      have member := List.argmax_mem found
      have most := List.le_of_mem_argmax (split ▸ List.mem_concat_self : last ∈ r :: rows) found
      rw [split] at member
      rcases List.mem_append.mp member with earlier | own
      · unfold InOrder at inOrder
        rw [split] at inOrder
        have less := (List.pairwise_append.mp inOrder).2.2 greatest earlier last List.mem_cons_self
        exact absurd less (Nat.not_lt.mpr most)
      · rw [List.mem_singleton.mp own]

theorem aggregateOhlc_eq_foldl (side : Candle → Ohlc) :
    aggregateOhlc (r :: rows) r (rows.getLast?.getD r) side =
      ((rows.map CandleRow.candle).map side).foldl Ohlc.merge (side r.candle) := by
  have last : (((rows.map CandleRow.candle).map side).getLast?.getD (side r.candle)).close =
      (side (rows.getLast?.getD r).candle).close := by
    rw [List.map_map, List.getLast?_map]
    cases rows.getLast? <;> rfl
  rw [merge_foldl, last]
  simp only [List.map_map]
  unfold aggregateOhlc
  rw [List.map_cons, List.foldl_cons, max_self, List.map_cons, List.foldl_cons, min_self]
  rfl

/-- The aggregate of rows in order is the fold of their candles. -/
theorem aggregate_eq_fold (inOrder : InOrder rows) :
    aggregate rows = foldCandles (rows.map CandleRow.candle) := by
  cases rows with
  | nil => rfl
  | cons r rows =>
      unfold aggregate
      rw [argmin_of_inOrder inOrder, argmax_of_inOrder inOrder, Option.bind_some, Option.map_some]
      change some _ = some _
      congr 1
      have total : ((r :: rows).map fun r => r.candle.samples).sum =
          ((rows.map CandleRow.candle).foldl Candle.merge r.candle).samples := by
        rw [samples_foldl, List.map_cons, List.sum_cons, List.map_map]
        rfl
      rw [total, aggregateOhlc_eq_foldl, aggregateOhlc_eq_foldl, ← in_foldl, ← out_foldl]

end Spread

end Avalant
