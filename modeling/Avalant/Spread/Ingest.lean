import Avalant.Lib.Redelivery
import Avalant.Spread.Candles
import Mathlib.Data.List.AList

/-!
The upsert of 5 s candles, under redelivery of entries.

The rows after a sequence of entries are the folds of the entries of each key, so that an entry
that comes again adds its samples again, and its close becomes the last one.
-/

namespace Avalant

namespace Spread

/-! ## The upsert -/

/-- A pair and `bucket_ts`. -/
abbrev CandleKey := SpreadPair × Nat

def CandleRow.key (r : CandleRow) : CandleKey := (r.pair, r.bucketTs)

abbrev CandleTable := AList fun _ : CandleKey => Candle

/-- The `DO UPDATE SET` clause. -/
def onConflict (cur excluded : Candle) : Candle where
  in_ := { cur.in_ with
    high := max excluded.in_.high cur.in_.high
    low := min excluded.in_.low cur.in_.low
    close := excluded.in_.close }
  out := { cur.out with
    high := max excluded.out.high cur.out.high
    low := min excluded.out.low cur.out.low
    close := excluded.out.close }
  samples := cur.samples + excluded.samples

/-- The `INSERT` of one entry; `none` when the samples are out of range. -/
def upsert (t : CandleTable) (e : CandleRow) : Option CandleTable :=
  let c := match t.lookup e.key with
    | none => e.candle
    | some cur => onConflict cur e.candle
  (smallint c.samples).map fun _ => t.insert e.key c

/-- `_process_batch`, a transaction: `none` when it is rolled back. -/
def processBatch (t : CandleTable) : List CandleRow → Option CandleTable
  | [] => some t
  | e :: es => (upsert t e).bind fun t => processBatch t es

/-- The batches that have been committed, as the numbers of their entries in the stream. -/
def commitAll (stream : Nat → CandleRow) (t : CandleTable) : List (List Nat) → Option CandleTable
  | [] => some t
  | batch :: batches =>
      (processBatch t (batch.map stream)).bind fun t => commitAll stream t batches

/-! ## Entries taken once -/

/-- The candles of a key, in the order of their entries. -/
def candlesOf (stream : Nat → CandleRow) (ids : List Nat) (key : CandleKey) : List Candle :=
  (ids.filter fun id => (stream id).key = key).map fun id => (stream id).candle

/-- Each row is the fold of its entries, every entry taken once. -/
def IngestedOnce (stream : Nat → CandleRow) (ids : List Nat) (t : CandleTable) : Prop :=
  ∀ key, t.lookup key = foldCandles (candlesOf stream (Delivery.firsts [] ids) key)

/-- The closes of the last entry of a key. -/
def lastCloses (cs : List Candle) : Option (ℚ × ℚ) :=
  cs.getLast?.map fun c => (c.in_.close, c.out.close)

/-- For all batches that are committed, with any redeliveries. -/
def AlwaysIngestedOnce : Prop :=
  ∀ stream batches t, commitAll stream ∅ batches = some t → IngestedOnce stream batches.flatten t

/-- The redelivered entries of each key add no samples, and the last delivery of the key has the
closes of the last first delivery. -/
def Harmless (stream : Nat → CandleRow) (ids : List Nat) : Prop :=
  ∀ key, ((candlesOf stream (Delivery.repeats [] ids) key).map Candle.samples).sum = 0 ∧
    lastCloses (candlesOf stream ids key) =
      lastCloses (candlesOf stream (Delivery.firsts [] ids) key)

/-! ## Rows as folds -/

theorem onConflict_eq_merge (cur excluded : Candle) : onConflict cur excluded = cur.merge excluded := by
  unfold onConflict Candle.merge Ohlc.merge
  rw [max_comm, min_comm, max_comm excluded.out.high, min_comm excluded.out.low]

/-- A row, and the candles that come. -/
def foldOnto (row : Option Candle) (cs : List Candle) : Option Candle :=
  foldCandles (row.toList ++ cs)

theorem lookup_upsert {t t' : CandleTable} {e : CandleRow} (done : upsert t e = some t')
    (key : CandleKey) :
    t'.lookup key = foldOnto (t.lookup key) (if e.key = key then [e.candle] else []) := by
  obtain ⟨_, -, rfl⟩ := Option.map_eq_some_iff.mp done
  by_cases own : e.key = key
  · subst own
    rw [AList.lookup_insert, if_pos rfl]
    cases t.lookup e.key with
    | none => rfl
    | some cur => exact congrArg some (onConflict_eq_merge cur e.candle)
  · rw [AList.lookup_insert_ne (Ne.symm own), if_neg own]
    cases t.lookup key <;> rfl

theorem foldOnto_foldOnto (row : Option Candle) (cs ds : List Candle) :
    foldOnto (foldOnto row cs) ds = foldOnto row (cs ++ ds) := by
  unfold foldOnto
  rw [← List.append_assoc]
  cases row.toList ++ cs with
  | nil => rfl
  | cons c rest => exact congrArg some List.foldl_append.symm

theorem lookup_processBatch {es : List CandleRow} {t t' : CandleTable}
    (done : processBatch t es = some t') (key : CandleKey) :
    t'.lookup key =
      foldOnto (t.lookup key) ((es.filter (·.key = key)).map CandleRow.candle) := by
  induction es generalizing t with
  | nil =>
      cases done
      cases t'.lookup key <;> rfl
  | cons e es ih =>
      obtain ⟨middle, first, rest⟩ := Option.bind_eq_some_iff.mp done
      rw [ih rest, lookup_upsert first, foldOnto_foldOnto]
      by_cases own : e.key = key
      · simp [own]
      · simp [own]

theorem lookup_commitAll {stream : Nat → CandleRow} {batches : List (List Nat)} {t t' : CandleTable}
    (done : commitAll stream t batches = some t') (key : CandleKey) :
    t'.lookup key = foldOnto (t.lookup key) (candlesOf stream batches.flatten key) := by
  induction batches generalizing t with
  | nil =>
      cases done
      cases t'.lookup key <;> rfl
  | cons batch batches ih =>
      obtain ⟨middle, first, rest⟩ := Option.bind_eq_some_iff.mp done
      have own : ((batch.map stream).filter (·.key = key)).map CandleRow.candle =
          candlesOf stream batch key := by
        unfold candlesOf
        rw [List.filter_map, List.map_map]
        rfl
      rw [ih rest, lookup_processBatch first, own, foldOnto_foldOnto]
      congr 1
      unfold candlesOf
      rw [List.flatten_cons, List.filter_append, List.map_append]

/-! ## Which repetitions show -/

theorem foldl_max_le_iff {l : List ℚ} {x bound : ℚ} :
    l.foldl max x ≤ bound ↔ x ≤ bound ∧ ∀ y ∈ l, y ≤ bound := by
  induction l generalizing x with
  | nil => simp
  | cons y l ih => rw [List.foldl_cons, ih, max_le_iff, List.forall_mem_cons, and_assoc]

theorem le_foldl_min_iff {l : List ℚ} {x bound : ℚ} :
    bound ≤ l.foldl min x ↔ bound ≤ x ∧ ∀ y ∈ l, bound ≤ y := by
  induction l generalizing x with
  | nil => simp
  | cons y l ih => rw [List.foldl_cons, ih, le_min_iff, List.forall_mem_cons, and_assoc]

/-- The fold depends on the first and the last candle, the samples, and which candles there are. -/
theorem foldCandles_eq_iff {cs ds : List Candle} (first : cs.head? = ds.head?)
    (members : ∀ c, c ∈ cs ↔ c ∈ ds) :
    foldCandles cs = foldCandles ds ↔
      (cs.map Candle.samples).sum = (ds.map Candle.samples).sum ∧ lastCloses cs = lastCloses ds := by
  cases cs with
  | nil =>
      cases ds with
      | nil => simp
      | cons d ds => cases first
  | cons c cs =>
      cases ds with
      | nil => cases first
      | cons d ds =>
          cases first
          have highs : ∀ read : Candle → ℚ, (cs.map read).foldl max (read c) =
              (ds.map read).foldl max (read c) := by
            intro read
            have bounded : ∀ cs' : List Candle, ∀ bound, (cs'.map read).foldl max (read c) ≤ bound ↔
                ∀ c' ∈ c :: cs', read c' ≤ bound := by
              intro cs' bound
              rw [foldl_max_le_iff, List.forall_mem_map, List.forall_mem_cons]
            refine eq_of_forall_ge_iff fun bound => ?_
            rw [bounded, bounded]
            simp only [members]
          have lows : ∀ read : Candle → ℚ, (cs.map read).foldl min (read c) =
              (ds.map read).foldl min (read c) := by
            intro read
            have bounded : ∀ cs' : List Candle, ∀ bound, bound ≤ (cs'.map read).foldl min (read c) ↔
                ∀ c' ∈ c :: cs', bound ≤ read c' := by
              intro cs' bound
              rw [le_foldl_min_iff, List.forall_mem_map, List.forall_mem_cons]
            refine eq_of_forall_le_iff fun bound => ?_
            rw [bounded, bounded]
            simp only [members]
          have closes : ∀ cs' : List Candle, lastCloses (c :: cs') =
              some (((cs'.map Candle.in_).getLast?.getD c.in_).close,
                ((cs'.map Candle.out).getLast?.getD c.out).close) := by
            intro cs'
            unfold lastCloses
            rw [List.getLast?_cons, List.getLast?_map, List.getLast?_map]
            cases cs'.getLast? <;> rfl
          unfold foldCandles
          have parts : ∀ a b : Candle, a = b ↔ a.in_ = b.in_ ∧ a.out = b.out ∧ a.samples = b.samples :=
            fun a b => ⟨fun same => same ▸ ⟨rfl, rfl, rfl⟩, fun same => by
              cases a
              cases b
              simpa using same⟩
          rw [Option.some_inj, closes cs, closes ds, Option.some_inj, parts, in_foldl, in_foldl,
            out_foldl, out_foldl, samples_foldl, samples_foldl, merge_foldl, merge_foldl, merge_foldl,
            merge_foldl]
          have inHigh := highs (Ohlc.high ∘ Candle.in_)
          have inLow := lows (Ohlc.low ∘ Candle.in_)
          have outHigh := highs (Ohlc.high ∘ Candle.out)
          have outLow := lows (Ohlc.low ∘ Candle.out)
          simp only [Function.comp_apply] at inHigh inLow outHigh outLow
          simp only [List.map_map, Ohlc.mk.injEq, Prod.mk.injEq, List.map_cons, List.sum_cons,
            inHigh, inLow, outHigh, outLow, true_and]
          rw [← and_assoc, and_comm]

/-- Redelivery does not show in the rows if and only if it is harmless. -/
theorem ingestedOnce_iff {stream : Nat → CandleRow} {batches : List (List Nat)} {t : CandleTable}
    (committed : commitAll stream ∅ batches = some t) :
    IngestedOnce stream batches.flatten t ↔ Harmless stream batches.flatten := by
  refine forall_congr' fun key => ?_
  have row : t.lookup key = foldCandles (candlesOf stream batches.flatten key) :=
    lookup_commitAll committed key
  generalize batches.flatten = ids at row ⊢
  have first : (candlesOf stream ids key).head? =
      (candlesOf stream (Delivery.firsts [] ids) key).head? := by
    unfold candlesOf
    rw [List.head?_map, List.head?_map,
      Delivery.head?_filter_firsts fun id seen => by cases seen]
  have members : ∀ c, c ∈ candlesOf stream ids key ↔
      c ∈ candlesOf stream (Delivery.firsts [] ids) key := by
    intro c
    unfold candlesOf
    simp [Delivery.mem_firsts]
  have samples : ((candlesOf stream ids key).map Candle.samples).sum =
      ((candlesOf stream (Delivery.firsts [] ids) key).map Candle.samples).sum +
        ((candlesOf stream (Delivery.repeats [] ids) key).map Candle.samples).sum := by
    unfold candlesOf
    rw [List.map_map, List.map_map, List.map_map]
    exact Delivery.sum_filter _ _ [] ids
  rw [row, foldCandles_eq_iff first members, samples, add_eq_left]

/-! ## Entries that come again -/

def btcRow (x : ℚ) (samples : ℤ) : CandleRow :=
  ⟨⟨"binance", "bybit", "BTC"⟩, 1700000000, ⟨⟨x, x, x, x⟩, ⟨x, x, x, x⟩, samples⟩⟩

/-- Two flushes of one bucket. -/
def twoFlushes (id : Nat) : CandleRow :=
  if id = 0 then btcRow 1 20 else btcRow 2 5

/-- The row after the batches, and the fold of its entries, each taken once. -/
def rowAfter (batches : List (List Nat)) : Option (Option Candle × Option Candle) :=
  (commitAll twoFlushes ∅ batches).map fun t =>
    (t.lookup (btcRow 1 20).key,
      foldCandles (candlesOf twoFlushes (Delivery.firsts [] batches.flatten) (btcRow 1 20).key))

theorem ingestedOnce_iff_repeated : ∃ t, commitAll twoFlushes ∅ [[0], [0]] = some t ∧
    (IngestedOnce twoFlushes [[0], [0]].flatten t ↔ Harmless twoFlushes [[0], [0]].flatten) := by
  have enabled : (commitAll twoFlushes ∅ [[0], [0]]).isSome := by decide +kernel
  obtain ⟨t, committed⟩ := Option.isSome_iff_exists.mp enabled
  exact ⟨t, committed, ingestedOnce_iff committed⟩

theorem not_ingestedOnce {batches : List (List Nat)} {row once : Option Candle}
    (after : rowAfter batches = some (row, once)) (unlike : row ≠ once) : ¬AlwaysIngestedOnce := by
  intro always
  obtain ⟨t, committed, read⟩ := Option.map_eq_some_iff.mp after
  cases read
  exact unlike (always twoFlushes batches t committed (btcRow 1 20).key)

theorem alwaysIngestedOnce_broken :
    (¬AlwaysIngestedOnce) ∧
      rowAfter [[0], [0]] = some (some (btcRow 1 40).candle, some (btcRow 1 20).candle) ∧
      rowAfter [[0, 1], [0]] =
        some (some ⟨⟨1, 2, 1, 1⟩, ⟨1, 2, 1, 1⟩, 45⟩, some ⟨⟨1, 2, 1, 2⟩, ⟨1, 2, 1, 2⟩, 25⟩) := by
  have again : rowAfter [[0], [0]] =
      some (some (btcRow 1 40).candle, some (btcRow 1 20).candle) := by decide +kernel
  exact ⟨not_ingestedOnce again (by decide +kernel), again, by decide +kernel⟩

end Spread

end Avalant
