import Avalant.Lib.Rounding
import Avalant.Lib.Run
import Avalant.Spread.Ingest
import Mathlib.Order.Lattice

/-!
The recorder of spread candles, up to the rows that its entries are merged into.

A bucket is drained once its window has closed. An observation of that window that comes later opens
another bucket, so a window may reach the table in fragments. A bucket is the fold of the candles of
its single observations, and rounding keeps folds, so the fragments of a window fold to the row of
the whole.

Percentages are exact, and in the range in which they convert to integers.
-/

namespace Avalant

namespace Spread

open Transition

/-! ## Buckets -/

/-- The arguments of `RecordOpp`, with the time in Unix seconds. -/
structure Observation where
  pair : SpreadPair
  inPct : ℚ
  outPct : ℚ
  now : Nat
  deriving DecidableEq

def bucketSec : Nat := 5

/-- The beginning of the window of a time. -/
def window (now : Nat) : Nat := now / bucketSec * bucketSec

/-- `exL|exS|sym|bucketTs`. -/
def mapKey (pair : SpreadPair) (bucketTs : Nat) : String :=
  pair.exchangeLong ++ "|" ++ pair.exchangeShort ++ "|" ++ pair.symbol ++ "|" ++ toString bucketTs

def CandleRow.mapKey (b : CandleRow) : String := Spread.mapKey b.pair b.bucketTs

def Observation.mapKey (o : Observation) : String := Spread.mapKey o.pair (window o.now)

/-- A required field is missing. -/
def SpreadPair.incomplete (pair : SpreadPair) : Bool :=
  pair.exchangeLong = "" ∨ pair.exchangeShort = "" ∨ pair.symbol = ""

def Observation.incomplete (o : Observation) : Bool := o.pair.incomplete

/-- A bucket of one observation. -/
def Observation.newBucket (o : Observation) : CandleRow where
  pair := o.pair
  bucketTs := window o.now
  candle := ⟨⟨o.inPct, o.inPct, o.inPct, o.inPct⟩, ⟨o.outPct, o.outPct, o.outPct, o.outPct⟩, 1⟩

def Ohlc.observe (b : Ohlc) (pct : ℚ) : Ohlc :=
  { b with
    high := if b.high < pct then pct else b.high
    low := if pct < b.low then pct else b.low
    close := pct }

/-- An observation in an existing bucket. -/
def CandleRow.observe (b : CandleRow) (o : Observation) : CandleRow :=
  { b with candle :=
      { in_ := b.candle.in_.observe o.inPct
        out := b.candle.out.observe o.outPct
        samples := b.candle.samples + 1 } }

abbrev Buckets := AList fun _ : String => CandleRow

/-- `RecordOpp`. -/
def recordOpp (buckets : Buckets) (o : Observation) : Buckets :=
  if o.incomplete then buckets
  else
    match buckets.lookup o.mapKey with
    | none => buckets.insert o.mapKey o.newBucket
    | some b => buckets.insert o.mapKey (b.observe o)

/-! ## Flushes -/

def sign05 (v : ℚ) : ℚ := if v < 0 then -1 / 2 else 1 / 2

/-- `round4` of the recorder. -/
def round4 (v : ℚ) : ℚ := Python.trunc (v * 10000 + sign05 v) / 10000

def Ohlc.round4 (o : Ohlc) : Ohlc :=
  ⟨Spread.round4 o.open_, Spread.round4 o.high, Spread.round4 o.low, Spread.round4 o.close⟩

def Candle.round4 (c : Candle) : Candle := ⟨c.in_.round4, c.out.round4, c.samples⟩

/-- The entry that is published of a bucket. -/
def CandleRow.entry (b : CandleRow) : CandleRow := { b with candle := b.candle.round4 }

/-- The buckets whose window has closed. -/
def completed (buckets : Buckets) (currentBucket : Nat) : List CandleRow :=
  (buckets.entries.filter fun e => e.2.bucketTs < currentBucket).map Sigma.snd

/-- The buckets that a flush leaves. -/
def remaining (buckets : Buckets) (currentBucket : Nat) : Buckets where
  entries := buckets.entries.filter fun e => ¬e.2.bucketTs < currentBucket
  nodupKeys := buckets.nodupKeys.sublist List.filter_sublist

structure Recorder where
  buckets : Buckets := ∅
  /-- The stream in Redis. -/
  stream : List CandleRow := []

inductive RecorderAct where
  | record (o : Observation)
  /-- A flush at a time. The map gives the completed buckets in any order, and the rest of them is
  dropped at the first `XADD` that fails. -/
  | flush (now : Nat) (order : List CandleRow) (published : Nat)

def Recorder.step (r : Recorder) : RecorderAct → Option Recorder
  | .record o => some { r with buckets := recordOpp r.buckets o }
  | .flush now order published =>
      if order.Perm (completed r.buckets (window now)) then
        some { buckets := remaining r.buckets (window now)
               stream := r.stream ++ (order.take published).map CandleRow.entry }
      else none

/-! ## Buckets as folds -/

def Observation.candle (o : Observation) : Candle := o.newBucket.candle

/-- The bucket of some observations in their order. -/
def bucketOf : List Observation → Option CandleRow
  | [] => none
  | o :: os => some (os.foldl CandleRow.observe o.newBucket)

theorem Ohlc.observe_eq_merge (b : Ohlc) (pct : ℚ) :
    b.observe pct = b.merge ⟨pct, pct, pct, pct⟩ := by
  unfold Ohlc.observe Ohlc.merge
  congr 1
  · rw [max_def]
    split_ifs <;> linarith
  · rw [min_def]
    split_ifs <;> linarith

theorem CandleRow.candle_observe (b : CandleRow) (o : Observation) :
    (b.observe o).candle = b.candle.merge o.candle := by
  unfold CandleRow.observe
  rw [Ohlc.observe_eq_merge, Ohlc.observe_eq_merge]
  rfl

theorem foldl_observe (os : List Observation) (b : CandleRow) :
    os.foldl CandleRow.observe b =
      ⟨b.pair, b.bucketTs, (os.map Observation.candle).foldl Candle.merge b.candle⟩ := by
  induction os generalizing b with
  | nil => rfl
  | cons o os ih =>
      rw [List.foldl_cons, ih, CandleRow.candle_observe]
      rfl

theorem bucketOf_concat (os : List Observation) (o : Observation) :
    bucketOf (os ++ [o]) =
      some (match bucketOf os with | none => o.newBucket | some b => b.observe o) := by
  cases os with
  | nil => rfl
  | cons first os => exact congrArg some List.foldl_append

/-! ## Where the observations of a key are -/

/-- Each bucket is under its key. -/
def UnderKeys (buckets : Buckets) : Prop :=
  ∀ k b, buckets.lookup k = some b → b.mapKey = k

variable {buckets : Buckets} {k : String}

theorem lookup_recordOpp (buckets : Buckets) (o : Observation) (k : String) :
    (recordOpp buckets o).lookup k =
      if o.incomplete = false ∧ o.mapKey = k then
        some (match buckets.lookup k with | none => o.newBucket | some b => b.observe o)
      else buckets.lookup k := by
  unfold recordOpp
  cases o.incomplete with
  | true => simp
  | false =>
      by_cases own : o.mapKey = k
      · subst own
        cases buckets.lookup o.mapKey <;> simp
      · cases buckets.lookup o.mapKey <;> simp [own, AList.lookup_insert_ne (Ne.symm own)]

theorem UnderKeys.recordOpp (keyed : UnderKeys buckets) (o : Observation) :
    UnderKeys (recordOpp buckets o) := by
  intro k b found
  rw [lookup_recordOpp] at found
  split at found
  case isTrue own =>
    rw [← own.2]
    cases before : buckets.lookup k with
    | none =>
        rw [before] at found
        cases found
        rfl
    | some b' =>
        rw [before] at found
        cases found
        exact (keyed k b' before).trans own.2.symm
  case isFalse => exact keyed k b found

theorem lookup_remaining (buckets : Buckets) (currentBucket : Nat) (k : String) :
    (remaining buckets currentBucket).lookup k =
      (buckets.lookup k).filter fun b => ¬b.bucketTs < currentBucket := by
  ext b
  rw [← Option.mem_def, ← Option.mem_def, AList.mem_lookup_iff, Option.mem_filter_iff,
    AList.mem_lookup_iff]
  exact List.mem_filter

theorem UnderKeys.remaining (keyed : UnderKeys buckets) (currentBucket : Nat) :
    UnderKeys (remaining buckets currentBucket) := by
  intro k b found
  rw [lookup_remaining] at found
  exact keyed k b (Option.mem_filter_iff.mp found).1

theorem mapKey_completed (keyed : UnderKeys buckets) (currentBucket : Nat) :
    (completed buckets currentBucket).map CandleRow.mapKey =
      (buckets.entries.filter fun e => e.2.bucketTs < currentBucket).map Sigma.fst := by
  unfold completed
  rw [List.map_map]
  refine List.map_congr_left fun e member => ?_
  exact keyed e.1 e.2 (AList.mem_lookup_iff.mpr (List.mem_of_mem_filter member))

/-- Of each key, at most its own bucket is drained. -/
theorem completed_filter (keyed : UnderKeys buckets) (currentBucket : Nat) (k : String) :
    ((completed buckets currentBucket).filter fun b => b.mapKey = k).Perm
      ((buckets.lookup k).filter fun b => b.bucketTs < currentBucket).toList := by
  have distinct : (completed buckets currentBucket).Nodup := by
    refine List.Nodup.of_map CandleRow.mapKey ?_
    rw [mapKey_completed keyed]
    exact List.NodupKeys.sublist List.filter_sublist buckets.nodupKeys
  have single : ((buckets.lookup k).filter fun b => b.bucketTs < currentBucket).toList.Nodup := by
    cases (buckets.lookup k).filter fun b => b.bucketTs < currentBucket <;> simp
  refine (List.perm_ext_iff_of_nodup (distinct.filter _) single).mpr fun b => ?_
  rw [List.mem_filter, Option.mem_toList, ← Option.mem_def, Option.mem_filter_iff,
    AList.mem_lookup_iff]
  unfold completed
  constructor
  · rintro ⟨drained, own⟩
    obtain ⟨e, member, rfl⟩ := List.mem_map.mp drained
    obtain ⟨stored, closed⟩ := List.mem_filter.mp member
    have under : e.2.mapKey = e.1 := keyed e.1 e.2 (AList.mem_lookup_iff.mpr stored)
    have same : e.1 = k := under.symm.trans (of_decide_eq_true own)
    exact ⟨same ▸ stored, closed⟩
  · rintro ⟨stored, closed⟩
    have under : b.mapKey = k := keyed k b (AList.mem_lookup_iff.mpr stored)
    exact ⟨List.mem_map.mpr ⟨⟨k, b⟩, List.mem_filter.mpr ⟨stored, closed⟩, rfl⟩, decide_eq_true under⟩

/-- The observations that are recorded under a key, in their order. -/
def observed (k : String) (acts : List RecorderAct) : List Observation :=
  acts.filterMap fun
    | .record o => if o.incomplete = false ∧ o.mapKey = k then some o else none
    | .flush .. => none

/-- The entries of some fragments. -/
def entriesOf (fragments : List (List Observation)) : List CandleRow :=
  fragments.filterMap fun f => (bucketOf f).map CandleRow.entry

/-- The observations of a key are cut into consecutive fragments, from each of which at most one
entry was published, and the ones that are in the bucket. -/
def Partitioned (k : String) (os : List Observation) (r : Recorder) : Prop :=
  ∃ fragments pending, os = fragments.flatten ++ pending ∧ (∀ f ∈ fragments, f ≠ []) ∧
    (r.stream.filter fun e => e.mapKey = k).Sublist (entriesOf fragments) ∧
    r.buckets.lookup k = bucketOf pending

theorem Partitioned.record {os : List Observation} {r : Recorder} (parted : Partitioned k os r)
    (o : Observation) :
    Partitioned k (os ++ if o.incomplete = false ∧ o.mapKey = k then [o] else [])
      { r with buckets := recordOpp r.buckets o } := by
  obtain ⟨fragments, pending, cut, nonempty, published, bucket⟩ := parted
  split
  case isTrue own =>
    refine ⟨fragments, pending ++ [o], by rw [cut, List.append_assoc], nonempty, published, ?_⟩
    rw [lookup_recordOpp, if_pos own, bucket, bucketOf_concat]
  case isFalse other =>
    refine ⟨fragments, pending, by rw [cut, List.append_nil], nonempty, published, ?_⟩
    rw [lookup_recordOpp, if_neg other, bucket]

theorem Partitioned.flush {os : List Observation} {r : Recorder} (parted : Partitioned k os r)
    (keyed : UnderKeys r.buckets) {currentBucket : Nat} {order : List CandleRow}
    (perm : order.Perm (completed r.buckets currentBucket)) (published : Nat) :
    Partitioned k os
      { buckets := remaining r.buckets currentBucket
        stream := r.stream ++ (order.take published).map CandleRow.entry } := by
  obtain ⟨fragments, pending, cut, nonempty, earlier, bucket⟩ := parted
  have own : (order.filter fun b => b.mapKey = k).Perm
      ((r.buckets.lookup k).filter fun b => b.bucketTs < currentBucket).toList :=
    (perm.filter _).trans (completed_filter keyed currentBucket k)
  have added : (((order.take published).map CandleRow.entry).filter fun e => e.mapKey = k).Sublist
      ((order.filter fun b => b.mapKey = k).map CandleRow.entry) := by
    rw [List.filter_map]
    exact ((List.take_sublist published order).filter _).map _
  cases found : bucketOf pending with
  | none =>
      rw [bucket, found] at own
      have absent : order.filter (fun b => b.mapKey = k) = [] := own.eq_nil
      rw [absent, List.map_nil, List.sublist_nil] at added
      refine ⟨fragments, pending, cut, nonempty, ?_, ?_⟩
      · rw [List.filter_append, added, List.append_nil]
        exact earlier
      · rw [lookup_remaining, bucket, found]
        rfl
  | some b =>
      rw [bucket, found] at own
      by_cases closed : b.bucketTs < currentBucket
      · rw [Option.filter_some_pos (by simpa using closed)] at own
        rw [List.perm_singleton.mp own] at added
        have some_obs : pending ≠ [] := by
          rintro rfl
          cases found
        refine ⟨fragments ++ [pending], [], ?_, ?_, ?_, ?_⟩
        · rw [cut, List.flatten_append, List.flatten_singleton, List.append_nil]
        · intro f member
          rcases List.mem_append.mp member with before | last
          · exact nonempty f before
          · rw [List.mem_singleton.mp last]
            exact some_obs
        · have last : entriesOf (fragments ++ [pending]) = entriesOf fragments ++ [b.entry] := by
            simp [entriesOf, found]
          rw [List.filter_append, last]
          exact earlier.append added
        · rw [lookup_remaining, bucket, found, Option.filter_some_neg (by simpa using closed)]
          rfl
      · rw [Option.filter_some_neg (by simpa using closed)] at own
        have absent : order.filter (fun b => b.mapKey = k) = [] := own.eq_nil
        rw [absent, List.map_nil, List.sublist_nil] at added
        refine ⟨fragments, pending, cut, nonempty, ?_, ?_⟩
        · rw [List.filter_append, added, List.append_nil]
          exact earlier
        · rw [lookup_remaining, bucket, found, Option.filter_some_pos (by simpa using closed)]

/-- In a run of any observations and flushes, no observation is in two entries. -/
theorem partitioned_of_exec {acts : List RecorderAct} {r₀ r : Recorder} {os : List Observation}
    (run : exec Recorder.step r₀ acts = some r) (keyed : UnderKeys r₀.buckets)
    (parted : Partitioned k os r₀) : Partitioned k (os ++ observed k acts) r := by
  induction acts generalizing r₀ os with
  | nil =>
      cases run
      rwa [observed, List.filterMap_nil, List.append_nil]
  | cons act acts ih =>
      obtain ⟨middle, stepped, rest⟩ := Option.bind_eq_some_iff.mp run
      cases act with
      | record o =>
          cases stepped
          have later := ih rest (keyed.recordOpp o) (parted.record o)
          have first : observed k (.record o :: acts) =
              (if o.incomplete = false ∧ o.mapKey = k then [o] else []) ++ observed k acts := by
            unfold observed
            by_cases own : o.incomplete = false ∧ o.mapKey = k
            · simp [own]
            · simp [own]
          rwa [first, ← List.append_assoc]
      | flush now order published =>
          unfold Recorder.step at stepped
          dsimp only at stepped
          split at stepped
          case isTrue perm =>
            cases stepped
            exact ih rest (keyed.remaining _) (parted.flush keyed perm published)
          case isFalse => cases stepped

/-! ## Folds of folds -/

theorem round4_mono : Monotone round4 := by
  intro x y le
  have scaled : x * 10000 ≤ y * 10000 := by linarith
  have sign : ∀ v : ℚ, sign05 v = if v * 10000 < 0 then -1 / 2 else 1 / 2 := by
    intro v
    unfold sign05
    congr 1
    exact propext ⟨fun neg => by linarith, fun neg => by linarith⟩
  unfold round4
  rw [sign x, sign y, Python.trunc_add_half, Python.trunc_add_half]
  have rounded : (Python.roundHalfUp (x * 10000) : ℚ) ≤ Python.roundHalfUp (y * 10000) := by
    exact_mod_cast Python.roundHalfUp_mono scaled
  linarith

theorem Ohlc.round4_merge (a b : Ohlc) : (a.merge b).round4 = a.round4.merge b.round4 := by
  unfold Ohlc.round4 Ohlc.merge
  rw [round4_mono.map_max, round4_mono.map_min]

theorem Candle.round4_merge (a b : Candle) : (a.merge b).round4 = a.round4.merge b.round4 := by
  unfold Candle.round4 Candle.merge
  rw [Ohlc.round4_merge, Ohlc.round4_merge]

theorem Ohlc.merge_assoc (a b c : Ohlc) : (a.merge b).merge c = a.merge (b.merge c) := by
  unfold Ohlc.merge
  rw [max_assoc, min_assoc]

theorem Candle.merge_assoc (a b c : Candle) : (a.merge b).merge c = a.merge (b.merge c) := by
  unfold Candle.merge
  rw [Ohlc.merge_assoc, Ohlc.merge_assoc, add_assoc]

theorem foldl_merge_merge (cs : List Candle) (a c : Candle) :
    cs.foldl Candle.merge (a.merge c) = a.merge (cs.foldl Candle.merge c) := by
  induction cs generalizing c with
  | nil => rfl
  | cons d cs ih =>
      rw [List.foldl_cons, Candle.merge_assoc, ih]
      rfl

theorem foldCandles_map_round4 (cs : List Candle) :
    foldCandles (cs.map Candle.round4) = (foldCandles cs).map Candle.round4 := by
  cases cs with
  | nil => rfl
  | cons c cs =>
      refine congrArg some ?_
      induction cs generalizing c with
      | nil => rfl
      | cons d cs ih =>
          rw [List.map_cons, List.foldl_cons, ← Candle.round4_merge]
          exact ih (c.merge d)

/-- A fold that comes onto a row is its candles that come onto it. -/
theorem foldOnto_fold (row : Option Candle) (cs : List Candle) :
    foldOnto row (foldCandles cs).toList = foldOnto row cs := by
  cases cs with
  | nil => rfl
  | cons c cs =>
      cases row with
      | none => rfl
      | some r => exact congrArg some (foldl_merge_merge cs r c).symm

theorem foldOnto_folds (row : Option Candle) (parts : List (List Candle)) :
    foldOnto row (parts.filterMap foldCandles) = foldOnto row parts.flatten := by
  induction parts generalizing row with
  | nil => rfl
  | cons cs parts ih =>
      rw [List.flatten_cons, ← foldOnto_foldOnto, ← foldOnto_fold row cs, ← ih, foldOnto_foldOnto]
      congr 1
      cases found : foldCandles cs with
      | none => simp [found]
      | some c => simp [found]

/-- The candles of a window fold to the same, whatever its fragments. -/
theorem foldCandles_entriesOf (fragments : List (List Observation)) :
    foldCandles ((entriesOf fragments).map CandleRow.candle) =
      foldCandles (fragments.flatten.map fun o => o.candle.round4) := by
  have candles : (entriesOf fragments).map CandleRow.candle =
      (fragments.map fun f => f.map fun o => o.candle.round4).filterMap foldCandles := by
    unfold entriesOf
    rw [List.map_filterMap, List.filterMap_map]
    refine List.filterMap_congr fun f _ => ?_
    have rounded := foldCandles_map_round4 (f.map Observation.candle)
    rw [List.map_map] at rounded
    rw [Function.comp_apply]
    change _ = foldCandles (f.map (Candle.round4 ∘ Observation.candle))
    rw [rounded]
    cases f with
    | nil => rfl
    | cons o os =>
        change some _ = some _
        rw [foldl_observe]
        rfl
  have folded := foldOnto_folds none (fragments.map fun f => f.map fun o => o.candle.round4)
  rw [candles]
  rw [List.map_flatten]
  exact folded

/-! ## The upserts of one key -/

/-- What a row becomes. -/
def landing (t : CandleTable) (e : CandleRow) : Candle :=
  match t.lookup e.key with
  | none => e.candle
  | some cur => onConflict cur e.candle

/-- The samples of a row are not below the range of their column. -/
def SamplesInRange (t : CandleTable) (key : CandleKey) : Prop :=
  ∀ cur ∈ t.lookup key, -32768 ≤ cur.samples

theorem le_samples_landing {t : CandleTable} {e : CandleRow} (inRange : SamplesInRange t e.key)
    (nonneg : 0 ≤ e.candle.samples) : -32768 ≤ (landing t e).samples := by
  unfold landing
  cases found : t.lookup e.key with
  | none =>
      dsimp only
      omega
  | some cur =>
      have low := inRange cur found
      change -32768 ≤ cur.samples + e.candle.samples
      omega

/-- Two entries of a key, or one that merges them: with more samples, one of the upserts fails if
the other does. -/
theorem upsert_upsert {t : CandleTable} {e e' : CandleRow} (same : e'.key = e.key)
    (inRange : SamplesInRange t e.key) (nonneg : 0 ≤ e.candle.samples)
    (nonneg' : 0 ≤ e'.candle.samples) :
    ((upsert t e).bind fun t => upsert t e') =
      upsert t { e with candle := e.candle.merge e'.candle } := by
  have merged : landing t { e with candle := e.candle.merge e'.candle } =
      (landing t e).merge e'.candle := by
    unfold landing
    change (match t.lookup e.key with | none => _ | some cur => _) = _
    cases t.lookup e.key with
    | none => rfl
    | some cur =>
        dsimp only
        rw [onConflict_eq_merge, onConflict_eq_merge, Candle.merge_assoc]
  have second : ∀ c, landing (t.insert e.key c) e' = c.merge e'.candle := by
    intro c
    unfold landing
    rw [same, AList.lookup_insert]
    exact onConflict_eq_merge c e'.candle
  have low := le_samples_landing inRange nonneg
  have total : ((landing t e).merge e'.candle).samples =
      (landing t e).samples + e'.candle.samples := rfl
  change ((smallint (landing t e).samples).map fun _ => t.insert e.key (landing t e)).bind
      (fun t => (smallint (landing t e').samples).map fun _ => t.insert e'.key (landing t e')) =
    (smallint (landing t { e with candle := e.candle.merge e'.candle }).samples).map
      fun _ => t.insert e.key (landing t { e with candle := e.candle.merge e'.candle })
  rw [merged]
  by_cases fits : (landing t e).samples ≤ 32767
  · have first : smallint (landing t e).samples = some (landing t e).samples := if_pos ⟨low, fits⟩
    rw [first, Option.map_some, Option.bind_some, second, same]
    congr 1
    funext _
    exact AList.insert_insert t
  · have first : smallint (landing t e).samples = none := if_neg fun range => fits range.2
    have whole : smallint ((landing t e).merge e'.candle).samples = none :=
      if_neg fun range => fits (by omega)
    rw [first, whole]
    rfl

/-- The upserts of entries of one key are one upsert of their fold. -/
theorem processBatch_of_key {t : CandleTable} {pair : SpreadPair} {ts : Nat} {es : List CandleRow}
    (keys : ∀ e ∈ es, e.pair = pair ∧ e.bucketTs = ts ∧ 0 ≤ e.candle.samples)
    (inRange : SamplesInRange t (pair, ts)) :
    processBatch t es =
      (foldCandles (es.map CandleRow.candle)).elim (some t) fun c => upsert t ⟨pair, ts, c⟩ := by
  cases es with
  | nil => rfl
  | cons e es =>
      induction es generalizing e with
      | nil =>
          obtain ⟨rfl, rfl, -⟩ := keys e List.mem_cons_self
          exact Option.bind_fun_some _
      | cons e' es ih =>
          obtain ⟨rfl, rfl, nonneg⟩ := keys e List.mem_cons_self
          obtain ⟨pair', ts', nonneg'⟩ := keys e' (by simp)
          have same : e'.key = e.key := Prod.ext pair' ts'
          have two : processBatch t (e :: e' :: es) =
              processBatch t ({ e with candle := e.candle.merge e'.candle } :: es) := by
            unfold processBatch
            rw [← upsert_upsert same inRange nonneg nonneg', Option.bind_assoc]
            rfl
          rw [two, ih]
          · rfl
          · intro e'' member
            rcases List.mem_cons.mp member with rfl | later
            · exact ⟨rfl, rfl, add_nonneg nonneg nonneg'⟩
            · exact keys e'' (by simp [later])

/-! ## Fragments -/

/-- A flush without failures, in the order of the map. -/
def Recorder.flushAll (r : Recorder) (now : Nat) : Recorder where
  buckets := remaining r.buckets (window now)
  stream := r.stream ++ (completed r.buckets (window now)).map CandleRow.entry

/-- Observations, and the time of the flush after them. -/
structure Fragment where
  observations : List Observation
  flushedAt : Nat

/-- The observations of a fragment, and its flush. -/
def Recorder.recordAndFlush (r : Recorder) (f : Fragment) : Recorder :=
  { r with buckets := f.observations.foldl recordOpp r.buckets }.flushAll f.flushedAt

theorem Recorder.exec_records (r : Recorder) (os : List Observation) :
    exec Recorder.step r (os.map .record) =
      some { r with buckets := os.foldl recordOpp r.buckets } := by
  induction os generalizing r with
  | nil => rfl
  | cons o os ih => exact ih { r with buckets := recordOpp r.buckets o }

theorem Recorder.step_flush_all (r : Recorder) (now : Nat) :
    r.step (.flush now (completed r.buckets (window now)) (completed r.buckets (window now)).length) =
      some (r.flushAll now) := by
  unfold Recorder.step Recorder.flushAll
  dsimp only
  rw [if_pos (List.Perm.refl _), List.take_length]

/-- Recording and flushing fragments is a run. -/
theorem Recorder.exec_recordAndFlush (r : Recorder) (fragments : List Fragment) :
    ∃ acts, exec Recorder.step r acts = some (fragments.foldl Recorder.recordAndFlush r) := by
  induction fragments generalizing r with
  | nil => exact ⟨[], rfl⟩
  | cons f fragments ih =>
      obtain ⟨acts, rest⟩ := ih (r.recordAndFlush f)
      let recorded : Recorder := { r with buckets := f.observations.foldl recordOpp r.buckets }
      let drained := completed recorded.buckets (window f.flushedAt)
      have flushed := Recorder.step_flush_all recorded f.flushedAt
      refine ⟨f.observations.map .record ++ .flush f.flushedAt drained drained.length :: acts, ?_⟩
      rw [exec_append, Recorder.exec_records, Option.bind_some, exec, flushed]
      exact rest

/-- First, greatest, least and last of some percentages, as they are published. -/
def sideOf (pct : ℚ) (pcts : List ℚ) : Ohlc :=
  ⟨round4 pct, round4 (pcts.foldl max pct), round4 (pcts.foldl min pct),
    round4 (pcts.getLast?.getD pct)⟩

/-- The candle of some observations, which counts them. -/
def candleOf : List Observation → Option Candle
  | [] => none
  | o :: os =>
      some ⟨sideOf o.inPct (os.map Observation.inPct), sideOf o.outPct (os.map Observation.outPct),
        os.length + 1⟩

theorem foldCandles_eq_candleOf (os : List Observation) :
    foldCandles (os.map fun o => o.candle.round4) = candleOf os := by
  have rounded := foldCandles_map_round4 (os.map Observation.candle)
  rw [List.map_map] at rounded
  refine rounded.trans ?_
  cases os with
  | nil => rfl
  | cons o os =>
      have side (pct : Observation → ℚ) :
          ((os.map fun o => (⟨pct o, pct o, pct o, pct o⟩ : Ohlc)).foldl Ohlc.merge
            ⟨pct o, pct o, pct o, pct o⟩).round4 = sideOf (pct o) (os.map pct) := by
        rw [merge_foldl, List.map_map, List.map_map, List.getLast?_map]
        unfold Ohlc.round4 sideOf
        rw [List.getLast?_map]
        cases os.getLast? <;> rfl
      have counted : (((os.map Observation.candle).foldl Candle.merge o.candle).samples : ℤ) =
          os.length + 1 := by
        have ones : (os.map Observation.candle).map Candle.samples = os.map fun _ => 1 :=
          List.map_map
        rw [samples_foldl, ones]
        simp [Observation.candle, Observation.newBucket, add_comm]
      rw [List.map_cons]
      unfold foldCandles candleOf
      rw [Option.map_some]
      unfold Candle.round4
      rw [counted, in_foldl, out_foldl, List.map_map, List.map_map]
      congr 2
      · exact side Observation.inPct
      · exact side Observation.outPct

section

variable {pair : SpreadPair} {ts later : Nat}

theorem foldl_recordOpp {os : List Observation} {b : CandleRow}
    (own : ∀ o ∈ os, o.incomplete = false ∧ o.mapKey = k) :
    os.foldl recordOpp ((∅ : Buckets).insert k b) =
      (∅ : Buckets).insert k (os.foldl CandleRow.observe b) := by
  induction os generalizing b with
  | nil => rfl
  | cons o os ih =>
      obtain ⟨complete, rfl⟩ := own o List.mem_cons_self
      have first : recordOpp ((∅ : Buckets).insert o.mapKey b) o =
          (∅ : Buckets).insert o.mapKey (b.observe o) := by
        unfold recordOpp
        rw [complete, if_neg (by decide), AList.lookup_insert]
        exact AList.insert_insert ∅
      rw [List.foldl_cons, first, ih fun o' member => own o' (List.mem_cons_of_mem _ member)]
      rfl

theorem foldl_recordOpp_incomplete {os : List Observation}
    (incomplete : ∀ o ∈ os, o.incomplete = true) (buckets : Buckets) :
    os.foldl recordOpp buckets = buckets := by
  induction os generalizing buckets with
  | nil => rfl
  | cons o os ih =>
      have skipped : recordOpp buckets o = buckets := by
        unfold recordOpp
        rw [incomplete o List.mem_cons_self, if_pos rfl]
      rw [List.foldl_cons, skipped]
      exact ih (fun o' member => incomplete o' (List.mem_cons_of_mem _ member)) buckets

theorem recordAndFlush_complete {f : Fragment} (some_obs : f.observations ≠ [])
    (own : ∀ o ∈ f.observations, o.incomplete = false ∧ o.pair = pair ∧ window o.now = ts)
    (closed : ts < window f.flushedAt) (stream : List CandleRow) :
    Recorder.recordAndFlush ⟨∅, stream⟩ f = ⟨∅, stream ++ entriesOf [f.observations]⟩ := by
  obtain ⟨os, later⟩ := f
  dsimp only at some_obs own closed ⊢
  cases os with
  | nil => exact absurd rfl some_obs
  | cons o os =>
      obtain ⟨complete, rfl, rfl⟩ := own o List.mem_cons_self
      have keys : ∀ o' ∈ os, o'.incomplete = false ∧ o'.mapKey = o.mapKey := by
        intro o' member
        obtain ⟨complete', samePair, sameWindow⟩ := own o' (List.mem_cons_of_mem _ member)
        refine ⟨complete', ?_⟩
        unfold Observation.mapKey
        rw [samePair, sameWindow]
      have first : recordOpp ∅ o = (∅ : Buckets).insert o.mapKey o.newBucket := by
        unfold recordOpp
        rw [complete, if_neg (by decide)]
        rfl
      have recorded : (o :: os).foldl recordOpp ∅ =
          (∅ : Buckets).insert o.mapKey (os.foldl CandleRow.observe o.newBucket) := by
        rw [List.foldl_cons, first, foldl_recordOpp keys]
      have ts : (os.foldl CandleRow.observe o.newBucket).bucketTs < window later := by
        rw [foldl_observe]
        exact closed
      have entries : ((∅ : Buckets).insert o.mapKey
          (os.foldl CandleRow.observe o.newBucket)).entries =
            [⟨o.mapKey, os.foldl CandleRow.observe o.newBucket⟩] := rfl
      unfold Recorder.recordAndFlush Recorder.flushAll
      dsimp only
      rw [recorded]
      congr 1
      · unfold remaining
        ext1
        dsimp only
        rw [entries]
        simp [ts]
      · unfold completed
        rw [entries]
        simp [ts, entriesOf, bucketOf]

theorem recordAndFlush_incomplete {f : Fragment}
    (incomplete : ∀ o ∈ f.observations, o.incomplete = true) (stream : List CandleRow) :
    Recorder.recordAndFlush ⟨∅, stream⟩ f = ⟨∅, stream⟩ := by
  unfold Recorder.recordAndFlush
  rw [foldl_recordOpp_incomplete incomplete]
  unfold Recorder.flushAll
  congr 1
  exact List.append_nil _

/-- Non-empty fragments of the observations of a pair in a window, each flushed after it. -/
def FragmentsOf (pair : SpreadPair) (ts : Nat) (fragments : List Fragment) : Prop :=
  ∀ f ∈ fragments, f.observations ≠ [] ∧
    (∀ o ∈ f.observations, o.pair = pair ∧ window o.now = ts) ∧ ts < window f.flushedAt

/-- Flushed one after another, fragments are an entry each. -/
theorem stream_recordAndFlush {fragments : List Fragment} (parts : FragmentsOf pair ts fragments)
    (complete : pair.incomplete = false) (stream : List CandleRow) :
    (fragments.foldl Recorder.recordAndFlush ⟨∅, stream⟩).stream =
      stream ++ entriesOf (fragments.map Fragment.observations) := by
  induction fragments generalizing stream with
  | nil => exact (List.append_nil stream).symm
  | cons f fragments ih =>
      obtain ⟨some_obs, own, closed⟩ := parts f List.mem_cons_self
      have recorded : ∀ o ∈ f.observations,
          o.incomplete = false ∧ o.pair = pair ∧ window o.now = ts := by
        intro o member
        refine ⟨?_, own o member⟩
        unfold Observation.incomplete
        rw [(own o member).1, complete]
      have split : entriesOf ((f :: fragments).map Fragment.observations) =
          entriesOf [f.observations] ++ entriesOf (fragments.map Fragment.observations) :=
        List.filterMap_append (l := [f.observations])
      rw [List.foldl_cons, recordAndFlush_complete some_obs recorded closed,
        ih fun g member => parts g (List.mem_cons_of_mem f member), split, List.append_assoc]

theorem stream_recordAndFlush_incomplete {fragments : List Fragment}
    (parts : FragmentsOf pair ts fragments) (missing : pair.incomplete = true)
    (stream : List CandleRow) :
    (fragments.foldl Recorder.recordAndFlush ⟨∅, stream⟩).stream = stream := by
  induction fragments with
  | nil => rfl
  | cons f fragments ih =>
      have skipped : ∀ o ∈ f.observations, o.incomplete = true := by
        intro o member
        unfold Observation.incomplete
        rw [((parts f List.mem_cons_self).2.1 o member).1, missing]
      rw [List.foldl_cons, recordAndFlush_incomplete skipped]
      exact ih fun g member => parts g (List.mem_cons_of_mem f member)

/-- The whole of some fragments, flushed once. -/
def joined (fragments : List Fragment) (later : Nat) : Fragment :=
  ⟨(fragments.map Fragment.observations).flatten, later⟩

theorem FragmentsOf.joined {fragments : List Fragment} (some_parts : fragments ≠ [])
    (parts : FragmentsOf pair ts fragments) (closed : ts < window later) :
    FragmentsOf pair ts [joined fragments later] := by
  obtain ⟨f, rest, rfl⟩ := List.exists_cons_of_ne_nil some_parts
  intro g member
  rw [List.mem_singleton.mp member]
  refine ⟨?_, fun o recorded => ?_, closed⟩
  · exact List.append_ne_nil_of_left_ne_nil (parts f List.mem_cons_self).1 _
  · obtain ⟨os, part, inside⟩ := List.mem_flatten.mp recorded
    obtain ⟨g, listed, rfl⟩ := List.mem_map.mp part
    exact (parts g listed).2.1 o inside

theorem entriesOf_key {fragments : List Fragment} (parts : FragmentsOf pair ts fragments) :
    ∀ e ∈ entriesOf (fragments.map Fragment.observations),
      e.pair = pair ∧ e.bucketTs = ts ∧ 0 ≤ e.candle.samples := by
  intro e member
  obtain ⟨os, part, read⟩ := List.mem_filterMap.mp member
  obtain ⟨f, listed, rfl⟩ := List.mem_map.mp part
  obtain ⟨some_obs, own, -⟩ := parts f listed
  obtain ⟨o, os, split⟩ := List.exists_cons_of_ne_nil some_obs
  rw [split] at read own
  obtain ⟨samePair, sameWindow⟩ := own o List.mem_cons_self
  obtain ⟨b, fold, rfl⟩ := Option.map_eq_some_iff.mp read
  change some (os.foldl CandleRow.observe o.newBucket) = some b at fold
  rw [foldl_observe] at fold
  cases fold
  refine ⟨samePair, sameWindow, ?_⟩
  change 0 ≤ ((os.map Observation.candle).foldl Candle.merge o.candle).samples
  rw [samples_foldl, List.map_map]
  refine add_nonneg (zero_le_one : (0 : ℤ) ≤ 1) (List.sum_nonneg fun n counted => ?_)
  obtain ⟨o', -, rfl⟩ := List.mem_map.mp counted
  exact zero_le_one

/-- The table after the upserts of fragments: one upsert of the candle of all observations. -/
theorem processBatch_fragments {t : CandleTable} {fragments : List Fragment}
    (parts : FragmentsOf pair ts fragments) (inRange : SamplesInRange t (pair, ts)) :
    processBatch t (fragments.foldl Recorder.recordAndFlush {}).stream =
      if pair.incomplete then some t
      else (candleOf (fragments.map Fragment.observations).flatten).elim (some t) fun c =>
        upsert t ⟨pair, ts, c⟩ := by
  cases complete : pair.incomplete with
  | true =>
      have nothing := stream_recordAndFlush_incomplete parts complete []
      rw [nothing]
      rfl
  | false =>
      have published := stream_recordAndFlush parts complete []
      rw [published, List.nil_append, processBatch_of_key (entriesOf_key parts) inRange,
        foldCandles_entriesOf, foldCandles_eq_candleOf]
      rfl

/-- Fragments of a window, recorded and flushed one after another, make the row of the whole window
recorded as one bucket, with the first, greatest, least and last percentages of the window and the
number of its observations; and in every run each observation is in at most one fragment. -/
theorem fragments_recombine :
    (∀ (t : CandleTable) (pair : SpreadPair) (ts later : Nat) (fragments : List Fragment),
      FragmentsOf pair ts fragments → ts < window later → SamplesInRange t (pair, ts) →
        (∃ acts, exec Recorder.step {} acts = some (fragments.foldl Recorder.recordAndFlush {})) ∧
        processBatch t (fragments.foldl Recorder.recordAndFlush {}).stream =
          processBatch t (Recorder.recordAndFlush {} (joined fragments later)).stream ∧
        processBatch t (fragments.foldl Recorder.recordAndFlush {}).stream =
          if pair.incomplete then some t
          else (candleOf (joined fragments later).observations).elim (some t) fun c =>
            upsert t ⟨pair, ts, c⟩) ∧
    ∀ (acts : List RecorderAct) (r : Recorder), exec Recorder.step {} acts = some r →
      ∀ k, Partitioned k (observed k acts) r := by
  constructor
  · intro t pair ts later fragments parts closed inRange
    have apart := processBatch_fragments parts inRange
    refine ⟨Recorder.exec_recordAndFlush {} fragments, ?_, apart⟩
    by_cases some_parts : fragments = []
    · subst some_parts
      rfl
    have once := processBatch_fragments (parts.joined some_parts closed) inRange
    rw [List.map_singleton, List.flatten_singleton] at once
    exact apart.trans once.symm
  · intro acts r run k
    have keyed : UnderKeys (∅ : Buckets) := by
      intro k b found
      cases found
    exact partitioned_of_exec run keyed ⟨[], [], rfl, by simp, List.Sublist.refl _, rfl⟩

/-- An observation of one pair. -/
def btcAt (now : Nat) (pct : ℚ) : Observation := ⟨⟨"binance", "bybit", "BTC"⟩, pct, -pct, now⟩

/-- Two fragments, the second flushed a window later. -/
def lateOne : List Fragment :=
  [⟨[btcAt 10 (1 / 10), btcAt 12 (3 / 10)], 15⟩, ⟨[btcAt 14 (1 / 5)], 20⟩]

theorem fragments_recombine_late_one :
    processBatch ∅ (lateOne.foldl Recorder.recordAndFlush {}).stream =
        processBatch ∅ (Recorder.recordAndFlush {} (joined lateOne 15)).stream ∧
      processBatch ∅ (lateOne.foldl Recorder.recordAndFlush {}).stream =
        upsert ∅ ⟨⟨"binance", "bybit", "BTC"⟩, 10,
          ⟨⟨1 / 10, 3 / 10, 1 / 10, 1 / 5⟩, ⟨-1 / 10, -1 / 10, -3 / 10, -1 / 5⟩, 3⟩⟩ := by
  have parts : FragmentsOf ⟨"binance", "bybit", "BTC"⟩ 10 lateOne := by
    intro f member
    rcases List.mem_cons.mp member with rfl | last
    · exact ⟨by simp, by decide, by decide⟩
    · rw [List.mem_singleton.mp last]
      exact ⟨by simp, by decide, by decide⟩
  obtain ⟨-, whole, row⟩ := fragments_recombine.1 ∅ _ 10 15 _ parts (by decide) fun cur stored => by
    cases stored
  refine ⟨whole, row.trans ?_⟩
  have candle : candleOf (joined lateOne 15).observations =
      some ⟨⟨1 / 10, 3 / 10, 1 / 10, 1 / 5⟩, ⟨-1 / 10, -1 / 10, -3 / 10, -1 / 5⟩, 3⟩ := by
    decide +kernel
  rw [candle]
  rfl

end

end Spread

end Avalant
