import Avalant.Lib.Run
import Avalant.Spread.Candles
import Mathlib.Data.List.Dedup

/-!
The rollups of the 5 s candles to 1 m candles, and of those to 1 h candles.

A run folds what lies between two bounds that it computes from the time, both inclusive, and
inserts a candle where there is none. A candle that was inserted is not changed any more.
-/

namespace Avalant

namespace Spread

open Transition

/-! ## One rollup -/

/-- `(bucket_ts / width) * width`. -/
def CandleRow.bucket (width : Nat) (r : CandleRow) : Nat :=
  r.bucketTs / width * width

/-- The candles that are stored under a key. -/
def stored (rows : List CandleRow) (pair : SpreadPair) (ts : Nat) : List Candle :=
  (rows.filter fun r => r.pair = pair ∧ r.bucketTs = ts).map CandleRow.candle

/-- The rows of a pair and a bucket. -/
def group (width : Nat) (rows : List CandleRow) (pair : SpreadPair) (ts : Nat) : List CandleRow :=
  rows.filter fun r => r.pair = pair ∧ r.bucket width = ts

/-- The `WHERE` clause of a rollup. -/
def selected (width window now : Nat) (rows : List CandleRow) : List CandleRow :=
  let untilTs : ℤ := now / width * width - width
  let sinceTs := untilTs - window
  rows.filter fun r => (r.bucketTs : ℤ) ≤ untilTs ∧ sinceTs ≤ r.bucketTs

/-- The row of a group. -/
def groupRow (width : Nat) (total : ℤ → ℤ) (rows : List CandleRow) (pair : SpreadPair) (ts : Nat) :
    Option CandleRow :=
  (aggregate (group width rows pair ts)).bind fun c =>
    (smallint (total c.samples)).map fun samples => ⟨pair, ts, { c with samples }⟩

/-- The rows that a rollup inserts; `none` when a sum is out of range, and the query fails. -/
def rollup (width window : Nat) (total : ℤ → ℤ) (now : Nat) (source target : List CandleRow) :
    Option (List CandleRow) :=
  let rows := selected width window now source
  let keys := (rows.map fun r => (r.pair, r.bucket width)).dedup
  if keys.all fun key => (groupRow width total rows key.1 key.2).isSome then
    some ((keys.filter fun key => stored target key.1 key.2 = []).filterMap fun key =>
      groupRow width total rows key.1 key.2)
  else none

/-- `rollup_5s_to_1m`. -/
def rollup5sTo1m (now : Nat) (source target : List CandleRow) : Option (List CandleRow) :=
  rollup 60 (2 * 3600) (fun total => total) now source target

/-- `rollup_1m_to_1h`. -/
def rollup1mTo1h (now : Nat) (source target : List CandleRow) : Option (List CandleRow) :=
  rollup 3600 (7 * 24 * 3600) (fun total => min total 32767) now source target

/-! ## The tables -/

structure Tier where
  rows : List CandleRow
  /-- All rows that were ever inserted. -/
  log : List CandleRow
  /-- Rows before this time have been pruned. -/
  cut : Nat

namespace Tier

def insert (t : Tier) (rows : List CandleRow) : Tier :=
  { t with rows := t.rows ++ rows, log := t.log ++ rows }

/-- `DELETE FROM table WHERE bucket_ts < cutoff`. -/
def prune (t : Tier) (cutoff : Nat) : Tier :=
  { t with rows := t.rows.filter (cutoff ≤ ·.bucketTs), cut := max t.cut cutoff }

end Tier

structure Spreads where
  now : Nat
  candles5s : Tier
  candles1m : Tier
  candles1h : Tier
  /-- The time of the last run of each rollup. -/
  rolled1mAt : Nat
  rolled1hAt : Nat

inductive SpreadsAct
  | wait (d : Nat)
  | write (r : CandleRow)
  | rollup5sTo1m
  | rollup1mTo1h
  | prune

namespace Spreads

def initial : Spreads := ⟨0, ⟨[], [], 0⟩, ⟨[], [], 0⟩, ⟨[], [], 0⟩, 0, 0⟩

/-- The 5 s candles are written in the order of their times, each of them once. -/
def Writable (s : Spreads) (r : CandleRow) : Prop :=
  ∀ r' ∈ s.candles5s.log, r'.bucketTs ≤ r.bucketTs ∧ (r'.pair = r.pair → r'.bucketTs ≠ r.bucketTs)

instance (s : Spreads) (r : CandleRow) : Decidable (s.Writable r) :=
  inferInstanceAs (Decidable (∀ r' ∈ s.candles5s.log,
    r'.bucketTs ≤ r.bucketTs ∧ (r'.pair = r.pair → r'.bucketTs ≠ r.bucketTs)))

def step (s : Spreads) : SpreadsAct → Option Spreads
  | .wait d => some { s with now := s.now + d }
  | .write r =>
      if s.Writable r then some { s with candles5s := s.candles5s.insert [r] } else none
  | .rollup5sTo1m =>
      let rows := (Spread.rollup5sTo1m s.now s.candles5s.rows s.candles1m.rows).getD []
      some { s with candles1m := s.candles1m.insert rows, rolled1mAt := s.now }
  | .rollup1mTo1h =>
      let rows := (Spread.rollup1mTo1h s.now s.candles1m.rows s.candles1h.rows).getD []
      some { s with candles1h := s.candles1h.insert rows, rolled1hAt := s.now }
  | .prune =>
      some { s with
        candles5s := s.candles5s.prune (s.now - 24 * 3600)
        candles1m := s.candles1m.prune (s.now - 7 * 24 * 3600)
        candles1h := s.candles1h.prune (s.now - 90 * 24 * 3600) }

end Spreads

/-! ## Exact rollups -/

/-- The candle of each complete bucket that a run has followed, and that is not past its
retention, is the fold of all its source candles. -/
def ExactTier (width ranAt : Nat) (source target : Tier) : Prop :=
  ∀ pair ts, width ∣ ts → ts + width ≤ ranAt → target.cut ≤ ts →
    stored target.rows pair ts =
      (foldCandles ((group width source.log pair ts).map CandleRow.candle)).toList

def Spreads.Exact (s : Spreads) : Prop :=
  ExactTier 60 s.rolled1mAt s.candles5s s.candles1m ∧
    ExactTier 3600 s.rolled1hAt s.candles1m s.candles1h

/-- The rollups are exact in every state of the runs under a condition. -/
def AlwaysExact (ok : Spreads → SpreadsAct → Prop) : Prop :=
  ∀ s, Run Spreads.step ok .initial s → s.Exact

/-- A run reads all source rows of each complete bucket that has no candle yet: none is later
than the start of the bucket that has just ended, before the window, or pruned. -/
def Sees (width window now : Nat) (source target : Tier) : Prop :=
  ∀ r ∈ source.log, r.bucket width + width ≤ now → target.cut ≤ r.bucket width →
    stored target.rows r.pair (r.bucket width) = [] → r ∈ selected width window now source.rows

/-- The samples of the rows of a bucket that a run reads add up to a `smallint`. -/
def Fits (width window now : Nat) (source : Tier) : Prop :=
  ∀ pair ts, (smallint ((group width (selected width window now source.rows) pair ts).map
    (·.candle.samples)).sum).isSome

/-- A run reads whole buckets, and no row comes after the run that should have read it. -/
def Spreads.Covered (s : Spreads) : SpreadsAct → Prop
  | .write r => s.rolled1mAt < r.bucket 60 + 60
  | .rollup5sTo1m =>
      Sees 60 (2 * 3600) s.now s.candles5s s.candles1m ∧ Fits 60 (2 * 3600) s.now s.candles5s ∧
        ∀ r ∈ selected 60 (2 * 3600) s.now s.candles5s.rows,
          stored s.candles1m.rows r.pair (r.bucket 60) = [] →
            s.rolled1hAt < r.bucket 3600 + 3600
  | .rollup1mTo1h =>
      Sees 3600 (7 * 24 * 3600) s.now s.candles1m s.candles1h ∧
        Fits 3600 (7 * 24 * 3600) s.now s.candles1m
  | .wait _ | .prune => True

/-! ## What a rollup inserts -/

section

variable {width window now ts : Nat} {total : ℤ → ℤ} {rows source target : List CandleRow}
  {pair : SpreadPair} {r : CandleRow}

/-- Rows that a function makes from different keys, found by one of the keys. -/
theorem filter_filterMap {κ α : Type} [DecidableEq κ] {keys : List κ} (distinct : keys.Nodup)
    (f : κ → Option α) (keyOf : α → κ) (keyed : ∀ k, ∀ a ∈ f k, keyOf a = k) (k : κ) :
    (keys.filterMap f).filter (fun a => keyOf a = k) = if k ∈ keys then (f k).toList else [] := by
  induction keys with
  | nil => rfl
  | cons k' keys ih =>
      obtain ⟨first, rest⟩ := List.nodup_cons.mp distinct
      have later := ih rest
      by_cases same : k = k'
      · subst same
        rw [if_neg first] at later
        rw [if_pos List.mem_cons_self]
        cases made : f k with
        | none => rw [List.filterMap_cons_none made, later]; rfl
        | some a =>
            rw [List.filterMap_cons_some made, List.filter_cons,
              if_pos (decide_eq_true (keyed k a made)), later]
            rfl
      · have listed : (k ∈ k' :: keys) = (k ∈ keys) := by
          rw [List.mem_cons, eq_iff_iff, or_iff_right same]
        simp only [listed]
        rw [← later]
        cases made : f k' with
        | none => rw [List.filterMap_cons_none made]
        | some a =>
            have other : ¬decide (keyOf a = k) = true := by
              rw [decide_eq_true_eq, keyed k' a made]
              exact Ne.symm same
            rw [List.filterMap_cons_some made, List.filter_cons, if_neg other]

theorem key_groupRow (made : r ∈ groupRow width total rows pair ts) :
    r.pair = pair ∧ r.bucketTs = ts := by
  obtain ⟨c, -, kept⟩ := Option.bind_eq_some_iff.mp made
  obtain ⟨samples, -, rfl⟩ := Option.map_eq_some_iff.mp kept
  exact ⟨rfl, rfl⟩

theorem groupRow_of_empty (empty : group width rows pair ts = []) :
    groupRow width total rows pair ts = none := by
  unfold groupRow
  rw [empty]
  rfl

theorem aggregate_isSome (rows : List CandleRow) (member : r ∈ rows) :
    ∃ c, aggregate rows = some c ∧ c.samples = (rows.map (·.candle.samples)).sum := by
  unfold aggregate
  cases least : rows.argmin CandleRow.bucketTs with
  | none => exact absurd (List.argmin_eq_none.mp least) (List.ne_nil_of_mem member)
  | some first =>
      cases greatest : rows.argmax CandleRow.bucketTs with
      | none => exact absurd (List.argmax_eq_none.mp greatest) (List.ne_nil_of_mem member)
      | some last => exact ⟨_, rfl, rfl⟩

/-- A total that leaves a `smallint` alone. -/
def Plain (total : ℤ → ℤ) : Prop :=
  ∀ x, (smallint x).isSome → total x = x

/-- The row of a group that fits. -/
theorem groupRow_of_fits (plain : Plain total)
    (fits : (smallint ((group width rows pair ts).map (·.candle.samples)).sum).isSome) :
    groupRow width total rows pair ts =
      (aggregate (group width rows pair ts)).map fun c => ⟨pair, ts, c⟩ := by
  cases members : group width rows pair ts with
  | nil => exact groupRow_of_empty members
  | cons r rest =>
      obtain ⟨c, whole, sum⟩ := aggregate_isSome (group width rows pair ts)
        (members ▸ List.mem_cons_self : r ∈ group width rows pair ts)
      have cast : smallint (total c.samples) = some c.samples := by
        rw [← sum] at fits
        rw [plain _ fits, smallint_of_isSome fits]
      unfold groupRow
      rw [← members, whole, Option.bind_some, cast]
      rfl

/-- The rows that a run makes, when all groups fit. -/
def rolledRows (width : Nat) (total : ℤ → ℤ) (rows target : List CandleRow) : List CandleRow :=
  (((rows.map fun r => (r.pair, r.bucket width)).dedup).filter fun key =>
    stored target key.1 key.2 = []).filterMap fun key => groupRow width total rows key.1 key.2

theorem mem_group : r ∈ group width rows pair ts ↔ r ∈ rows ∧ r.pair = pair ∧ r.bucket width = ts := by
  unfold group
  rw [List.mem_filter, decide_eq_true_eq]

theorem rollup_of_fits (plain : Plain total) (fits : ∀ pair ts,
      (smallint ((group width (selected width window now source) pair ts).map
        (·.candle.samples)).sum).isSome) :
    rollup width window total now source target =
      some (rolledRows width total (selected width window now source) target) := by
  refine if_pos (List.all_eq_true.mpr fun key listed => ?_)
  obtain ⟨r, member, rfl⟩ := List.mem_map.mp (List.mem_dedup.mp listed)
  obtain ⟨c, whole, -⟩ := aggregate_isSome _ (mem_group.mpr ⟨member, rfl, rfl⟩)
  rw [groupRow_of_fits plain (fits _ _), whole]
  rfl

/-- What is stored of the made rows. -/
theorem stored_rolledRows :
    stored (rolledRows width total rows target) pair ts =
      if stored target pair ts = [] then
        (groupRow width total rows pair ts).toList.map CandleRow.candle
      else [] := by
  have distinct : (((rows.map fun r => (r.pair, r.bucket width)).dedup).filter fun key =>
      stored target key.1 key.2 = []).Nodup := (List.nodup_dedup _).filter _
  have keyed : ∀ key : SpreadPair × ℕ, ∀ r ∈ groupRow width total rows key.1 key.2,
      (r.pair, r.bucketTs) = key := fun key r made =>
    Prod.ext (key_groupRow made).1 (key_groupRow made).2
  have made := filter_filterMap distinct (fun key => groupRow width total rows key.1 key.2)
    (fun r => (r.pair, r.bucketTs)) keyed (pair, ts)
  simp only [Prod.mk.injEq] at made
  change List.map _ (List.filter _ _) = _
  unfold rolledRows
  rw [made]
  simp only [List.mem_filter, List.mem_dedup, decide_eq_true_eq]
  by_cases free : stored target pair ts = []
  · rw [if_pos free]
    split
    · rfl
    case isFalse unread =>
      have empty : group width rows pair ts = [] := by
        refine List.eq_nil_iff_forall_not_mem.mpr fun r member => unread ⟨?_, free⟩
        obtain ⟨read, rfl, rfl⟩ := mem_group.mp member
        exact List.mem_map_of_mem read
      rw [groupRow_of_empty empty]
      rfl
  · rw [if_neg free, if_neg fun both => free both.2]
    rfl

/-- A made row is of a group that was read and has no candle. -/
theorem of_mem_rolledRows (member : r ∈ rolledRows width total rows target) :
    ∃ r' ∈ rows, r'.pair = r.pair ∧ r'.bucket width = r.bucketTs ∧
      stored target r.pair r.bucketTs = [] := by
  obtain ⟨key, listed, made⟩ := List.mem_filterMap.mp member
  obtain ⟨known, free⟩ := List.mem_filter.mp listed
  obtain ⟨r', read, named⟩ := List.mem_map.mp (List.mem_dedup.mp known)
  obtain ⟨pair, bucketTs⟩ := key_groupRow made
  refine ⟨r', read, ?_, ?_, ?_⟩
  · rw [pair, ← named]
  · rw [bucketTs, ← named]
  · rw [pair, bucketTs]
    exact of_decide_eq_true free

/-- The rows of each pair are in the order of their times. -/
def Ordered (rows : List CandleRow) : Prop :=
  rows.Pairwise fun r r' => r.pair = r'.pair → r.bucketTs < r'.bucketTs

theorem inOrder_group (ordered : Ordered rows) : InOrder (group width rows pair ts) := by
  have within : (group width rows pair ts).Pairwise fun r r' =>
      r.pair = r'.pair → r.bucketTs < r'.bucketTs := ordered.sublist List.filter_sublist
  refine List.Pairwise.imp_of_mem (fun member member' less => less ?_) within
  rw [(mem_group.mp member).2.1, (mem_group.mp member').2.1]

/-- The made rows are in the order of their times too. -/
theorem ordered_rolledRows (ordered : Ordered rows) : Ordered (rolledRows width total rows target) := by
  have keys : (rows.map fun r => (r.pair, r.bucket width)).Pairwise
      fun key key' => key.1 = key'.1 → key.2 ≤ key'.2 := by
    rw [List.pairwise_map]
    refine ordered.imp fun less same => ?_
    exact Nat.mul_le_mul_right _ (Nat.div_le_div_right (Nat.le_of_lt (less same)))
  have strict : ((rows.map fun r => (r.pair, r.bucket width)).dedup).Pairwise
      fun key key' => key.1 = key'.1 → key.2 < key'.2 := by
    have both := (keys.sublist (List.dedup_sublist _)).and (List.nodup_dedup _)
    refine both.imp fun facts same => ?_
    exact Nat.lt_of_le_of_ne (facts.1 same) fun equal => facts.2 (Prod.ext same equal)
  refine List.pairwise_filterMap.mpr ((strict.sublist List.filter_sublist).imp ?_)
  intro key key' less r made r' made' same
  obtain ⟨pair, bucketTs⟩ := key_groupRow made
  obtain ⟨pair', bucketTs'⟩ := key_groupRow made'
  rw [bucketTs, bucketTs']
  exact less (by rw [← pair, ← pair', same])

theorem bucket_le (width : Nat) (r : CandleRow) : r.bucket width ≤ r.bucketTs :=
  Nat.div_mul_le_self _ _

/-- A bucket that a run reads has ended. -/
theorem ended_of_selected (member : r ∈ selected width window now rows) :
    r.bucket width + width ≤ now := by
  have bounds := of_decide_eq_true (List.mem_filter.mp member).2
  have until_ : ((r.bucketTs : ℤ)) ≤ ((now / width * width : Nat) : ℤ) - width := by
    push_cast
    exact bounds.1
  have start := bucket_le width r
  have past := Nat.div_mul_le_self now width
  omega

end

section

variable {width window now ranAt : Nat} {total : ℤ → ℤ} {source target : Tier}

/-- The rows of a table, of all that were inserted. -/
def Kept (t : Tier) : Prop :=
  ∃ keep : CandleRow → Bool, t.rows = t.log.filter keep

/-- The rows of a bucket that a run has to fold are those that were written. -/
theorem Sees.group_selected (sees : Sees width window now source target)
    (kept : Kept source) {pair : SpreadPair} {ts : Nat}
    (ended : ts + width ≤ now) (retained : target.cut ≤ ts)
    (free : stored target.rows pair ts = []) :
    group width (selected width window now source.rows) pair ts =
      group width source.log pair ts := by
  obtain ⟨keep, kept⟩ := kept
  unfold group selected
  rw [kept, List.filter_filter, List.filter_filter]
  refine List.filter_congr fun r written => ?_
  by_cases own : r.pair = pair ∧ r.bucket width = ts
  · obtain ⟨rfl, rfl⟩ := own
    have read := sees r written ended retained free
    obtain ⟨inTable, bounds⟩ := List.mem_filter.mp read
    rw [kept] at inTable
    have holds := (List.mem_filter.mp inTable).2
    simp only [decide_eq_true_eq] at bounds ⊢
    simp [bounds, holds]
  · rw [decide_eq_false own, Bool.false_and, Bool.false_and]

/-- A run keeps the tier exact. -/
theorem ExactTier.rolled (exact_ : ExactTier width ranAt source target)
    (sees : Sees width window now source target) (fits : Fits width window now source)
    (plain : Plain total) (kept : Kept source)
    (ordered : Ordered source.log) (followed : ∀ r ∈ target.rows, r.bucketTs + width ≤ ranAt) :
    ExactTier width now source (target.insert
      (rolledRows width total (selected width window now source.rows) target.rows)) := by
  intro pair ts aligned ended retained
  have both : stored (target.insert (rolledRows width total
      (selected width window now source.rows) target.rows)).rows pair ts =
        stored target.rows pair ts ++ stored (rolledRows width total
          (selected width window now source.rows) target.rows) pair ts := by
    unfold stored Tier.insert
    rw [List.filter_append, List.map_append]
  rw [both, stored_rolledRows]
  by_cases free : stored target.rows pair ts = []
  · rw [if_pos free, free, List.nil_append, groupRow_of_fits plain (fits pair ts),
      sees.group_selected kept ended retained free, aggregate_eq_fold (inOrder_group ordered)]
    cases foldCandles ((group width source.log pair ts).map CandleRow.candle) <;> rfl
  · rw [if_neg free, List.append_nil]
    have before : ts + width ≤ ranAt := by
      obtain ⟨c, member⟩ := List.exists_mem_of_ne_nil _ free
      obtain ⟨r, held, -⟩ := List.mem_map.mp member
      obtain ⟨inTable, own⟩ := List.mem_filter.mp held
      have known := followed r inTable
      rw [(of_decide_eq_true own).2] at known
      exact known
    exact exact_ pair ts aligned before retained

/-- A row that the next tier's source has not had before. -/
theorem ExactTier.unrolled (exact_ : ExactTier width ranAt source target) {r : CandleRow}
    (written : r ∈ source.log) (retained : target.cut ≤ r.bucket width)
    (free : stored target.rows r.pair (r.bucket width) = []) : ranAt < r.bucket width + width := by
  by_contra before
  have held := exact_ r.pair (r.bucket width) (Nat.dvd_mul_left _ _) (Nat.not_lt.mp before) retained
  rw [free] at held
  have member : r ∈ group width source.log r.pair (r.bucket width) :=
    mem_group.mpr ⟨written, rfl, rfl⟩
  cases members : group width source.log r.pair (r.bucket width) with
  | nil =>
      rw [members] at member
      cases member
  | cons r' rest =>
      rw [members] at held
      cases held

theorem ExactTier.pruned (exact_ : ExactTier width ranAt source target) (cutoff cutoff' : Nat) :
    ExactTier width ranAt (source.prune cutoff) (target.prune cutoff') := by
  intro pair ts aligned ended retained
  have later : target.cut ≤ ts ∧ cutoff' ≤ ts := max_le_iff.mp retained
  have same : stored (target.prune cutoff').rows pair ts = stored target.rows pair ts := by
    unfold stored Tier.prune
    rw [List.filter_filter]
    congr 1
    refine List.filter_congr fun r _ => ?_
    by_cases own : r.pair = pair ∧ r.bucketTs = ts
    · rw [decide_eq_true own, Bool.true_and, own.2]
      exact decide_eq_true later.2
    · rw [decide_eq_false own, Bool.false_and]
  rw [same]
  exact exact_ pair ts aligned ended later.1

/-- Rows of buckets that have not been followed by a run. -/
theorem ExactTier.extended (exact_ : ExactTier width ranAt source target) (rows : List CandleRow)
    (later : ∀ r ∈ rows, ranAt < r.bucket width + width) :
    ExactTier width ranAt (source.insert rows) target := by
  intro pair ts aligned ended retained
  have none_ : group width rows pair ts = [] := by
    refine List.eq_nil_iff_forall_not_mem.mpr fun r member => ?_
    obtain ⟨new, rfl, rfl⟩ := mem_group.mp member
    exact absurd ended (Nat.not_le.mpr (later r new))
  have same : group width (source.insert rows).log pair ts = group width source.log pair ts := by
    unfold group at none_ ⊢
    change List.filter _ (source.log ++ rows) = _
    rw [List.filter_append, none_, List.append_nil]
  rw [same]
  exact exact_ pair ts aligned ended retained

end

/-! ## Runs -/

theorem plain_id : Plain fun total => total := fun _ _ => rfl

theorem plain_least : Plain fun total => min total 32767 := by
  intro x fits
  unfold smallint at fits
  split at fits
  case isTrue range => exact min_eq_left range.2
  case isFalse => cases fits

theorem Kept.insert {t : Tier} (kept : Kept t) {rows : List CandleRow}
    (fresh : ∀ r ∈ rows, r ∉ t.log) : Kept (t.insert rows) := by
  obtain ⟨keep, kept⟩ := kept
  refine ⟨fun r => keep r || decide (r ∈ rows), ?_⟩
  change t.rows ++ rows = (t.log ++ rows).filter _
  have old : t.log.filter (fun r => keep r || decide (r ∈ rows)) = t.log.filter keep := by
    refine List.filter_congr fun r member => ?_
    rw [decide_eq_false fun new => fresh r new member, Bool.or_false]
  have new : rows.filter (fun r => keep r || decide (r ∈ rows)) = rows := by
    refine List.filter_eq_self.mpr fun r member => ?_
    rw [decide_eq_true member, Bool.or_true]
  rw [List.filter_append, old, new, kept]

theorem Kept.prune {t : Tier} (kept : Kept t) (cutoff : Nat) : Kept (t.prune cutoff) := by
  obtain ⟨keep, kept⟩ := kept
  refine ⟨fun r => decide (cutoff ≤ r.bucketTs) && keep r, ?_⟩
  change t.rows.filter (cutoff ≤ ·.bucketTs) = t.log.filter _
  rw [kept, List.filter_filter]

namespace Spreads

structure Inv (s : Spreads) : Prop where
  exact_ : s.Exact
  kept5s : Kept s.candles5s
  kept1m : Kept s.candles1m
  ordered5s : Ordered s.candles5s.log
  ordered1m : Ordered s.candles1m.log
  followed1m : ∀ r ∈ s.candles1m.log, r.bucketTs + 60 ≤ s.rolled1mAt
  followed1h : ∀ r ∈ s.candles1h.rows, r.bucketTs + 3600 ≤ s.rolled1hAt
  cut1m : s.candles1m.cut = 0 ∨ s.candles1m.cut + 7 * 24 * 3600 ≤ s.now
  ran1m : s.rolled1mAt ≤ s.now
  ran1h : s.rolled1hAt ≤ s.now

variable {s : Spreads}

theorem inv_initial : initial.Inv := by
  have none_ : ∀ width, ExactTier width 0 ⟨[], [], 0⟩ ⟨[], [], 0⟩ := fun _ _ _ _ _ _ => rfl
  refine ⟨⟨none_ 60, none_ 3600⟩, ⟨fun _ => true, rfl⟩, ⟨fun _ => true, rfl⟩, List.Pairwise.nil, List.Pairwise.nil, ?_, ?_,
    Or.inl rfl, Nat.le_refl _, Nat.le_refl _⟩
  · intro r member
    cases member
  · intro r member
    cases member

theorem mem_rows_of_kept {t : Tier} (kept : Kept t) {r : CandleRow} (member : r ∈ t.rows) :
    r ∈ t.log := by
  obtain ⟨keep, kept⟩ := kept
  rw [kept] at member
  exact (List.mem_filter.mp member).1

theorem mem_of_selected {width window now : Nat} {rows : List CandleRow} {r : CandleRow}
    (member : r ∈ selected width window now rows) : r ∈ rows :=
  (List.mem_filter.mp member).1

/-- The hour of a minute's row. -/
theorem bucket_bucket {r r' : CandleRow} (start : r'.bucket 60 = r.bucketTs) :
    r.bucket 3600 = r'.bucket 3600 := by
  unfold CandleRow.bucket at start ⊢
  have hours : ∀ ts : Nat, ts / 3600 = ts / 60 / 60 := fun ts =>
    (Nat.div_div_eq_div_mul ts 60 60).symm
  rw [hours, hours r'.bucketTs, ← start, Nat.mul_div_cancel _ (by decide)]

/-- A minute that a run reads has not been pruned. -/
theorem Inv.retained (inv : s.Inv) {r : CandleRow}
    (member : r ∈ selected 60 (2 * 3600) s.now s.candles5s.rows) :
    s.candles1m.cut ≤ r.bucket 60 := by
  have bounds := of_decide_eq_true (List.mem_filter.mp member).2
  have cut := inv.cut1m
  unfold CandleRow.bucket
  push_cast at bounds
  omega

theorem Inv.write (inv : s.Inv) {r : CandleRow} (writable : s.Writable r)
    (early : s.rolled1mAt < r.bucket 60 + 60) :
    Inv { s with candles5s := s.candles5s.insert [r] } := by
  have own : ∀ r' ∈ [r], r' = r := fun _ member => List.mem_singleton.mp member
  refine ⟨⟨inv.exact_.1.extended [r] fun r' member => own r' member ▸ early, inv.exact_.2⟩,
    inv.kept5s.insert fun r' member old => (writable r' old).2 (own r' member ▸ rfl)
      (own r' member ▸ rfl), inv.kept1m, ?_,
    inv.ordered1m, inv.followed1m, inv.followed1h, inv.cut1m, inv.ran1m, inv.ran1h⟩
  refine List.pairwise_append.mpr ⟨inv.ordered5s, List.pairwise_singleton _ _, ?_⟩
  intro r' old r'' new same
  rw [own r'' new] at same ⊢
  obtain ⟨notLater, other⟩ := writable r' old
  exact Nat.lt_of_le_of_ne notLater (other same)

theorem Inv.rollup5sTo1m (inv : s.Inv) (covered : s.Covered .rollup5sTo1m) :
    Inv { s with
      candles1m := s.candles1m.insert
        ((Spread.rollup5sTo1m s.now s.candles5s.rows s.candles1m.rows).getD [])
      rolled1mAt := s.now } := by
  obtain ⟨sees, fits, early⟩ := covered
  have made : Spread.rollup5sTo1m s.now s.candles5s.rows s.candles1m.rows =
      some (rolledRows 60 (fun total => total) (selected 60 (2 * 3600) s.now s.candles5s.rows)
        s.candles1m.rows) := rollup_of_fits plain_id fits
  rw [made, Option.getD_some]
  have exact_ := inv.exact_.1.rolled sees fits plain_id inv.kept5s inv.ordered5s
    fun r member => inv.followed1m r (mem_rows_of_kept inv.kept1m member)
  have news : ∀ r ∈ rolledRows 60 (fun total => total)
      (selected 60 (2 * 3600) s.now s.candles5s.rows) s.candles1m.rows,
      s.rolled1mAt < r.bucketTs + 60 ∧ r.bucketTs + 60 ≤ s.now ∧
        s.rolled1hAt < r.bucket 3600 + 3600 := by
    intro r member
    obtain ⟨r', read, pair, start, free⟩ := of_mem_rolledRows member
    rw [← pair, ← start] at free
    have retained := inv.retained read
    have written := mem_rows_of_kept inv.kept5s (mem_of_selected read)
    have unrolled := inv.exact_.1.unrolled written retained free
    have ended := ended_of_selected read
    have hour := early r' read free
    have sameHour : r.bucket 3600 = r'.bucket 3600 := bucket_bucket start
    rw [start] at unrolled ended
    refine ⟨unrolled, ended, ?_⟩
    rw [sameHour]
    exact hour
  refine ⟨⟨exact_, inv.exact_.2.extended _ fun r member => (news r member).2.2⟩, inv.kept5s,
    inv.kept1m.insert fun r member old => ?_, inv.ordered5s, ?_, ?_,
    inv.followed1h, inv.cut1m, Nat.le_refl _, inv.ran1h⟩
  · have before := inv.followed1m r old
    have after := (news r member).1
    omega
  · have read : Ordered (selected 60 (2 * 3600) s.now s.candles5s.rows) := by
      have all : Ordered s.candles5s.rows := by
        obtain ⟨keep, kept⟩ := inv.kept5s
        rw [kept]
        exact inv.ordered5s.sublist List.filter_sublist
      exact all.sublist List.filter_sublist
    refine List.pairwise_append.mpr ⟨inv.ordered1m, ordered_rolledRows read, ?_⟩
    intro r old r' new _
    have before := inv.followed1m r old
    have after := (news r' new).1
    omega
  · intro r member
    rcases List.mem_append.mp member with old | new
    · exact Nat.le_trans (inv.followed1m r old) inv.ran1m
    · exact (news r new).2.1

theorem Inv.rollup1mTo1h (inv : s.Inv) (covered : s.Covered .rollup1mTo1h) :
    Inv { s with
      candles1h := s.candles1h.insert
        ((Spread.rollup1mTo1h s.now s.candles1m.rows s.candles1h.rows).getD [])
      rolled1hAt := s.now } := by
  obtain ⟨sees, fits⟩ := covered
  have made : Spread.rollup1mTo1h s.now s.candles1m.rows s.candles1h.rows =
      some (rolledRows 3600 (fun total => min total 32767)
        (selected 3600 (7 * 24 * 3600) s.now s.candles1m.rows) s.candles1h.rows) :=
    rollup_of_fits plain_least fits
  rw [made, Option.getD_some]
  refine ⟨⟨inv.exact_.1, inv.exact_.2.rolled sees fits plain_least inv.kept1m inv.ordered1m
    inv.followed1h⟩, inv.kept5s, inv.kept1m, inv.ordered5s, inv.ordered1m, inv.followed1m, ?_,
    inv.cut1m, inv.ran1m, Nat.le_refl _⟩
  intro r member
  rcases List.mem_append.mp member with old | new
  · exact Nat.le_trans (inv.followed1h r old) inv.ran1h
  · obtain ⟨r', read, -, start, -⟩ := of_mem_rolledRows new
    rw [← start]
    exact ended_of_selected read

theorem Inv.prune (inv : s.Inv) :
    Inv { s with
      candles5s := s.candles5s.prune (s.now - 24 * 3600)
      candles1m := s.candles1m.prune (s.now - 7 * 24 * 3600)
      candles1h := s.candles1h.prune (s.now - 90 * 24 * 3600) } := by
  refine ⟨⟨inv.exact_.1.pruned _ _, inv.exact_.2.pruned _ _⟩, inv.kept5s.prune _,
    inv.kept1m.prune _, inv.ordered5s, inv.ordered1m, inv.followed1m, ?_, ?_, inv.ran1m,
    inv.ran1h⟩
  · intro r member
    exact inv.followed1h r (List.mem_filter.mp member).1
  · have cut := inv.cut1m
    change max s.candles1m.cut (s.now - 7 * 24 * 3600) = 0 ∨
      max s.candles1m.cut (s.now - 7 * 24 * 3600) + 7 * 24 * 3600 ≤ s.now
    omega

theorem preserves_inv : Preserves step Covered Inv := by
  intro s act s' inv covered stepped
  cases act with
  | wait d =>
      cases stepped
      have later := inv.cut1m.imp_right fun cut => Nat.le_trans cut (Nat.le_add_right s.now d)
      exact ⟨inv.exact_, inv.kept5s, inv.kept1m, inv.ordered5s, inv.ordered1m, inv.followed1m,
        inv.followed1h, later, Nat.le_trans inv.ran1m (Nat.le_add_right _ _),
        Nat.le_trans inv.ran1h (Nat.le_add_right _ _)⟩
  | write r =>
      dsimp only [step] at stepped
      split at stepped
      case isTrue writable =>
        cases stepped
        exact inv.write writable covered
      case isFalse => cases stepped
  | rollup5sTo1m =>
      cases stepped
      exact inv.rollup5sTo1m covered
  | rollup1mTo1h =>
      cases stepped
      exact inv.rollup1mTo1h covered
  | prune =>
      cases stepped
      exact inv.prune

end Spreads

/-- The rollups are exact while each run reads whole buckets. -/
theorem alwaysExact_of_covered {ok : Spreads → SpreadsAct → Prop}
    (within : ∀ s act, ok s act → Spreads.Covered s act) : AlwaysExact ok := by
  intro s run
  have covered : Run Spreads.step Spreads.Covered .initial s := run.mono within
  exact (covered.invariant Spreads.preserves_inv Spreads.inv_initial).exact_

/-! ## A minute and an hour that are rolled late -/

def btcPair : SpreadPair := ⟨"binance", "bybit", "BTC"⟩

/-- A candle with one value. -/
def flat (ts : Nat) (x : ℚ) : CandleRow :=
  ⟨btcPair, ts, ⟨⟨x, x, x, x⟩, ⟨x, x, x, x⟩, 1⟩⟩

theorem sum_group_of_absent {width ts : Nat} {rows : List CandleRow} {pair : SpreadPair}
    (absent : ∀ r ∈ rows, ¬(r.pair = pair ∧ r.bucket width = ts)) :
    ((group width rows pair ts).map (·.candle.samples)).sum = 0 := by
  have empty : group width rows pair ts = [] :=
    List.filter_eq_nil_iff.mpr fun r member => by simpa using absent r member
  rw [empty]
  rfl

/-- Only the buckets of the rows that a run reads matter. -/
theorem fits_iff {width window now : Nat} {source : Tier} :
    Fits width window now source ↔ ∀ r ∈ selected width window now source.rows,
      (smallint ((group width (selected width window now source.rows) r.pair (r.bucket width)).map
        (·.candle.samples)).sum).isSome := by
  constructor
  · exact fun fits r _ => fits r.pair (r.bucket width)
  · intro fits pair ts
    by_cases read : ∃ r ∈ selected width window now source.rows,
        r.pair = pair ∧ r.bucket width = ts
    · obtain ⟨r, member, rfl, rfl⟩ := read
      exact fits r member
    · rw [sum_group_of_absent fun r member same => read ⟨r, member, same⟩]
      rfl

instance (width window now : Nat) (source : Tier) : Decidable (Fits width window now source) :=
  decidable_of_iff' _ fits_iff

instance (width window now : Nat) (source target : Tier) :
    Decidable (Sees width window now source target) := by
  unfold Sees
  infer_instance

instance (s : Spreads) : ∀ act, Decidable (s.Covered act)
  | .write r => inferInstanceAs (Decidable (s.rolled1mAt < r.bucket 60 + 60))
  | .rollup5sTo1m => by
      unfold Spreads.Covered
      infer_instance
  | .rollup1mTo1h => by
      unfold Spreads.Covered
      infer_instance
  | .wait _ | .prune => .isTrue trivial

/-- Two candles of a minute; the minute is rolled a minute after it has ended, and the hour two
hours later. -/
def lateRun : List SpreadsAct :=
  [.wait 60, .write (flat 60 1), .wait 5, .write (flat 65 2), .wait 120, .rollup5sTo1m, .wait 7200,
    .rollup1mTo1h, .prune]

theorem alwaysExact_lateRun : ∃ s,
    execGuarded Spreads.step Spreads.Covered .initial lateRun = some s ∧
      stored s.candles1m.rows btcPair 60 = [⟨⟨1, 2, 1, 2⟩, ⟨1, 2, 1, 2⟩, 2⟩] ∧
      stored s.candles1h.rows btcPair 0 = [⟨⟨1, 2, 1, 2⟩, ⟨1, 2, 1, 2⟩, 2⟩] ∧ s.Exact := by
  have ran : (execGuarded Spreads.step Spreads.Covered .initial lateRun).map (fun s =>
      (stored s.candles1m.rows btcPair 60, stored s.candles1h.rows btcPair 0)) =
        some ([⟨⟨1, 2, 1, 2⟩, ⟨1, 2, 1, 2⟩, 2⟩], [⟨⟨1, 2, 1, 2⟩, ⟨1, 2, 1, 2⟩, 2⟩]) := by
    decide +kernel
  obtain ⟨s, executed, view⟩ := Option.map_eq_some_iff.mp ran
  obtain ⟨minute, hour⟩ := Prod.mk.inj view
  exact ⟨s, executed, minute, hour,
    alwaysExact_of_covered (fun _ _ covered => covered) s (Run.of_execGuarded executed)⟩

/-! ## The bucket that has just ended -/

/-- Two candles of a minute; the minute is rolled when it has ended, and later again. -/
def minuteRun : List SpreadsAct :=
  [.wait 60, .write (flat 60 1), .wait 5, .write (flat 65 2), .wait 60, .rollup5sTo1m, .wait 60,
    .rollup5sTo1m]

/-- A candle in each of the first two minutes of an hour; the hour is rolled when it has ended. -/
def hourRun : List SpreadsAct :=
  [.wait 3600, .write (flat 3600 1), .wait 60, .rollup5sTo1m, .write (flat 3660 2), .wait 60,
    .rollup5sTo1m, .wait 3600, .rollup1mTo1h]

/-- The candle of the pair in a table, and the fold of its source candles. -/
def rolledCandle (width : Nat) (source target : Tier) (ts : Nat) : List Candle × Option Candle :=
  (stored target.rows btcPair ts,
    foldCandles ((group width source.log btcPair ts).map CandleRow.candle))

theorem not_exact {s : Spreads} {c : Candle} {fold : Option Candle} (ran : s.rolled1mAt = 185)
    (cut : s.candles1m.cut = 0)
    (rolled : rolledCandle 60 s.candles5s s.candles1m 60 = ([c], fold)) (unlike : fold ≠ some c) :
    ¬s.Exact := by
  intro exact_
  have kept : (rolledCandle 60 s.candles5s s.candles1m 60).1 =
      (rolledCandle 60 s.candles5s s.candles1m 60).2.toList :=
    exact_.1 btcPair 60 (Nat.dvd_refl _) (by omega) (by omega)
  rw [rolled] at kept
  cases fold with
  | none => cases kept
  | some c' =>
      cases kept
      exact unlike rfl

theorem alwaysExact_broken :
    (¬AlwaysExact fun _ _ => True) ∧
      ((exec Spreads.step .initial hourRun).map fun s =>
        (s.rolled1hAt, s.candles1h.cut, rolledCandle 3600 s.candles1m s.candles1h 3600)) =
          some (7320, 0, [(flat 3600 1).candle], some ⟨⟨1, 2, 1, 2⟩, ⟨1, 2, 1, 2⟩, 2⟩) := by
  have minute : ((exec Spreads.step .initial minuteRun).map fun s =>
      (s.rolled1mAt, s.candles1m.cut, rolledCandle 60 s.candles5s s.candles1m 60)) =
        some (185, 0, [(flat 60 1).candle], some ⟨⟨1, 2, 1, 2⟩, ⟨1, 2, 1, 2⟩, 2⟩) := by
    decide +kernel
  refine ⟨fun always => ?_, by decide +kernel⟩
  obtain ⟨s, executed, read⟩ := Option.map_eq_some_iff.mp minute
  obtain ⟨ran, rest⟩ := Prod.mk.inj read
  obtain ⟨cut, rolled⟩ := Prod.mk.inj rest
  exact not_exact ran cut rolled (by decide +kernel) (always s (Run.of_exec executed))

end Spread

end Avalant
