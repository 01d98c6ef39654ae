import Avalant.Lib.Grouping
import Avalant.Lib.Matching
import Avalant.Trade.Proxy
import Mathlib.Data.List.Sort

/-!
`group_live_positions`: a user's live positions as long-short pairs and singles.

A position is known by its key, which is the position id of its venue where there is one. A position
is out once its key is in `used`, and the singles are those that are not. Several venues give the
symbol as the position id, so that positions of two venues, two wallets or two sides can have one
key: then one of them in a pair puts all the others out, and they are in neither list.
-/

namespace Avalant

open Relational

/-! ## Positions -/

/-- The keys of a live position that are read. -/
structure LivePosition where
  exchange : Option String := none
  symbol : Option String := none
  side : Option String := none
  quantity : JsonNumber := .missing
  entryPrice : JsonNumber := .missing
  markPrice : JsonNumber := .missing
  positionId : Option String := none
  markTickTs : JsonNumber := .missing
  deriving DecidableEq, Repr

/-- A position and its place in the list. -/
structure Tagged where
  index : Nat
  p : LivePosition
  deriving DecidableEq, Repr

namespace Tagged

/-- `(t["p"].get("symbol") or "").upper()`. -/
def sym (t : Tagged) : String :=
  Python.upper (t.p.symbol.getD "")

/-- `(t["p"].get("exchange") or "").lower()`. -/
def exchange (t : Tagged) : String :=
  Python.lower (t.p.exchange.getD "")

/-- `(t["p"].get("side") or "").lower()`. -/
def side (t : Tagged) : String :=
  Python.lower (t.p.side.getD "")

/-- `qty * mark`, and zero where one of them cannot be read. -/
def notional (t : Tagged) : ℚ :=
  match t.p.quantity.float, t.p.markPrice.float with
  | .ok qty, .ok mark => |qty| * mark
  | _, _ => 0

/-- The position id, or else the venue, the symbol and the place in the list. -/
def key (t : Tagged) : String :=
  (Python.nonEmpty t.p.positionId).getD (t.exchange ++ ":" ++ t.sym ++ ":" ++ toString t.index)

end Tagged

def tag (positions : List LivePosition) : List Tagged :=
  positions.mapIdx fun i p => ⟨i, p⟩

/-- `AVALANT_PAIR_NOTIONAL_TOL_PCT` and `AVALANT_PAIR_MARK_MAX_DIFF_S`. -/
structure GroupingEnv where
  pairNotionalTolerancePct : ℚ := 12
  pairMarkMaxDiffS : ℚ := 2

/-- A saved pair, as `_load_manual_pairs_for_user` gives it. -/
structure ManualPair where
  symbol : String
  longExchange : String
  shortExchange : String
  deriving DecidableEq, Repr

structure LivePair where
  symbol : String
  long : Tagged
  short : Tagged
  manual : Bool
  markStale : Bool
  deriving DecidableEq, Repr

def LivePair.legs (pair : LivePair) : List Tagged :=
  [pair.long, pair.short]

/-- `pair_mark_stale`. -/
def GroupingEnv.pairMarkStale (env : GroupingEnv) (a b : LivePosition) : Bool :=
  match a.markTickTs, b.markTickTs with
  | .number aTs, .number bTs => env.pairMarkMaxDiffS < |aTs - bTs|
  | _, _ => false

def GroupingEnv.pair (env : GroupingEnv) (sym : String) (manual : Bool) (l s : Tagged) : LivePair :=
  ⟨sym, l, s, manual, env.pairMarkStale l.p s.p⟩

/-- `abs(diff_pct - spread_pct)` of two legs that pass the matching criteria. -/
def GroupingEnv.deviation (env : GroupingEnv) (l s : Tagged) : Option ℚ :=
  let maxN := max l.notional s.notional
  if maxN ≤ 0 then none
  else
    match l.p.entryPrice.float, s.p.entryPrice.float with
    | .ok le, .ok se =>
        let spreadPct := if 0 < le ∧ 0 < se then |(se - le) / le| * 100 else 0
        let diffPct := |l.notional - s.notional| / maxN * 100
        if env.pairNotionalTolerancePct < |diffPct - spreadPct| then none
        else some |diffPct - spreadPct|
    | _, _ => none

/-! ## The grouping -/

section Grouping

variable {κ : Type*} [DecidableEq κ] (env : GroupingEnv) (key : Tagged → κ)

/-- `t["key"] in used`: the key of a leg of some pair. -/
def used (pairs : List LivePair) (t : Tagged) : Bool :=
  Matching.taken LivePair.legs key pairs t

/-- The legs of a saved pair, where both are left. -/
def ManualPair.legs? (mp : ManualPair) (tagged : List Tagged) (out : Tagged → Bool) :
    Option (Tagged × Tagged) :=
  let group := tagged.filter fun t => t.sym = Python.upper mp.symbol
  let l := group.find? fun t =>
    t.exchange = Python.lower mp.longExchange && t.side = "buy" && !out t
  let s := group.find? fun t =>
    t.exchange = Python.lower mp.shortExchange && t.side = "sell" && !out t
  match l, s with
  | some l, some s => some (l, s)
  | _, _ => none

/-- One saved pair. -/
def groupManual (tagged : List Tagged) (pairs : List LivePair) (mp : ManualPair) : List LivePair :=
  match mp.legs? tagged (used key pairs) with
  | some (l, s) => pairs ++ [env.pair (Python.upper mp.symbol) true l s]
  | none => pairs

/-- The candidates of a symbol with the best first, of legs that are left. -/
def GroupingEnv.candidates (tagged : List Tagged) (sym : String) (out : Tagged → Bool) :
    List (Tagged × Tagged) :=
  let group := tagged.filter fun t => t.sym = sym
  let longs := group.filter fun t => t.side = "buy" && !out t
  let shorts := group.filter fun t => t.side = "sell" && !out t
  let candidates := longs.flatMap fun l =>
    shorts.filterMap fun s => (env.deviation l s).map fun deviation => (deviation, l, s)
  (candidates.insertionSort fun c c' => c.1 ≤ c'.1).map Prod.snd

/-- The candidates of one symbol in turn. -/
def groupAuto (tagged : List Tagged) (pairs : List LivePair) (sym : String) : List LivePair :=
  (env.candidates tagged sym (used key pairs)).foldl
    (fun pairs c =>
      if used key pairs c.1 || used key pairs c.2 then pairs
      else pairs ++ [env.pair sym false c.1 c.2]) pairs

/-- The pairs that come of positions that are known by a key. -/
def pairsBy (tagged : List Tagged) (manual : List ManualPair) : List LivePair :=
  (Grouping.keys Tagged.sym tagged).foldl (groupAuto env key tagged)
    (manual.foldl (groupManual env key tagged) [])

end Grouping

structure Grouped where
  pairs : List LivePair
  singles : List Tagged
  deriving DecidableEq, Repr

/-- `group_live_positions`. -/
def GroupingEnv.groupLivePositions (env : GroupingEnv) (positions : List LivePosition)
    (manual : List ManualPair) : Grouped :=
  let tagged := tag positions
  let pairs := pairsBy env Tagged.key tagged manual
  ⟨pairs, tagged.filter fun t => !used Tagged.key pairs t⟩

/-! ## The grouping as a choice of candidates -/

section Stages

variable {κ : Type*} [DecidableEq κ] (env : GroupingEnv) (key : Tagged → κ) (tagged : List Tagged)

/-- A saved pair proposes its legs. -/
def manualStage (mp : ManualPair) : Matching.Stage Tagged LivePair := fun out =>
  (mp.legs? tagged out).toList.map fun legs =>
    env.pair (Python.upper mp.symbol) true legs.1 legs.2

/-- A symbol proposes its candidates. -/
def autoStage (sym : String) : Matching.Stage Tagged LivePair := fun out =>
  (env.candidates tagged sym out).map fun c => env.pair sym false c.1 c.2

def stages (manual : List ManualPair) : List (Matching.Stage Tagged LivePair) :=
  manual.map (manualStage env tagged) ++
    (Grouping.keys Tagged.sym tagged).map (autoStage env tagged)

variable {env key tagged} {mp : ManualPair} {out out' : Tagged → Bool} {l s t : Tagged}
  {sym : String}

/-- A long leg of the saved pair. -/
def ManualPair.IsLong (mp : ManualPair) (t : Tagged) : Prop :=
  t.sym = Python.upper mp.symbol ∧ t.exchange = Python.lower mp.longExchange ∧ t.side = "buy"

/-- A short leg of the saved pair. -/
def ManualPair.IsShort (mp : ManualPair) (t : Tagged) : Prop :=
  t.sym = Python.upper mp.symbol ∧ t.exchange = Python.lower mp.shortExchange ∧ t.side = "sell"

theorem ManualPair.legs?_some (found : mp.legs? tagged out = some (l, s)) :
    (l ∈ tagged ∧ mp.IsLong l ∧ out l = false) ∧ s ∈ tagged ∧ mp.IsShort s ∧ out s = false := by
  unfold legs? at found
  dsimp only at found
  split at found
  case h_2 => cases found
  case h_1 l' s' long short =>
    cases found
    have longGroup := List.mem_filter.mp (List.mem_of_find?_eq_some long)
    have shortGroup := List.mem_filter.mp (List.mem_of_find?_eq_some short)
    have longOwn := List.find?_some long
    have shortOwn := List.find?_some short
    simp only [decide_eq_true_eq] at longGroup shortGroup
    simp only [decide_eq_true_eq, Bool.and_eq_true, Bool.not_eq_true'] at longOwn shortOwn
    exact ⟨⟨longGroup.1, ⟨longGroup.2, longOwn.1⟩, longOwn.2⟩,
      shortGroup.1, ⟨shortGroup.2, shortOwn.1⟩, shortOwn.2⟩

/-- Where a saved pair is not kept, all its longs or all its shorts are out. -/
theorem ManualPair.legs?_none (none : mp.legs? tagged out = none) :
    (∀ t ∈ tagged, mp.IsLong t → out t = true) ∨ ∀ t ∈ tagged, mp.IsShort t → out t = true := by
  unfold legs? at none
  dsimp only at none
  split at none
  case h_1 => cases none
  case h_2 missing =>
    by_contra left
    push Not at left
    obtain ⟨⟨l, lIn, long, lFree⟩, s, sIn, short, sFree⟩ := left
    have findLong : ∃ l', (tagged.filter fun t => t.sym = Python.upper mp.symbol).find? (fun t =>
        t.exchange = Python.lower mp.longExchange && t.side = "buy" && !out t) = some l' :=
      Option.isSome_iff_exists.mp (List.find?_isSome.mpr
        ⟨l, List.mem_filter.mpr ⟨lIn, decide_eq_true long.1⟩, by simp [long.2, lFree]⟩)
    have findShort : ∃ s', (tagged.filter fun t => t.sym = Python.upper mp.symbol).find? (fun t =>
        t.exchange = Python.lower mp.shortExchange && t.side = "sell" && !out t) = some s' :=
      Option.isSome_iff_exists.mp (List.find?_isSome.mpr
        ⟨s, List.mem_filter.mpr ⟨sIn, decide_eq_true short.1⟩, by simp [short.2, sFree]⟩)
    obtain ⟨l', foundLong⟩ := findLong
    obtain ⟨s', foundShort⟩ := findShort
    exact missing _ _ foundLong foundShort

theorem ManualPair.legs?_congr (same : ∀ t ∈ tagged, out t = out' t) :
    mp.legs? tagged out = mp.legs? tagged out' := by
  have find : ∀ p : Tagged → Bool, ∀ group : List Tagged, group ⊆ tagged →
      (group.find? fun t => p t && !out t) = group.find? fun t => p t && !out' t := by
    intro p group
    induction group with
    | nil => exact fun _ => rfl
    | cons t group ih =>
        intro inside
        rw [List.cons_subset] at inside
        rw [List.find?_cons, List.find?_cons, same t inside.1, ih inside.2]
  have group : (tagged.filter fun t => t.sym = Python.upper mp.symbol) ⊆ tagged :=
    List.filter_sublist.subset
  unfold legs?
  simp only [find _ _ group]

theorem GroupingEnv.mem_candidates :
    (l, s) ∈ env.candidates tagged sym out ↔
      (l ∈ tagged ∧ l.sym = sym ∧ l.side = "buy" ∧ out l = false) ∧
        (s ∈ tagged ∧ s.sym = sym ∧ s.side = "sell" ∧ out s = false) ∧
          (env.deviation l s).isSome = true := by
  simp only [candidates, List.mem_map, List.mem_insertionSort, List.mem_flatMap, List.mem_filterMap,
    List.mem_filter, Option.map_eq_some_iff, Prod.exists, Option.isSome_iff_exists,
    Bool.and_eq_true, decide_eq_true_eq, Bool.not_eq_true', and_assoc, Prod.mk.injEq]
  constructor
  · rintro ⟨d, l', s', ⟨l'', lIn, lSym, lSide, lFree, s'', sIn, sSym, sSide, sFree, d', found, rfl,
      rfl, rfl⟩, rfl, rfl⟩
    exact ⟨lIn, lSym, lSide, lFree, sIn, sSym, sSide, sFree, d', found⟩
  · rintro ⟨lIn, lSym, lSide, lFree, sIn, sSym, sSide, sFree, d, found⟩
    exact ⟨d, l, s, ⟨l, lIn, lSym, lSide, lFree, s, sIn, sSym, sSide, sFree, d, found, rfl, rfl,
      rfl⟩, rfl, rfl⟩

theorem GroupingEnv.candidates_congr (same : ∀ t ∈ tagged, out t = out' t) :
    env.candidates tagged sym out = env.candidates tagged sym out' := by
  have filter : ∀ side : String,
      ((tagged.filter fun t => t.sym = sym).filter fun t => t.side = side && !out t) =
        (tagged.filter fun t => t.sym = sym).filter fun t => t.side = side && !out' t := by
    intro side
    refine List.filter_congr fun t member => ?_
    rw [same t (List.mem_filter.mp member).1]
  unfold candidates
  simp only [filter]

theorem groupManual_eq_play (pairs : List LivePair) (mp : ManualPair) :
    groupManual env key tagged pairs mp =
      Matching.play LivePair.legs key pairs (manualStage env tagged mp) := by
  change _ = (manualStage env tagged mp (used key pairs)).foldl
    (Matching.choose LivePair.legs key) pairs
  unfold groupManual manualStage
  cases found : mp.legs? tagged (used key pairs) with
  | none => rfl
  | some legs =>
      obtain ⟨l, s⟩ := legs
      obtain ⟨⟨-, -, lFree⟩, -, -, sFree⟩ := ManualPair.legs?_some found
      unfold used at lFree sFree
      simp [Matching.choose, LivePair.legs, GroupingEnv.pair, lFree, sFree]

theorem groupAuto_eq_play (pairs : List LivePair) (sym : String) :
    groupAuto env key tagged pairs sym =
      Matching.play LivePair.legs key pairs (autoStage env tagged sym) := by
  change _ = (autoStage env tagged sym (used key pairs)).foldl
    (Matching.choose LivePair.legs key) pairs
  unfold groupAuto autoStage
  rw [List.foldl_map]
  refine List.foldl_ext _ _ _ fun pairs c _ => ?_
  simp [Matching.choose, LivePair.legs, GroupingEnv.pair, used]

theorem pairsBy_eq_run (manual : List ManualPair) :
    pairsBy env key tagged manual =
      Matching.run LivePair.legs key [] (stages env tagged manual) := by
  unfold pairsBy stages Matching.run
  rw [List.foldl_append, List.foldl_map, List.foldl_map]
  simp only [← groupManual_eq_play, ← groupAuto_eq_play]

/-! ## What a pair is made of -/

variable {pair : LivePair} {manual : List ManualPair} {pairs : List LivePair}

theorem LivePair.mem_legs : t ∈ pair.legs ↔ t = pair.long ∨ t = pair.short := by
  simp [legs]

/-- A buy and a sell of the symbol, each of the list. -/
structure LivePair.Matched (tagged : List Tagged) (pair : LivePair) : Prop where
  long : pair.long ∈ tagged ∧ pair.long.side = "buy" ∧ pair.long.sym = pair.symbol
  short : pair.short ∈ tagged ∧ pair.short.side = "sell" ∧ pair.short.sym = pair.symbol

theorem LivePair.Matched.long_of_buy (matched : pair.Matched tagged) (own : t ∈ pair.legs)
    (buy : t.side = "buy") : pair.long = t := by
  rcases LivePair.mem_legs.mp own with rfl | rfl
  · rfl
  · exact absurd (matched.short.2.1.symm.trans buy) (by decide)

theorem LivePair.Matched.short_of_sell (matched : pair.Matched tagged) (own : t ∈ pair.legs)
    (sell : t.side = "sell") : pair.short = t := by
  rcases LivePair.mem_legs.mp own with rfl | rfl
  · exact absurd (matched.long.2.1.symm.trans sell) (by decide)
  · rfl

/-- The saved pair is one of the pairs. -/
def ManualPair.IsPair (mp : ManualPair) (pair : LivePair) : Prop :=
  pair.manual = true ∧ mp.IsLong pair.long ∧ mp.IsShort pair.short

theorem manualStage_spec (proposed : pair ∈ manualStage env tagged mp out) :
    pair.Matched tagged ∧ mp.IsPair pair := by
  obtain ⟨⟨l, s⟩, found, rfl⟩ := List.mem_map.mp proposed
  obtain ⟨⟨lIn, long, -⟩, sIn, short, -⟩ :=
    ManualPair.legs?_some (Option.mem_toList.mp found)
  exact ⟨⟨⟨lIn, long.2.2, long.1⟩, sIn, short.2.2, short.1⟩, rfl, long, short⟩

theorem autoStage_matched (proposed : pair ∈ autoStage env tagged sym out) :
    pair.Matched tagged := by
  obtain ⟨⟨l, s⟩, candidate, rfl⟩ := List.mem_map.mp proposed
  obtain ⟨⟨lIn, lSym, lSide, -⟩, ⟨sIn, sSym, sSide, -⟩, -⟩ :=
    GroupingEnv.mem_candidates.mp candidate
  exact ⟨⟨lIn, lSide, lSym⟩, sIn, sSide, sSym⟩

theorem stages_matched {stage : Matching.Stage Tagged LivePair}
    (member : stage ∈ stages env tagged manual) (proposed : pair ∈ stage out) :
    pair.Matched tagged := by
  rcases List.mem_append.mp member with saved | auto
  · obtain ⟨mp, -, rfl⟩ := List.mem_map.mp saved
    exact (manualStage_spec proposed).1
  · obtain ⟨sym, -, rfl⟩ := List.mem_map.mp auto
    exact autoStage_matched proposed

theorem stages_within {stage : Matching.Stage Tagged LivePair}
    (member : stage ∈ stages env tagged manual) : Matching.Within LivePair.legs tagged stage where
  reads t t' same := by
    rcases List.mem_append.mp member with saved | auto
    · obtain ⟨mp, -, rfl⟩ := List.mem_map.mp saved
      unfold manualStage
      rw [ManualPair.legs?_congr same]
    · obtain ⟨sym, -, rfl⟩ := List.mem_map.mp auto
      unfold autoStage
      rw [GroupingEnv.candidates_congr same]
  items t pair proposed leg own := by
    have matched := stages_matched member proposed
    rcases LivePair.mem_legs.mp own with rfl | rfl
    · exact matched.long.1
    · exact matched.short.1

variable (env key tagged manual) in
theorem pairsBy_matched : ∀ pair ∈ pairsBy env key tagged manual, pair.Matched tagged := by
  intro pair member
  rw [pairsBy_eq_run] at member
  obtain ⟨stage, known, out, proposed⟩ := Matching.proposed_of_mem_run member
  exact stages_matched known proposed

variable (env key tagged manual) in
theorem pairsBy_apart :
    (pairsBy env key tagged manual).Pairwise (Matching.Apart LivePair.legs key) := by
  rw [pairsBy_eq_run]
  exact Matching.pairwise_run _

/-! ## The two lists -/

/-- The saved pair is kept together, or all positions that can be its long, or all that can be its
short, are in other saved pairs. -/
def ManualPair.Together (mp : ManualPair) (tagged : List Tagged) (pairs : List LivePair) : Prop :=
  (∃ pair ∈ pairs, mp.IsPair pair) ∨
    (∀ t ∈ tagged, mp.IsLong t → ∃ pair ∈ pairs, pair.manual = true ∧ pair.long = t) ∨
      ∀ t ∈ tagged, mp.IsShort t → ∃ pair ∈ pairs, pair.manual = true ∧ pair.short = t

/-- Every position is once in a pair or a single; a pair is a buy and a sell of one symbol; the saved
pairs are kept together; and no two singles pass the matching criteria. -/
structure Grouped.Partitions (env : GroupingEnv) (tagged : List Tagged) (manual : List ManualPair)
    (g : Grouped) : Prop where
  once : (g.pairs.flatMap LivePair.legs ++ g.singles).Perm tagged
  matched : ∀ pair ∈ g.pairs, pair.Matched tagged
  saved : ∀ mp ∈ manual, mp.Together tagged g.pairs
  maximal : ∀ l ∈ g.singles, ∀ s ∈ g.singles, l.side = "buy" → s.side = "sell" → l.sym = s.sym →
    env.deviation l s = none

/-- The pairs, and as singles the positions that are not out. -/
def groupBy (env : GroupingEnv) (key : Tagged → κ) (tagged : List Tagged)
    (manual : List ManualPair) : Grouped :=
  ⟨pairsBy env key tagged manual,
    tagged.filter fun t => !used key (pairsBy env key tagged manual) t⟩

theorem mem_singles : t ∈ (groupBy env key tagged manual).singles ↔
    t ∈ tagged ∧ used key (pairsBy env key tagged manual) t = false := by
  simp [groupBy]

theorem groupBy_maximal (key : Tagged → κ) (manual : List ManualPair)
    (lSingle : l ∈ (groupBy env key tagged manual).singles)
    (sSingle : s ∈ (groupBy env key tagged manual).singles) (buy : l.side = "buy")
    (sell : s.side = "sell") (same : l.sym = s.sym) : env.deviation l s = none := by
  obtain ⟨lIn, lFree⟩ := mem_singles.mp lSingle
  obtain ⟨sIn, sFree⟩ := mem_singles.mp sSingle
  by_contra passes
  have stage : autoStage env tagged l.sym ∈ stages env tagged manual :=
    List.mem_append_right _ (List.mem_map_of_mem
      (List.mem_eraseDups.mpr (List.mem_map_of_mem lIn)))
  have offers : Matching.Offers LivePair.legs (autoStage env tagged l.sym)
      (env.pair l.sym false l s) := by
    intro out free
    refine List.mem_map.mpr ⟨(l, s), GroupingEnv.mem_candidates.mpr ?_, rfl⟩
    exact ⟨⟨lIn, rfl, buy, free l (LivePair.mem_legs.mpr (Or.inl rfl))⟩,
      ⟨sIn, same.symm, sell, free s (LivePair.mem_legs.mpr (Or.inr rfl))⟩,
      Option.isSome_iff_ne_none.mpr passes⟩
  obtain ⟨t, own, taken⟩ := Matching.takes_of_offers key [] stage offers
    (List.cons_ne_nil _ _)
  rw [← pairsBy_eq_run] at taken
  rcases LivePair.mem_legs.mp own with rfl | rfl
  · exact absurd (lFree.symm.trans taken) Bool.false_ne_true
  · exact absurd (sFree.symm.trans taken) Bool.false_ne_true

variable (env key tagged manual) in
theorem nodup_pairLegs : ((pairsBy env key tagged manual).flatMap LivePair.legs).Nodup := by
  have matched := pairsBy_matched env key tagged manual
  refine List.nodup_flatMap.mpr ⟨fun pair member => ?_, ?_⟩
  · have sides : pair.long ≠ pair.short := by
      intro same
      have buy := (matched pair member).long.2.1
      rw [same, (matched pair member).short.2.1] at buy
      exact absurd buy (by decide)
    simpa [LivePair.legs] using sides
  · exact (pairsBy_apart env key tagged manual).imp fun apart t own other =>
      apart t own t other rfl

/-- Nothing is lost exactly if only the legs of pairs are out. -/
theorem groupBy_once_iff (nodup : tagged.Nodup) :
    ((groupBy env key tagged manual).pairs.flatMap LivePair.legs ++
      (groupBy env key tagged manual).singles).Perm tagged ↔
        Matching.Kept LivePair.legs key tagged (pairsBy env key tagged manual) := by
  have matched := pairsBy_matched env key tagged manual
  constructor
  · intro once t member out
    rcases List.mem_append.mp (once.mem_iff.mpr member) with leg | single
    · exact List.mem_flatMap.mp leg
    · exact absurd ((mem_singles.mp single).2.symm.trans out) Bool.false_ne_true
  · intro kept
    have legs := nodup_pairLegs env key tagged manual
    refine (List.perm_ext_iff_of_nodup (List.nodup_append.mpr ⟨legs, nodup.filter _, ?_⟩) nodup).mpr
      fun t => ?_
    · rintro t leg _ single rfl
      obtain ⟨pair, member, own⟩ := List.mem_flatMap.mp leg
      have out : used key (pairsBy env key tagged manual) t = true :=
        Matching.taken_of_mem member own
      exact absurd ((mem_singles.mp single).2.symm.trans out) Bool.false_ne_true
    · rw [List.mem_append, List.mem_flatMap]
      refine (or_congr_right mem_singles).trans ?_
      constructor
      · rintro (⟨pair, member, own⟩ | single)
        · rcases LivePair.mem_legs.mp own with rfl | rfl
          · exact (matched pair member).long.1
          · exact (matched pair member).short.1
        · exact single.1
      · intro member
        cases out : used key (pairsBy env key tagged manual) t with
        | true => exact Or.inl (kept t member out)
        | false => exact Or.inr ⟨member, rfl⟩

theorem groupBy_saved (kept : Matching.Kept LivePair.legs key tagged
    (pairsBy env key tagged manual)) (member : mp ∈ manual) :
    mp.Together tagged (pairsBy env key tagged manual) := by
  have apart := pairsBy_apart env key tagged manual
  obtain ⟨before, after, rfl⟩ := List.append_of_mem member
  let earlier := Matching.run LivePair.legs key [] (before.map (manualStage env tagged))
  have next : groupManual env key tagged earlier mp <+:
      pairsBy env key tagged (before ++ mp :: after) := by
    rw [pairsBy_eq_run, groupManual_eq_play]
    unfold stages
    rw [List.map_append, List.append_assoc, List.map_cons, List.cons_append]
    unfold Matching.run
    rw [List.foldl_append, List.foldl_cons]
    exact Matching.prefix_run _ _
  have start : earlier <+: pairsBy env key tagged (before ++ mp :: after) := by
    refine List.IsPrefix.trans ?_ next
    rw [groupManual_eq_play]
    exact Matching.prefix_play _ _
  have own : ∀ t ∈ tagged, used key earlier t = true →
      ∃ pair ∈ pairsBy env key tagged (before ++ mp :: after),
        pair.manual = true ∧ pair.Matched tagged ∧ t ∈ pair.legs := by
    intro t known out
    obtain ⟨pair, made, leg⟩ := kept.of_prefix apart start t known out
    obtain ⟨stage, saved, out', proposed⟩ := Matching.proposed_of_mem_run made
    obtain ⟨mp', -, rfl⟩ := List.mem_map.mp saved
    have spec := manualStage_spec proposed
    exact ⟨pair, start.subset made, spec.2.1, spec.1, leg⟩
  unfold groupManual at next
  cases found : mp.legs? tagged (used key earlier) with
  | some legs =>
      obtain ⟨l, s⟩ := legs
      rw [found] at next
      obtain ⟨⟨-, long, -⟩, -, short, -⟩ := ManualPair.legs?_some found
      exact Or.inl ⟨_, next.subset (List.mem_append_right _ List.mem_cons_self), rfl, long, short⟩
  | none =>
      rcases ManualPair.legs?_none found with longs | shorts
      · refine Or.inr (Or.inl fun t known long => ?_)
        obtain ⟨pair, made, saved, matched, leg⟩ := own t known (longs t known long)
        exact ⟨pair, made, saved, matched.long_of_buy leg long.2.2⟩
      · refine Or.inr (Or.inr fun t known short => ?_)
        obtain ⟨pair, made, saved, matched, leg⟩ := own t known (shorts t known short)
        exact ⟨pair, made, saved, matched.short_of_sell leg short.2.2⟩

/-- The grouping is a partition exactly if only the legs of pairs are out. -/
theorem groupBy_partitions_iff (nodup : tagged.Nodup) :
    (groupBy env key tagged manual).Partitions env tagged manual ↔
      Matching.Kept LivePair.legs key tagged (pairsBy env key tagged manual) :=
  ⟨fun partitions => (groupBy_once_iff nodup).mp partitions.once, fun kept =>
    { once := (groupBy_once_iff nodup).mpr kept
      matched := pairsBy_matched env key tagged manual
      saved := fun _ member => groupBy_saved kept member
      maximal := fun _ lSingle _ sSingle buy sell same =>
        groupBy_maximal key manual lSingle sSingle buy sell same }⟩

end Stages

/-! ## Keys that collide -/

theorem tag_nodup (positions : List LivePosition) : (tag positions).Nodup := by
  refine List.Nodup.of_map Tagged.index ?_
  have places : (tag positions).map Tagged.index = List.range positions.length := by
    refine List.ext_getElem (by simp [tag]) fun i _ _ => ?_
    simp [tag]
  rw [places]
  exact List.nodup_range

/-- In the pairs that come of positions known each by itself, a pair that has a position has every
position with the same key. -/
def KeysApart (env : GroupingEnv) (positions : List LivePosition) (manual : List ManualPair) :
    Prop :=
  ∀ pair ∈ pairsBy env id (tag positions) manual, ∀ t ∈ pair.legs, ∀ u ∈ tag positions,
    t.key = u.key → u ∈ pair.legs

/-- The grouping is a partition exactly if no position that should be paired has the key of one that
is not in the pair. -/
theorem groupLivePositions_partitions_iff (env : GroupingEnv) (positions : List LivePosition)
    (manual : List ManualPair) :
    (env.groupLivePositions positions manual).Partitions env (tag positions) manual ↔
      KeysApart env positions manual := by
  have kept : Matching.Kept LivePair.legs Tagged.key (tag positions)
      (pairsBy env Tagged.key (tag positions) manual) ↔ KeysApart env positions manual := by
    unfold KeysApart
    rw [pairsBy_eq_run, pairsBy_eq_run]
    exact Matching.kept_run_iff fun stage member => stages_within member
  exact (groupBy_partitions_iff (tag_nodup positions)).trans kept

/-- A long on binance and one on bybit, with one short on okx. -/
def twoLongs : List LivePosition :=
  [{ exchange := some "binance", symbol := some "BTC", side := some "buy", quantity := .number 1
     entryPrice := .number 100, markPrice := .number 100, positionId := some "BTCUSDT" },
   { exchange := some "bybit", symbol := some "BTC", side := some "buy", quantity := .number 1
     entryPrice := .number 100, markPrice := .number 100, positionId := some "BTCUSDT" },
   { exchange := some "okx", symbol := some "BTC", side := some "sell", quantity := .number 1
     entryPrice := .number 100, markPrice := .number 100, positionId := some "BTC-USDT-SWAP" }]

/-- The long on bybit is in neither list. -/
theorem second_long_is_lost :
    ((GroupingEnv.groupLivePositions {} twoLongs []).pairs.map fun pair =>
      (pair.long.exchange, pair.short.exchange)) = [("binance", "okx")] ∧
      (GroupingEnv.groupLivePositions {} twoLongs []).singles = [] ∧
      ¬(GroupingEnv.groupLivePositions {} twoLongs []).Partitions {} (tag twoLongs) [] := by
  have pairs : ((GroupingEnv.groupLivePositions {} twoLongs []).pairs.map fun pair =>
      (pair.long.exchange, pair.short.exchange)) = [("binance", "okx")] := by decide +kernel
  have singles : (GroupingEnv.groupLivePositions {} twoLongs []).singles = [] := by decide +kernel
  refine ⟨pairs, singles, fun partitions => ?_⟩
  have lengths : ((GroupingEnv.groupLivePositions {} twoLongs []).pairs.flatMap LivePair.legs ++
      (GroupingEnv.groupLivePositions {} twoLongs []).singles).length = 2 := by decide +kernel
  rw [partitions.once.length_eq] at lengths
  cases lengths

end Avalant
