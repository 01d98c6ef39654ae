import Avalant.Ws.InOut

/-!
The rows that the in/out patcher pushes, against the table of the long-short channel.
-/

namespace Avalant

open Replica Transition

namespace InOut

section

variable {V : Type} {values : Numbers V}

/-! ## What the index holds -/

theorem lastOf_map {K R S : Type} [DecidableEq K] (f : R → S) (rows : List (K × R)) (k : K) :
    lastOf (rows.map fun row => (row.1, f row.2)) k = (lastOf rows k).map f := by
  unfold lastOf
  rw [← List.map_reverse, List.find?_map, Option.map_map, Option.map_map]
  rfl

theorem lastOf_eq_none {K R : Type} [DecidableEq K] {rows : List (K × R)} {k : K}
    (absent : ∀ row ∈ rows, row.1 ≠ k) : lastOf rows k = none := by
  cases found : lastOf rows k with
  | none => rfl
  | some r => exact absurd rfl (absent (k, r) (mem_of_lastOf found))

/-- The entries of some rows of a file. -/
def entriesOf (values : Numbers V) (mode : Mode) (rows : List (Row V)) :
    List (String × (Row V × Mode)) :=
  (Feed.keyed (indexKey values mode) rows).map fun row => (row.1, (row.2, mode))

/-- A loop that puts each row of a file that has a key. -/
theorem foldl_pairs {load : Index V → Row V → Index V} {mode : Mode}
    (skipped : ∀ index opp, indexKey values mode opp = none → load index opp = index)
    (loaded : ∀ index opp k, indexKey values mode opp = some k →
      (load index opp).pairs = index.pairs.insert k (opp, mode))
    (rows : List (Row V)) (index : Index V) :
    (rows.foldl load index).pairs = upsert index.pairs (entriesOf values mode rows) := by
  induction rows generalizing index with
  | nil => rfl
  | cons opp rows ih =>
      rw [List.foldl_cons, ih]
      unfold entriesOf Feed.keyed
      cases known : indexKey values mode opp with
      | none =>
          rw [skipped index opp known, List.filterMap_cons_none]
          rw [known]
          rfl
      | some k =>
          rw [loaded index opp k known, List.filterMap_cons_some (b := (k, opp))]
          · rfl
          · rw [known]
            rfl

theorem foldl_loadBothSides (mode : Mode) (rows : List (Row V)) (index : Index V) :
    (rows.foldl (loadBothSides values mode) index).pairs =
      upsert index.pairs (entriesOf values mode rows) := by
  refine foldl_pairs (fun index opp missing => ?_) (fun index opp k known => ?_) rows index
  · unfold loadBothSides
    rw [missing]
  · unfold loadBothSides
    rw [known]
    rfl

theorem foldl_loadShortOnly (mode : Mode) (rows : List (Row V)) (index : Index V) :
    (rows.foldl (loadShortOnly values mode) index).pairs =
      upsert index.pairs (entriesOf values mode rows) := by
  refine foldl_pairs (fun index opp missing => ?_) (fun index opp k known => ?_) rows index
  · unfold loadShortOnly
    rw [missing]
  · unfold loadShortOnly
    rw [known]
    rfl

/-- A file without a row of a key leaves the entry of it. -/
theorem lastOf_entriesOf_eq_none {mode : Mode} {rows : List (Row V)} {k : String}
    (absent : ∀ opp ∈ rows, indexKey values mode opp ≠ some k) :
    lastOf (entriesOf values mode rows) k = none := by
  refine lastOf_eq_none fun entry member => ?_
  obtain ⟨row, keyed, rfl⟩ := List.mem_map.mp member
  obtain ⟨known, stored⟩ := Feed.mem_keyed.mp keyed
  intro same
  exact absent row.2 known (by rw [stored, ← same])

/-- Under a clear key the index holds the row that the channel publishes. -/
theorem lookup_refreshIndex [DecidableEq V] {t : ArbTables V} {k : String}
    (clear : Clear values t k) :
    (refreshIndex values t).pairs.lookup k =
      ((published values t).lookup k).map fun row => (row, Mode.futures) := by
  obtain ⟨noSpot, noDex, -⟩ := clear
  have futures : (published values t).lookup k =
      lastOf (Feed.keyed (indexKey values .futures) t.futures) k := by
    unfold published Feed.byKey
    rw [lookup_upsert, AList.lookup_empty, Option.or_none]
    rfl
  unfold refreshIndex
  rw [foldl_loadShortOnly, lookup_upsert, foldl_loadBothSides, lookup_upsert, foldl_loadBothSides,
    lookup_upsert, lastOf_entriesOf_eq_none noDex, lastOf_entriesOf_eq_none noSpot, Option.none_or,
    Option.none_or]
  unfold entriesOf
  rw [lastOf_map fun row => (row, Mode.futures), futures]
  exact Option.or_none

/-! ## What is pushed -/

theorem text_patched {opp : Row V} {value : Option InOutPct} {field : String}
    (kept : field ≠ "_mode" ∧ field ≠ "in_pct" ∧ field ≠ "out_pct") :
    text values.toValues (Patcher.patched values opp value) field = text values.toValues opp field := by
  unfold text Patcher.patched
  rw [if_neg kept.1, if_neg kept.2.1, if_neg kept.2.2]

theorem arbKey_patched (opp : Row V) (value : Option InOutPct) :
    arbKey values.toValues (Patcher.patched values opp value) = arbKey values.toValues opp := by
  have symbol : text values.toValues (Patcher.patched values opp value) "symbol" =
      text values.toValues opp "symbol" := text_patched (by decide)
  have long : text values.toValues (Patcher.patched values opp value) "long_exchange" =
      text values.toValues opp "long_exchange" := text_patched (by decide)
  have short : text values.toValues (Patcher.patched values opp value) "short_exchange" =
      text values.toValues opp "short_exchange" := text_patched (by decide)
  unfold arbKey rowKey arbKeyFields
  simp only [List.mem_cons, List.not_mem_nil, or_false, exists_eq_or_imp, exists_eq_left,
    List.map_cons, List.map_nil, symbol, long, short]

theorem carries_patched (opp : Row V) (value : Option InOutPct) :
    Carries values (Patcher.patched values opp value) value :=
  ⟨rfl, rfl⟩

/-! ## The invariant -/

/-- The values under a sticky key were given by the books of the published rows that have it. -/
def StickySound [DecidableEq V] (values : Numbers V) (t : ArbTables V) (s : Patcher V) : Prop :=
  ∀ key e, s.sticky.lookup key = some e → e.time ≤ s.now ∧
    ∀ k row, (published values t).lookup k = some row → (legsOf values row).stickyKey = key →
      ∃ books, (e.time, books) ∈ s.past ∧ quotePair books (legsOf values row) = some e.value

structure Inv [DecidableEq V] (values : Numbers V) (t : ArbTables V) (s : Patcher V) : Prop where
  index : s.index = {} ∨ s.index = refreshIndex values t
  current : (s.now, s.books) ∈ s.past
  sticky : StickySound values t s
  pushed : OnlyPublished values t s

theorem FromBooks.mono {past past' : List (Nat × Cache.Store)} {legs : Legs} {value : InOutPct}
    {now : Nat} (grown : ∀ moment ∈ past, moment ∈ past')
    (given : FromBooks past legs value now) : FromBooks past' legs value now := by
  obtain ⟨moment, member, rest⟩ := given
  exact ⟨moment, grown moment member, rest⟩

/-- A computation leaves the rest of the patcher. -/
theorem computeInOut_frame (s : Patcher V) (legs : Legs) :
    (s.computeInOut legs).2 = { s with sticky := (s.computeInOut legs).2.sticky } := by
  unfold Patcher.computeInOut
  split
  · rfl
  · rfl

variable [DecidableEq V] {t : ArbTables V} {s s' : Patcher V} {legs : Legs}

/-- Time and books may move on. -/
theorem Inv.moveOn (inv : Inv values t s) (index : s'.index = s.index)
    (current : (s'.now, s'.books) ∈ s'.past) (sticky : s'.sticky = s.sticky)
    (pushed : s'.pushed = s.pushed) (later : s.now ≤ s'.now)
    (grown : ∀ moment ∈ s.past, moment ∈ s'.past) : Inv values t s' := by
  refine ⟨?_, current, ?_, ?_⟩
  · rw [index]
    exact inv.index
  · intro key e found
    rw [sticky] at found
    obtain ⟨earlier, sound⟩ := inv.sticky key e found
    refine ⟨Nat.le_trans earlier later, fun k row known same => ?_⟩
    obtain ⟨books, member, given⟩ := sound k row known same
    exact ⟨books, grown _ member, given⟩
  · intro push member
    rw [pushed] at member
    obtain ⟨k, row, keyed, known, carries, given⟩ := inv.pushed push member
    exact ⟨k, row, keyed, known, carries, fun value own => (given value own).mono grown⟩

theorem Inv.setBooks (inv : Inv values t s) (books : Cache.Store) :
    Inv values t (s.setBooks books) := by
  refine inv.moveOn rfl ?_ rfl rfl (Nat.le_refl _) fun moment member => ?_
  · exact List.mem_append_right _ List.mem_cons_self
  · exact List.mem_append_left _ member

/-- Values that the books give now are put under their key. -/
theorem Inv.put (inv : Inv values t s) {key : String} {value : InOutPct}
    (own : ∀ k row, (published values t).lookup k = some row →
      (legsOf values row).stickyKey = key → quotePair s.books (legsOf values row) = some value) :
    Inv values t (s.put key value) := by
  refine ⟨inv.index, inv.current, ?_, inv.pushed⟩
  intro key' e found
  unfold Patcher.put at found
  by_cases same : key' = key
  · subst same
    rw [AList.lookup_insert] at found
    obtain rfl := Option.some.inj found
    refine ⟨Nat.le_refl _, fun k row known keyed => ?_⟩
    exact ⟨s.books, inv.current, own k row known keyed⟩
  · rw [AList.lookup_insert_ne same] at found
    exact inv.sticky key' e found

theorem Inv.computeInOut (inv : Inv values t s) (apart : Apart values t legs) :
    Inv values t (s.computeInOut legs).2 := by
  unfold Patcher.computeInOut
  split
  case h_1 value given =>
    refine inv.put fun k row known keyed => ?_
    rw [apart k row known keyed]
    exact given
  case h_2 => exact inv

theorem Inv.computeInOutDex (inv : Inv values t s) {shortEx symbol : String}
    (apart : ∀ k row, (published values t).lookup k = some row →
      (legsOf values row).stickyKey ≠ dexStickyKey shortEx symbol) (dexPrice : ℚ) :
    Inv values t (s.computeInOutDex shortEx symbol dexPrice).2 := by
  unfold Patcher.computeInOutDex
  split
  · exact inv
  · split
    case h_1 => exact inv.put fun k row known keyed => absurd keyed (apart k row known)
    case h_2 => exact inv

/-- What is computed for a published row comes from the books of its legs. -/
theorem Inv.fromBooks (inv : Inv values t s) {k : String} {row : Row V}
    (known : (published values t).lookup k = some row) {value : InOutPct}
    (computed : (s.computeInOut (legsOf values row)).1 = some value) :
    FromBooks s.past (legsOf values row) value s.now := by
  unfold Patcher.computeInOut at computed
  split at computed
  case h_1 given =>
    obtain rfl := Option.some.inj computed
    exact ⟨_, inv.current, Nat.le_refl _, Nat.le_add_right _ _, given⟩
  case h_2 =>
    dsimp only [Patcher.lastGood] at computed
    split at computed
    case h_1 e found =>
      split at computed
      · cases computed
      case isFalse recent =>
        obtain rfl := Option.some.inj computed
        obtain ⟨earlier, sound⟩ := inv.sticky _ e found
        obtain ⟨books, member, given⟩ := sound k row known rfl
        exact ⟨_, member, earlier, by dsimp only; omega, given⟩
    · cases computed

/-! ## One book -/

theorem Inv.patch (inv : Inv values t s) {k : String} (clear : Clear values t k) :
    Inv values t (s.patch values k) ∧ (s.patch values k).index = s.index := by
  unfold Patcher.patch
  split
  · exact ⟨inv, rfl⟩
  case h_2 opp mode found =>
    have indexed : s.index = refreshIndex values t := by
      rcases inv.index with empty | full
      · rw [empty] at found
        cases found
      · exact full
    rw [indexed, lookup_refreshIndex clear] at found
    obtain ⟨row, known, same⟩ := Option.map_eq_some_iff.mp found
    obtain ⟨rfl, rfl⟩ := Prod.mk.inj same
    have legs : s.inOut values row .futures = s.computeInOut (legsOf values row) := rfl
    rw [legs]
    have kept := inv.computeInOut (clear.2.2 row known)
    have frame := computeInOut_frame s (legsOf values row)
    have computed : ∀ value, (s.computeInOut (legsOf values row)).1 = some value →
        FromBooks s.past (legsOf values row) value s.now := fun _ => inv.fromBooks known
    generalize s.computeInOut (legsOf values row) = result at kept frame computed
    obtain ⟨value, after⟩ := result
    dsimp only at kept frame computed ⊢
    split
    · rw [frame]
      exact ⟨frame ▸ kept, rfl⟩
    · refine ⟨⟨kept.index, kept.current, kept.sticky, ?_⟩, by rw [frame]⟩
      intro push member
      rcases List.mem_append.mp member with old | new
      · exact kept.pushed push old
      · rw [List.mem_singleton.mp new]
        have keyed : arbKey values.toValues row = some k := (Feed.mem_of_byKey known).2
        refine ⟨k, row, ?_, known, carries_patched row value, fun v own => ?_⟩
        · rw [arbKey_patched]
          exact keyed
        · rw [frame]
          exact computed v own

theorem Inv.patches (inv : Inv values t s) {keys : List String}
    (clear : ∀ k ∈ keys, Clear values t k) : Inv values t (keys.foldl (Patcher.patch values) s) := by
  induction keys generalizing s with
  | nil => exact inv
  | cons k keys ih =>
      rw [List.foldl_cons]
      refine ih (inv.patch (clear k List.mem_cons_self)).1 fun k' later => ?_
      exact clear k' (List.mem_cons_of_mem _ later)

theorem Inv.onBookUpdate (inv : Inv values t s) {pair : Pair}
    (clear : s.viewers ≠ 0 → ∀ k ∈ (refreshIndex values t).keysOf pair, Clear values t k) :
    Inv values t (s.onBookUpdate values pair) := by
  unfold Patcher.onBookUpdate
  split
  · exact inv
  case isFalse viewed =>
    refine inv.patches fun k member => ?_
    rcases inv.index with empty | full
    · rw [empty] at member
      cases member
    · rw [full] at member
      exact clear viewed k member

/-! ## Runs -/

theorem preserves_inv : Preserves (Patcher.step values t) (Covered values t) (Inv values t) := by
  intro s act s' inv covered stepped
  cases act with
  | book pair depth source =>
      obtain rfl := Option.some.inj stepped
      exact (inv.setBooks _).onBookUpdate covered
  | touch pair =>
      obtain rfl := Option.some.inj stepped
      exact inv.setBooks _
  | prune idle =>
      obtain rfl := Option.some.inj stepped
      exact inv.setBooks _
  | evictStale staleAfter =>
      obtain rfl := Option.some.inj stepped
      exact inv.setBooks _
  | pass elapsed =>
      obtain rfl := Option.some.inj stepped
      refine inv.moveOn rfl ?_ rfl rfl (Nat.le_add_right _ _) fun moment member => ?_
      · exact List.mem_append_right _ List.mem_cons_self
      · exact List.mem_append_left _ member
  | connect =>
      obtain rfl := Option.some.inj stepped
      exact inv.moveOn rfl inv.current rfl rfl (Nat.le_refl _) fun _ member => member
  | disconnect =>
      dsimp only [Patcher.step] at stepped
      split at stepped
      · cases stepped
      · obtain rfl := Option.some.inj stepped
        exact inv.moveOn rfl inv.current rfl rfl (Nat.le_refl _) fun _ member => member
  | refresh =>
      obtain rfl := Option.some.inj stepped
      exact ⟨Or.inr rfl, inv.current, inv.sticky, inv.pushed⟩
  | compute legs =>
      obtain rfl := Option.some.inj stepped
      exact inv.computeInOut covered
  | computeDex shortEx symbol dexPrice =>
      obtain rfl := Option.some.inj stepped
      exact inv.computeInOutDex covered dexPrice

theorem inv_init : Inv values t {} := by
  refine ⟨Or.inl rfl, List.mem_cons_self, ?_, ?_⟩
  · intro key e found
    cases found
  · intro push member
    cases member

theorem alwaysOnlyPublished_covered (values : Numbers V) (t : ArbTables V) :
    AlwaysOnlyPublished values t (Covered values t) := fun _ run =>
  (run.invariant preserves_inv inv_init).pushed

end

/-! ## Rows that the channel does not publish -/

/-- Values that are strings or numbers. -/
def jsonValues : Numbers (String ⊕ ℚ) where
  asString := Sum.getLeft?
  isMap _ := false
  isSlice _ := false
  template v := v.elim id fun _ => ""
  template_eq v s same := by
    cases v with
    | inl text =>
        cases same
        rfl
    | inr => cases same
  asNumber := Sum.getRight?
  number := Sum.inr

def opportunity (longField longEx shortEx : String) : Row (String ⊕ ℚ) := fun field =>
  if field = "symbol" then some (.inl "BTC")
  else if field = longField then some (.inl longEx)
  else if field = "short_exchange" then some (.inl shortEx)
  else none

/-- A futures row and a spot row of the same venues. -/
def bothKinds : ArbTables (String ⊕ ℚ) where
  futures := [opportunity "long_exchange" "binance" "bybit"]
  spot := [opportunity "spot_exchange" "binance" "bybit"]

/-- A book of one bid and one ask. -/
def depthAt (bid ask : ℚ) : Depth := ⟨[(bid, 1)], [(ask, 1)]⟩

/-- The spot book, the short book, and then the futures book of the long venue. -/
def spotRun : List Act :=
  [.refresh, .connect, .book ⟨"binance_spot", "BTC"⟩ (depthAt 99 100) "ws",
    .book ⟨"bybit", "BTC"⟩ (depthAt 101 102) "ws", .book ⟨"binance", "BTC"⟩ (depthAt 98 99) "ws"]

/-- The channel publishes the futures row, and the spot row is pushed in its place. -/
theorem alwaysOnlyPublished_broken :
    ¬AlwaysOnlyPublished jsonValues bothKinds fun _ _ => True := by
  intro always
  have pushes : ((exec (Patcher.step jsonValues bothKinds) {} spotRun).map fun s =>
      s.pushed.map fun push => (arbKey jsonValues.toValues push.row, push.value.isSome)) =
        some [(none, true)] := by
    decide +kernel
  obtain ⟨s, ran, view⟩ := Option.map_eq_some_iff.mp pushes
  obtain ⟨push, only, shown⟩ := List.map_eq_singleton_iff.mp view
  have member : push ∈ s.pushed := by
    rw [only]
    exact List.mem_singleton_self push
  obtain ⟨k, row, keyed, -⟩ := always s (Run.of_exec ran) push member
  rw [(Prod.mk.inj shown).1] at keyed
  cases keyed

end InOut

end Avalant
