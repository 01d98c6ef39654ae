import Avalant.Db.Models
import Avalant.Exchange.Manager
import Avalant.Lib.Run

/-!
How the pairs that somebody waits for come to be subscribed, from
`watchlist_subscribe_dump.py` to the symbol manager.

Every web process collects the pairs of the watchlists and of the active triggers,
with three queries, and replaces one file with them. The fetcher reads the file
with the files of the tables, sets the prewarm lists of its venues, and reconciles.
Any of it may happen in between, and a slow web process may put an old list over a
newer one.

The numbers of the lists are for the statements.
-/

namespace Avalant

open Transition

namespace Watchlist

open Exchange (Venue)

/-! ## The dump -/

structure WatchlistItem where
  symbol : String
  longExchange : String
  shortExchange : String
  mode : String

/-- The tables it reads. -/
structure Db where
  watchlist : List WatchlistItem
  orders : List ArbTriggerOrder
  positions : List ArbPosition

/-- An entry of the file. -/
structure SubscribePair where
  symbol : String
  longExchange : String
  shortExchange : String
  deriving DecidableEq

/-- A row of a query: a symbol and two venues. -/
abbrev Row := Option String × Option String × Option String

/-- The queries of `_collect`. -/
inductive Query
  | watchlist
  /-- Triggers with both venues. -/
  | triggers
  /-- The positions of triggers. -/
  | positions
  deriving DecidableEq

def Query.rows (db : Db) : Query → List Row
  | .watchlist =>
      (db.watchlist.filter fun w => !"dex".toList.isPrefixOf w.mode.toList).map fun w =>
        (some w.symbol, some w.longExchange, some w.shortExchange)
  | .triggers =>
      (db.orders.filter fun o =>
          o.status.active && o.longExchange.isSome && o.shortExchange.isSome).map fun o =>
        (o.longSymbol, o.longExchange, o.shortExchange)
  | .positions =>
      (db.positions.filter fun p =>
          db.orders.any fun o => o.arbPositionId == some p.id && o.status.active).map fun p =>
        (some p.longSymbol, some p.longExchange, some p.shortExchange)

/-- The key of a row that has all three. -/
def key? (row : Row) : Option SubscribePair :=
  match Python.nonEmpty row.1, Python.nonEmpty row.2.1, Python.nonEmpty row.2.2 with
  | some sym, some le, some se => some ⟨Python.upper sym, Python.lower le, Python.lower se⟩
  | _, _, _ => none

/-- `_add`. -/
def add (out : List SubscribePair) (row : Row) : List SubscribePair :=
  match key? row with
  | some key => if key ∈ out then out else out ++ [key]
  | none => out

/-- A dump of one web process: the queries it has still to make. -/
structure Dump where
  no : Nat
  todo : List Query
  out : List SubscribePair

/-! ## The fetcher -/

/-- The venues of a pair. The long leg may be a spot market. -/
def SubscribePair.legs (p : SubscribePair) : List (String × String) :=
  [(p.longExchange, p.symbol), (p.longExchange ++ "_spot", p.symbol), (p.shortExchange, p.symbol)]

/-- What `PrewarmFromArbFiles` has read: a venue and a symbol each, none of them empty. -/
structure Reading where
  per : List (String × String)
  no : Option Nat

def Reading.symbols (r : Reading) (venue : String) : List String :=
  (r.per.filter fun leg => leg.1 = venue).map Prod.snd

structure System where
  db : Db
  nextNo : Nat := 0
  dumps : List Dump := []
  /-- `watchlist_subscribe.json`. -/
  file : List SubscribePair := []
  fileNo : Option Nat := none
  reading : Option Reading := none
  venues : String → Venue := fun _ => Venue.initial
  prewarmNo : Option Nat := none
  appliedNo : Option Nat := none

inductive Act
  | change (db : Db)
  | start
  | query (dump : Nat)
  | write (dump : Nat)
  | fail (dump : Nat)
  /-- The legs of the tables are read with the file. -/
  | read (tables : List (String × String))
  | apply
  | touch (venue symbol : String) (now : Instant)
  | untouch (venue symbol : String)
  | reconcile (now : Instant)

namespace System

/-- Of the venues that have a runner. -/
def mapVenues (s : System) (names : List String) (f : String → Venue → Venue) : String → Venue :=
  fun name => if name ∈ names then f name (s.venues name) else s.venues name

/-- What is read of the files. -/
def load (s : System) (tables : List (String × String)) : Reading where
  per := (tables ++ s.file.flatMap SubscribePair.legs).filter fun leg => leg.1 ≠ "" ∧ leg.2 ≠ ""
  no := s.fileNo

def step (names fallback : List String) (s : System) : Act → Option System
  | .change db => some { s with db }
  | .start =>
      some { s with
        dumps := s.dumps ++ [⟨s.nextNo, [.watchlist, .triggers, .positions], []⟩]
        nextNo := s.nextNo + 1 }
  | .query i =>
      (s.dumps[i]?).bind fun d =>
        match d.todo with
        | [] => none
        | q :: rest =>
            some { s with
              dumps := s.dumps.set i { d with todo := rest, out := (q.rows s.db).foldl add d.out } }
  | .write i =>
      (s.dumps[i]?).bind fun d =>
        if d.todo = [] then
          some { s with dumps := s.dumps.eraseIdx i, file := d.out, fileNo := some d.no }
        else none
  | .fail i =>
      (s.dumps[i]?).map fun _ => { s with dumps := s.dumps.eraseIdx i }
  | .read tables =>
      if s.reading.isSome then none else some { s with reading := some (s.load tables) }
  | .apply =>
      s.reading.map fun r =>
        { s with
          reading := none
          venues := s.mapVenues names fun name v => v.prewarmSet (r.symbols name ++ fallback)
          prewarmNo := r.no }
  | .touch venue symbol now =>
      some { s with venues := Function.update s.venues venue ((s.venues venue).touch symbol now) }
  | .untouch venue symbol =>
      some { s with venues := Function.update s.venues venue ((s.venues venue).untouch symbol) }
  | .reconcile now =>
      some { s with
        venues := s.mapVenues names fun _ v => (v.reconcile now).1
        appliedNo := s.prewarmNo }

/-! ## Pairs that are in a list -/

theorem mem_add {out : List SubscribePair} {row : Row} {key : SubscribePair} :
    key ∈ add out row ↔ key ∈ out ∨ key? row = some key := by
  unfold add
  cases known : key? row with
  | none => exact ⟨.inl, fun given => given.resolve_right nofun⟩
  | some key' =>
      dsimp only
      split
      case isTrue old =>
        constructor
        · exact .inl
        · rintro (member | same)
          · exact member
          · cases same
            exact old
      case isFalse =>
        rw [List.mem_append, List.mem_singleton, Option.some.injEq]
        exact or_congr_right eq_comm

theorem mem_foldl_add {rows : List Row} {out : List SubscribePair} {key : SubscribePair} :
    key ∈ rows.foldl add out ↔ key ∈ out ∨ ∃ row ∈ rows, key? row = some key := by
  induction rows generalizing out with
  | nil => simp
  | cons row rows ih =>
      rw [List.foldl_cons, ih, mem_add, or_assoc]
      exact or_congr_right (by simp)

theorem ofList_map_ne {f : Char → Char} {text : String} (filled : text ≠ "") :
    String.ofList (text.toList.map f) ≠ "" := by
  intro empty
  have none : text.toList.map f = [] := by
    have same := congrArg String.toList empty
    rwa [String.toList_ofList] at same
  exact filled (String.toList_eq_nil_iff.mp (List.map_eq_nil_iff.mp none))

/-- The legs of a listed pair are named. -/
theorem legs_filled {row : Row} {key : SubscribePair} (known : key? row = some key)
    {leg : String × String} (member : leg ∈ key.legs) : leg.1 ≠ "" ∧ leg.2 ≠ "" := by
  unfold key? at known
  split at known
  case h_1 sym le se hasSym hasLe hasSe =>
    cases known
    have filled : ∀ {x : Option String} {text : String}, Python.nonEmpty x = some text →
        text ≠ "" := fun given empty => by
      have kept := (Option.filter_eq_some_iff.mp given).2
      rw [empty] at kept
      cases kept
    have sym_ := ofList_map_ne (f := Char.toUpper) (filled hasSym)
    simp only [SubscribePair.legs, List.mem_cons, List.not_mem_nil, or_false] at member
    rcases member with rfl | rfl | rfl
    · exact ⟨ofList_map_ne (filled hasLe), sym_⟩
    · refine ⟨fun empty => ?_, sym_⟩
      have text := congrArg String.toList empty
      rw [String.toList_append] at text
      cases (List.append_eq_nil_iff.mp text).2
    · exact ⟨ofList_map_ne (filled hasSe), sym_⟩
  case h_2 => cases known

/-! ## Where the numbers come from -/

/-- The table holds the pair, for one of the queries. -/
def Has (q : Query) (key : SubscribePair) (db : Db) : Prop :=
  ∃ row ∈ q.rows db, key? row = some key

/-- The number is not before another. -/
def Since (no : Nat) (given : Option Nat) : Prop := ∃ n ∈ given, no ≤ n

/-- The pair stays in the table. -/
def Keeps (q : Query) (key : SubscribePair) (_ : System) : Act → Prop
  | .change db => Has q key db
  | _ => True

variable {names fallback : List String} {q : Query} {key : SubscribePair} {no : Nat}
  {s s' : System}

/-- No list has a number that was not given out. -/
structure Numbered (s : System) : Prop where
  dumps : ∀ d ∈ s.dumps, d.no < s.nextNo
  file : ∀ n ∈ s.fileNo, n < s.nextNo
  reading : ∀ r ∈ s.reading, ∀ n ∈ r.no, n < s.nextNo
  prewarm : ∀ n ∈ s.prewarmNo, n < s.nextNo
  applied : ∀ n ∈ s.appliedNo, n < s.nextNo

/-- Whatever comes from a dump that began late enough has the pair. -/
structure Carried (names : List String) (q : Query) (key : SubscribePair) (no : Nat) (s : System) :
    Prop where
  has : Has q key s.db
  dumps : ∀ d ∈ s.dumps, no ≤ d.no → q ∉ d.todo → key ∈ d.out
  file : Since no s.fileNo → key ∈ s.file
  reading : ∀ r ∈ s.reading, Since no r.no → ∀ leg ∈ key.legs, leg ∈ r.per
  prewarm : Since no s.prewarmNo → ∀ leg ∈ key.legs, leg.1 ∈ names →
    leg.2 ∈ (s.venues leg.1).prewarm
  applied : Since no s.appliedNo → ∀ leg ∈ key.legs, leg.1 ∈ names →
    leg.2 ∈ (s.venues leg.1).current

/-- Nothing from an older dump is under way. -/
structure Settled (no : Nat) (s : System) : Prop where
  next : no ≤ s.nextNo
  dumps : ∀ d ∈ s.dumps, no ≤ d.no
  file : Since no s.fileNo
  reading : ∀ r ∈ s.reading, Since no r.no
  prewarm : Since no s.prewarmNo
  applied : Since no s.appliedNo

theorem not_since_of_numbered {given : Option Nat} (below : ∀ n ∈ given, n < no) :
    ¬Since no given := fun ⟨n, member, above⟩ => absurd above (Nat.not_le.mpr (below n member))

theorem Carried.of_numbered (numbered : Numbered s) (has : Has q key s.db) :
    Carried names q key s.nextNo s where
  has := has
  dumps d member above := absurd above (Nat.not_le.mpr (numbered.dumps d member))
  file since := absurd since (not_since_of_numbered numbered.file)
  reading r member since := absurd since (not_since_of_numbered (numbered.reading r member))
  prewarm since := absurd since (not_since_of_numbered numbered.prewarm)
  applied since := absurd since (not_since_of_numbered numbered.applied)

/-! ## Steps -/

theorem Numbered.step : Preserves (step names fallback) (fun _ _ => True) Numbered := by
  intro s a s' numbered _ stepped
  cases a with
  | change db =>
      cases stepped
      exact ⟨numbered.dumps, numbered.file, numbered.reading, numbered.prewarm, numbered.applied⟩
  | start =>
      cases stepped
      refine ⟨fun d member => ?_, fun n given => (numbered.file n given).trans (Nat.lt_succ_self _),
        fun r member n given => (numbered.reading r member n given).trans (Nat.lt_succ_self _),
        fun n given => (numbered.prewarm n given).trans (Nat.lt_succ_self _),
        fun n given => (numbered.applied n given).trans (Nat.lt_succ_self _)⟩
      rcases List.mem_append.mp member with old | new
      · exact (numbered.dumps d old).trans (Nat.lt_succ_self _)
      · rw [List.mem_singleton.mp new]
        exact Nat.lt_succ_self _
  | query i =>
      obtain ⟨d, here, goes⟩ := Option.bind_eq_some_iff.mp stepped
      split at goes
      · cases goes
      · cases goes
        refine ⟨fun d' member => ?_, numbered.file, numbered.reading, numbered.prewarm,
          numbered.applied⟩
        rcases List.mem_or_eq_of_mem_set member with old | new
        · exact numbered.dumps d' old
        · rw [new]
          exact numbered.dumps d (List.mem_of_getElem? here)
  | write i =>
      obtain ⟨d, here, goes⟩ := Option.bind_eq_some_iff.mp stepped
      split at goes
      · cases goes
        refine ⟨fun d' member => numbered.dumps d' (List.mem_of_mem_eraseIdx member), fun n given => ?_,
          numbered.reading, numbered.prewarm, numbered.applied⟩
        cases given
        exact numbered.dumps d (List.mem_of_getElem? here)
      · cases goes
  | fail i =>
      obtain ⟨d, here, goes⟩ := Option.map_eq_some_iff.mp stepped
      cases goes
      exact ⟨fun d' member => numbered.dumps d' (List.mem_of_mem_eraseIdx member), numbered.file,
        numbered.reading, numbered.prewarm, numbered.applied⟩
  | read tables =>
      replace stepped : (if _ then _ else _) = some s' := stepped
      split at stepped
      · cases stepped
      · cases stepped
        refine ⟨numbered.dumps, numbered.file, fun r member n given => ?_, numbered.prewarm,
          numbered.applied⟩
        cases member
        exact numbered.file n given
  | apply =>
      obtain ⟨r, here, goes⟩ := Option.map_eq_some_iff.mp stepped
      cases goes
      exact ⟨numbered.dumps, numbered.file, fun r no => (by cases no), numbered.reading r here,
        numbered.applied⟩
  | touch | untouch =>
      cases stepped
      exact ⟨numbered.dumps, numbered.file, numbered.reading, numbered.prewarm, numbered.applied⟩
  | reconcile now =>
      cases stepped
      exact ⟨numbered.dumps, numbered.file, numbered.reading, numbered.prewarm, numbered.prewarm⟩

theorem Settled.step : Preserves (step names fallback) (fun _ _ => True) (Settled no) := by
  intro s a s' settled _ stepped
  cases a with
  | change db =>
      cases stepped
      exact ⟨settled.next, settled.dumps, settled.file, settled.reading, settled.prewarm,
        settled.applied⟩
  | start =>
      cases stepped
      refine ⟨Nat.le_succ_of_le settled.next, fun d member => ?_, settled.file, settled.reading,
        settled.prewarm, settled.applied⟩
      rcases List.mem_append.mp member with old | new
      · exact settled.dumps d old
      · rw [List.mem_singleton.mp new]
        exact settled.next
  | query i =>
      obtain ⟨d, here, goes⟩ := Option.bind_eq_some_iff.mp stepped
      split at goes
      · cases goes
      · cases goes
        refine ⟨settled.next, fun d' member => ?_, settled.file, settled.reading, settled.prewarm,
          settled.applied⟩
        rcases List.mem_or_eq_of_mem_set member with old | new
        · exact settled.dumps d' old
        · rw [new]
          exact settled.dumps d (List.mem_of_getElem? here)
  | write i =>
      obtain ⟨d, here, goes⟩ := Option.bind_eq_some_iff.mp stepped
      split at goes
      · cases goes
        exact ⟨settled.next, fun d' member => settled.dumps d' (List.mem_of_mem_eraseIdx member),
          ⟨d.no, rfl, settled.dumps d (List.mem_of_getElem? here)⟩, settled.reading,
          settled.prewarm, settled.applied⟩
      · cases goes
  | fail i =>
      obtain ⟨d, here, goes⟩ := Option.map_eq_some_iff.mp stepped
      cases goes
      exact ⟨settled.next, fun d' member => settled.dumps d' (List.mem_of_mem_eraseIdx member),
        settled.file, settled.reading, settled.prewarm, settled.applied⟩
  | read tables =>
      replace stepped : (if _ then _ else _) = some s' := stepped
      split at stepped
      · cases stepped
      · cases stepped
        refine ⟨settled.next, settled.dumps, settled.file, fun r member => ?_, settled.prewarm,
          settled.applied⟩
        cases member
        exact settled.file
  | apply =>
      obtain ⟨r, here, goes⟩ := Option.map_eq_some_iff.mp stepped
      cases goes
      exact ⟨settled.next, settled.dumps, settled.file, fun r no => (by cases no),
        settled.reading r here, settled.applied⟩
  | touch | untouch =>
      cases stepped
      exact ⟨settled.next, settled.dumps, settled.file, settled.reading, settled.prewarm,
        settled.applied⟩
  | reconcile now =>
      cases stepped
      exact ⟨settled.next, settled.dumps, settled.file, settled.reading, settled.prewarm,
        settled.prewarm⟩

/-- Touches and reconciles leave the prewarm lists. -/
theorem reconcile_current (v : Venue) (now : Instant) {symbol : String}
    (member : symbol ∈ v.prewarm) : symbol ∈ (v.reconcile now).1.current := by
  rw [(Exchange.current_reconcile v now).1]
  exact Exchange.mem_union_pruned.mpr (.inl member)

theorem reconcile_prewarm (v : Venue) (now : Instant) :
    (v.reconcile now).1.prewarm = v.prewarm := by
  rcases Exchange.reconcile_cases v now with ⟨-, skipped⟩ | applied
  · rw [skipped]
    rfl
  · rw [applied]
    rfl

theorem mem_prewarmSet {v : Venue} {syms : List String} {symbol : String} (member : symbol ∈ syms)
    (filled : symbol ≠ "") : symbol ∈ (v.prewarmSet syms).prewarm :=
  List.mem_toFinset.mpr (List.mem_filter.mpr ⟨member, decide_eq_true filled⟩)

/-- An operation on one venue that leaves its lists. -/
theorem Carried.update (carried : Carried names q key no s) {venue : String} {v : Venue}
    (prewarm : v.prewarm = (s.venues venue).prewarm) (current : v.current = (s.venues venue).current) :
    Carried names q key no { s with venues := Function.update s.venues venue v } := by
  refine ⟨carried.has, carried.dumps, carried.file, carried.reading, fun since leg member named => ?_,
    fun since leg member named => ?_⟩
  · have kept := carried.prewarm since leg member named
    dsimp only
    by_cases mine : leg.1 = venue
    · rw [mine, Function.update_self, prewarm, ← mine]
      exact kept
    · rw [Function.update_of_ne mine]
      exact kept
  · have kept := carried.applied since leg member named
    dsimp only
    by_cases mine : leg.1 = venue
    · rw [mine, Function.update_self, current, ← mine]
      exact kept
    · rw [Function.update_of_ne mine]
      exact kept

theorem Carried.step : Preserves (step names fallback) (Keeps q key) (Carried names q key no) := by
  intro s a s' carried keeps stepped
  cases a with
  | change db =>
      cases stepped
      exact ⟨keeps, carried.dumps, carried.file, carried.reading, carried.prewarm, carried.applied⟩
  | start =>
      cases stepped
      refine ⟨carried.has, fun d member above done => ?_, carried.file, carried.reading,
        carried.prewarm, carried.applied⟩
      rcases List.mem_append.mp member with old | new
      · exact carried.dumps d old above done
      · rw [List.mem_singleton.mp new] at done
        exact absurd (by cases q <;> simp) done
  | query i =>
      obtain ⟨d, here, goes⟩ := Option.bind_eq_some_iff.mp stepped
      split at goes
      case h_1 => cases goes
      case h_2 q' rest todo =>
        cases goes
        refine ⟨carried.has, fun d' member above done => ?_, carried.file, carried.reading,
          carried.prewarm, carried.applied⟩
        rcases List.mem_or_eq_of_mem_set member with old | new
        · exact carried.dumps d' old above done
        · rw [new] at above done ⊢
          refine mem_foldl_add.mpr ?_
          by_cases mine : q = q'
          · rw [← mine]
            exact .inr carried.has
          · refine .inl (carried.dumps d (List.mem_of_getElem? here) above fun left => ?_)
            rw [todo] at left
            exact (List.mem_cons.mp left).elim mine done
  | write i =>
      obtain ⟨d, here, goes⟩ := Option.bind_eq_some_iff.mp stepped
      split at goes
      case isTrue done =>
        cases goes
        refine ⟨carried.has, fun d' member => carried.dumps d' (List.mem_of_mem_eraseIdx member),
          fun since => ?_, carried.reading, carried.prewarm, carried.applied⟩
        obtain ⟨n, same, above⟩ := since
        cases same
        refine carried.dumps d (List.mem_of_getElem? here) above fun left => ?_
        rw [done] at left
        cases left
      case isFalse => cases goes
  | fail i =>
      obtain ⟨d, here, goes⟩ := Option.map_eq_some_iff.mp stepped
      cases goes
      exact ⟨carried.has, fun d' member => carried.dumps d' (List.mem_of_mem_eraseIdx member),
        carried.file, carried.reading, carried.prewarm, carried.applied⟩
  | read tables =>
      replace stepped : (if _ then _ else _) = some s' := stepped
      split at stepped
      · cases stepped
      · cases stepped
        refine ⟨carried.has, carried.dumps, carried.file, fun r member since leg inside => ?_,
          carried.prewarm, carried.applied⟩
        cases member
        obtain ⟨row, -, known⟩ := carried.has
        exact List.mem_filter.mpr ⟨List.mem_append_right _
          (List.mem_flatMap.mpr ⟨key, carried.file since, inside⟩),
          decide_eq_true (legs_filled known inside)⟩
  | apply =>
      obtain ⟨r, here, goes⟩ := Option.map_eq_some_iff.mp stepped
      cases goes
      refine ⟨carried.has, carried.dumps, carried.file, fun r no => (by cases no),
        fun since leg inside named => ?_, fun since leg inside named => ?_⟩
      · obtain ⟨row, -, known⟩ := carried.has
        change leg.2 ∈ (s.mapVenues names _ leg.1).prewarm
        unfold mapVenues
        rw [if_pos named]
        refine mem_prewarmSet (List.mem_append_left _ ?_) (legs_filled known inside).2
        exact List.mem_map.mpr ⟨leg, List.mem_filter.mpr
          ⟨carried.reading r here since leg inside, decide_eq_true rfl⟩, rfl⟩
      · change leg.2 ∈ (s.mapVenues names _ leg.1).current
        unfold mapVenues
        rw [if_pos named]
        exact carried.applied since leg inside named
  | touch venue symbol now =>
      cases stepped
      refine carried.update ?_ ?_
      · unfold Venue.touch
        split <;> rfl
      · unfold Venue.touch
        split <;> rfl
  | untouch venue symbol =>
      cases stepped
      exact carried.update rfl rfl
  | reconcile now =>
      cases stepped
      refine ⟨carried.has, carried.dumps, carried.file, carried.reading,
        fun since leg inside named => ?_, fun since leg inside named => ?_⟩
      · change leg.2 ∈ (s.mapVenues names _ leg.1).prewarm
        unfold mapVenues
        rw [if_pos named, reconcile_prewarm]
        exact carried.prewarm since leg inside named
      · change leg.2 ∈ (s.mapVenues names _ leg.1).current
        unfold mapVenues
        rw [if_pos named]
        exact reconcile_current _ now (carried.prewarm since leg inside named)

/-! ## Runs -/

/-- While a pair stays in the table, whatever the venues run on that comes from a dump begun since
has all its legs; and once nothing older is under way, they are subscribed without a gap. -/
theorem watched_pairs_subscribed {db : Db} {s₀ : System}
    (run : Run (step names fallback) (fun _ _ => True) { db } s₀) (has : Has q key s₀.db)
    (kept : Run (step names fallback) (Keeps q key) s₀ s) {leg : String × String}
    (inside : leg ∈ key.legs) (named : leg.1 ∈ names) :
    (Since s₀.nextNo s.appliedNo → leg.2 ∈ (s.venues leg.1).current) ∧
      (Settled s₀.nextNo s → ∀ s', Run (step names fallback) (Keeps q key) s s' →
        leg.2 ∈ (s'.venues leg.1).current) := by
  have numbered : Numbered s₀ := by
    refine run.invariant Numbered.step ⟨?_, ?_, ?_, ?_, ?_⟩
    · intro d member
      cases member
    · intro n given
      cases given
    · intro r given
      cases given
    · intro n given
      cases given
    · intro n given
      cases given
  have carried : Carried names q key s₀.nextNo s :=
    kept.invariant Carried.step (.of_numbered numbered has)
  refine ⟨fun since => carried.applied since leg inside named, fun settled s' later => ?_⟩
  have settled' := (later.mono fun _ _ _ => trivial).invariant Settled.step settled
  exact (later.invariant Carried.step carried).applied settled'.applied leg inside named

/-- One dump goes all the way. -/
def oneDump : List Act :=
  [.start, .query 0, .query 0, .query 0, .write 0, .read [("gate", "ETH")], .apply, .reconcile 0]

def watched : Db where
  watchlist := [⟨"btc", "Binance", "bybit", "long-short"⟩]
  orders := []
  positions := []

theorem watched_pairs_subscribed_dump : ∃ s : System,
    exec (step ["binance", "bybit"] ["ETH"]) { db := watched } oneDump = some s ∧
      "BTC" ∈ (s.venues "binance").current ∧
      ∀ s', Run (step ["binance", "bybit"] ["ETH"]) (Keeps .watchlist ⟨"BTC", "binance", "bybit"⟩)
        s s' → "BTC" ∈ (s'.venues "binance").current := by
  have ran : (exec (step ["binance", "bybit"] ["ETH"]) { db := watched } oneDump).map
      (fun s => (s.appliedNo, s.fileNo, s.prewarmNo, s.reading.isNone)) =
        some (some 0, some 0, some 0, true) := by
    decide +kernel
  obtain ⟨s, executed, view⟩ := Option.map_eq_some_iff.mp ran
  simp only [Prod.mk.injEq] at view
  obtain ⟨applied, file, prewarm, read⟩ := view
  have has : Has .watchlist ⟨"BTC", "binance", "bybit"⟩ watched :=
    ⟨(some "btc", some "Binance", some "bybit"), List.mem_cons_self, by decide +kernel⟩
  have kept : Run (step ["binance", "bybit"] ["ETH"])
      (Keeps .watchlist ⟨"BTC", "binance", "bybit"⟩) { db := watched } s := by
    refine Run.of_exec_of_forall (fun a inside s => ?_) executed
    simp only [oneDump, List.mem_cons, List.not_mem_nil, or_false] at inside
    rcases inside with rfl | rfl | rfl | rfl | rfl | rfl | rfl | rfl <;> trivial
  have settled : Settled 0 s := by
    refine ⟨Nat.zero_le _, fun d _ => Nat.zero_le _, ⟨0, file, le_rfl⟩, fun r reading => ?_,
      ⟨0, prewarm, le_rfl⟩, ⟨0, applied, le_rfl⟩⟩
    rw [Option.isNone_iff_eq_none.mp read] at reading
    cases reading
  have both := watched_pairs_subscribed (Run.refl _) has kept
    (List.mem_cons_self : ("binance", "BTC") ∈ _) List.mem_cons_self
  exact ⟨s, executed, both.1 ⟨0, applied, le_rfl⟩, both.2 settled⟩

end System

end Watchlist

end Avalant
