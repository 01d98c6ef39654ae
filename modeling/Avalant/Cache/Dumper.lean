import Avalant.Cache.Store
import Avalant.Lib.Run
import Mathlib.Data.List.Dedup

/-!
The book files of the fetcher.

A dump takes a snapshot of the cache, reads the update counters, and rewrites the
files of the exchanges whose counter has moved since their last write. Only updates
move the counters, and they are not read together with the snapshot.
-/

namespace Avalant

namespace Cache

open Transition

abbrev Books := AList fun _ : Pair => Entry

abbrev Versions := AList fun _ : String => Nat

/-- The entries of an exchange. -/
def bucket (books : Books) (exchange : String) : Books :=
  ⟨books.entries.filter fun e => decide (e.1.exchange = exchange),
    books.nodupKeys.sublist List.filter_sublist⟩

/-- The exchanges of a snapshot. -/
def exchanges (books : Books) : List String :=
  ((books.keys.map Pair.exchange).filter fun exchange => exchange ≠ "").dedup

/-- The same entries. -/
def Same (books books' : Books) : Prop :=
  ∀ pair, books.lookup pair = books'.lookup pair

/-- How far a dump has come. It is fresh while the store has not changed since its snapshot. -/
inductive Dump
  | idle
  | snapped (snap : Books) (fresh : Bool)
  /-- The exchanges that are still to be compared. -/
  | comparing (snap : Books) (versions : Versions) (rest : List String) (fresh : Bool)

structure Dumper where
  now : Instant
  store : Store
  lastVersions : Versions
  /-- `books.<exchange>.json`. -/
  files : AList fun _ : String => Books
  dump : Dump
  /-- A whole dump has run since the store changed last. -/
  settled : Bool

inductive DumperAct
  | wait (d : Nat)
  | store (pair : Pair) (depth : Depth) (source : String)
  | prune (idle : Nat)
  | evictStale (staleAfter : Nat)
  | snapshot
  | readVersions
  /-- The next exchange of the snapshot, in the order of a map. -/
  | compare (exchange : String)
  | finish
  /-- A write fails, and the dump with it. -/
  | fail

def counter (versions : Versions) (exchange : String) : Nat :=
  (versions.lookup exchange).getD 0

/-- The comparison of the counters says that the file of an exchange need not be written. -/
def upToDate (last current : Nat) : Prop :=
  last = current ∧ current ≠ 0

instance (last current : Nat) : Decidable (upToDate last current) :=
  inferInstanceAs (Decidable (_ ∧ _))

/-- The store has not changed since the dump began, if one is running. -/
def Dump.fresh : Dump → Bool
  | .idle => true
  | .snapped _ fresh => fresh
  | .comparing _ _ _ fresh => fresh

def Dump.stale : Dump → Dump
  | .idle => .idle
  | .snapped snap _ => .snapped snap false
  | .comparing snap versions rest _ => .comparing snap versions rest false

namespace Dumper

def initial : Dumper := ⟨0, Store.empty, ∅, ∅, .idle, true⟩

def fileOf (s : Dumper) (exchange : String) : Books :=
  (s.files.lookup exchange).getD ∅

/-- The store changes. -/
def change (s : Dumper) (store : Store) : Dumper :=
  { s with store, dump := s.dump.stale, settled := false }

/-- Entries are taken from the store, if there are any to take. -/
def take (s : Dumper) (store : Store) : Dumper :=
  if store.books.entries = s.store.books.entries then s else s.change store

def step (s : Dumper) : DumperAct → Option Dumper
  | .wait d => some { s with now := s.now + d }
  | .store pair depth source => some (s.change (s.store.store pair depth source s.now))
  | .prune idle => some (s.take (s.store.prune idle s.now))
  | .evictStale staleAfter => some (s.take (s.store.evictStale staleAfter s.now))
  | .snapshot =>
      match s.dump with
      | .idle => some { s with dump := .snapped s.store.books true }
      | _ => none
  | .readVersions =>
      match s.dump with
      | .snapped snap fresh =>
          some { s with dump := .comparing snap s.store.versions (exchanges snap) fresh }
      | _ => none
  | .compare exchange =>
      match s.dump with
      | .comparing snap versions rest fresh =>
          if exchange ∈ rest then
            let dump := Dump.comparing snap versions (rest.erase exchange) fresh
            if upToDate (counter s.lastVersions exchange) (counter versions exchange) then
              some { s with dump }
            else
              some { s with
                dump
                files := s.files.insert exchange (bucket snap exchange)
                lastVersions := s.lastVersions.insert exchange (counter versions exchange) }
          else none
      | _ => none
  | .finish =>
      match s.dump with
      | .comparing _ _ [] fresh => some { s with dump := .idle, settled := fresh }
      | _ => none
  | .fail =>
      match s.dump with
      | .comparing .. => some { s with dump := .idle }
      | _ => none

/-! ## Files and the store -/

/-- The file of an exchange holds the entries of the store. A missing file holds none. -/
def Synced (s : Dumper) (exchange : String) : Prop :=
  Same (s.fileOf exchange) (bucket s.store.books exchange)

/-- An exchange has been updated since its file was written, and since the counters were read that
the running dump will compare. -/
def Moved (s : Dumper) (exchange : String) : Prop :=
  ¬upToDate (counter s.lastVersions exchange) (s.store.version exchange) ∧
    match s.dump with
    | .comparing _ versions rest _ =>
        exchange ∈ rest → ¬upToDate (counter versions exchange) (s.store.version exchange)
    | _ => True

/-- The exchanges that lose entries keep one, and have been updated since they were written. -/
def Spares (s : Dumper) (store : Store) : Prop :=
  ∀ exchange ∈ exchanges s.store.books,
    ¬Same (bucket s.store.books exchange) (bucket store.books exchange) →
      exchange ∈ exchanges store.books ∧ s.Moved exchange

/-- Updates name their exchange; entries are taken only of exchanges that keep some and are
still to be written; and when the counters are read, the exchanges that will be written have not
changed since the snapshot. -/
def Orderly (s : Dumper) : DumperAct → Prop
  | .store pair _ _ => pair.exchange ≠ ""
  | .prune idle => s.Spares (s.store.prune idle s.now)
  | .evictStale staleAfter => s.Spares (s.store.evictStale staleAfter s.now)
  | .readVersions =>
      match s.dump with
      | .snapped snap _ => ∀ exchange ∈ exchanges snap,
          ¬upToDate (counter s.lastVersions exchange) (s.store.version exchange) →
            Same (bucket snap exchange) (bucket s.store.books exchange)
      | _ => True
  | _ => True

end Dumper

/-- In every run whose steps meet `ok`, once the store stops changing and a whole dump has run, the
files hold its entries. -/
def AlwaysSynced (ok : Dumper → DumperAct → Prop) : Prop :=
  ∀ s, Run Dumper.step ok Dumper.initial s → s.settled → ∀ exchange, s.Synced exchange

/-! ## The entries of an exchange -/

section

variable {books books' : Books} {exchange : String} {pair : Pair}

theorem Same.refl (books : Books) : Same books books :=
  fun _ => rfl

theorem Same.trans {books'' : Books} (same : Same books books') (same' : Same books' books'') :
    Same books books'' :=
  fun pair => (same pair).trans (same' pair)

theorem lookup_bucket :
    (bucket books exchange).lookup pair =
      if pair.exchange = exchange then books.lookup pair else none := by
  have part : (bucket books exchange).lookup pair =
      (books.lookup pair).filter fun _ => decide (pair.exchange = exchange) :=
    lookup_filter books (fun key _ => decide (key.exchange = exchange)) pair _
  rw [part]
  by_cases here : pair.exchange = exchange
  · rw [if_pos here]
    cases books.lookup pair <;> simp [here]
  · rw [if_neg here]
    cases books.lookup pair <;> simp [here]

/-- Two stores with the same entries of an exchange. -/
theorem same_bucket (same : ∀ pair, pair.exchange = exchange → books.lookup pair = books'.lookup pair) :
    Same (bucket books exchange) (bucket books' exchange) := by
  intro pair
  rw [lookup_bucket, lookup_bucket]
  split
  case isTrue here => exact same pair here
  case isFalse => rfl

theorem mem_exchanges :
    exchange ∈ exchanges books ↔
      exchange ≠ "" ∧ ∃ pair, pair.exchange = exchange ∧ (books.lookup pair).isSome := by
  unfold exchanges
  rw [List.mem_dedup, List.mem_filter, List.mem_map, decide_eq_true_eq, and_comm]
  refine and_congr_right fun _ => exists_congr fun pair => ?_
  rw [AList.lookup_isSome, AList.mem_keys, and_comm]

theorem mem_exchanges_of_same (same : Same (bucket books exchange) (bucket books' exchange)) :
    exchange ∈ exchanges books ↔ exchange ∈ exchanges books' := by
  rw [mem_exchanges, mem_exchanges]
  refine and_congr_right fun _ => exists_congr fun pair => and_congr_right fun here => ?_
  have at_ := same pair
  rw [lookup_bucket, lookup_bucket, if_pos here, if_pos here] at at_
  rw [at_]

/-- The pairs of either are enough to compare. -/
instance : Decidable (Same books books') :=
  decidable_of_iff (∀ pair ∈ books.keys ++ books'.keys, books.lookup pair = books'.lookup pair) <| by
    constructor
    · intro same pair
      by_cases held : pair ∈ books.keys ++ books'.keys
      · exact same pair held
      · rw [List.mem_append, not_or] at held
        rw [AList.lookup_eq_none.mpr held.1, AList.lookup_eq_none.mpr held.2]
    · intro same pair _
      exact same pair

end

/-! ## Each step -/

namespace Dumper

/-- The next whole dump leaves the file of an exchange with the entries of the store: it has them
already, or is rewritten. -/
def Due (s : Dumper) (exchange : String) : Prop :=
  s.Synced exchange ∨ exchange ∈ exchanges s.store.books ∧
    ¬upToDate (counter s.lastVersions exchange) (s.store.version exchange)

/-- So does it after a snapshot has been written that was compared at a counter. -/
def DueAfter (s : Dumper) (snap : Books) (version : Nat) (exchange : String) : Prop :=
  Same (bucket snap exchange) (bucket s.store.books exchange) ∨
    exchange ∈ exchanges s.store.books ∧ ¬upToDate version (s.store.version exchange)

/-- The dump that is running will write an exchange. -/
def Writes (s : Dumper) (versions : Versions) (rest : List String) (exchange : String) : Prop :=
  exchange ∈ rest ∧ ¬upToDate (counter s.lastVersions exchange) (counter versions exchange)

/-- The exchange is due, also after what the running dump will write of it. -/
def Safe (s : Dumper) (exchange : String) : Prop :=
  s.Due exchange ∧
    match s.dump with
    | .comparing snap versions rest _ => s.Writes versions rest exchange →
        s.DueAfter snap (counter versions exchange) exchange
    | _ => True

/-- The files are behind the store only where they are due; a fresh dump has the store of its
snapshot, and brings the files up to it. -/
structure Steady (s : Dumper) : Prop where
  named : ∀ pair, (s.store.books.lookup pair).isSome → pair.exchange ≠ ""
  safe : ∀ exchange, s.Safe exchange
  below : ∀ exchange, counter s.lastVersions exchange ≤ s.store.version exchange
  read : ∀ snap versions rest fresh, s.dump = .comparing snap versions rest fresh →
    ∀ exchange, counter versions exchange ≤ s.store.version exchange
  snapped : ∀ snap, s.dump = .snapped snap true → snap = s.store.books
  compared : ∀ snap versions rest, s.dump = .comparing snap versions rest true →
    snap = s.store.books ∧ versions = s.store.versions ∧ ∀ exchange ∉ rest, s.Synced exchange
  synced : s.settled → s.dump.fresh ∧ ∀ exchange, s.Synced exchange

section

variable {s s' : Dumper} {st : Store} {exchange : String}

/-- A change that leaves the entries and the counter of an exchange. -/
theorem safe_change_of_same (safe : s.Safe exchange)
    (same : Same (bucket s.store.books exchange) (bucket st.books exchange))
    (version : st.version exchange = s.store.version exchange) :
    (s.change st).Safe exchange := by
  have present := mem_exchanges_of_same same
  obtain ⟨due, after⟩ := safe
  refine ⟨?_, ?_⟩
  · rcases due with synced | ⟨here, moved⟩
    · exact Or.inl (synced.trans same)
    · exact Or.inr ⟨present.mp here, version ▸ moved⟩
  · unfold change
    cases running : s.dump with
    | idle => trivial
    | snapped => trivial
    | comparing snap versions rest fresh =>
        rw [running] at after
        intro writes
        rcases after writes with held | ⟨here, moved⟩
        · exact Or.inl (held.trans same)
        · exact Or.inr ⟨present.mp here, version ▸ moved⟩

/-- An exchange that has been updated since its last write. -/
theorem safe_change_of_moved (present : exchange ∈ exchanges st.books)
    (moved : ¬upToDate (counter s.lastVersions exchange) (st.version exchange))
    (after : ∀ snap versions rest fresh, s.dump = .comparing snap versions rest fresh →
      exchange ∈ rest → ¬upToDate (counter versions exchange) (st.version exchange)) :
    (s.change st).Safe exchange := by
  refine ⟨Or.inr ⟨present, moved⟩, ?_⟩
  unfold change
  cases running : s.dump with
  | idle => trivial
  | snapped => trivial
  | comparing snap versions rest fresh =>
      intro writes
      exact Or.inr ⟨present, after _ _ _ _ running writes.1⟩

theorem of_stale_eq_comparing {dump : Dump} {snap : Books} {versions : Versions}
    {rest : List String} {fresh : Bool} (running : dump.stale = .comparing snap versions rest fresh) :
    fresh = false ∧ ∃ fresh', dump = .comparing snap versions rest fresh' := by
  cases dump with
  | idle => cases running
  | snapped => cases running
  | comparing snap' versions' rest' fresh' =>
      cases running
      exact ⟨rfl, fresh', rfl⟩

theorem of_stale_eq_snapped {dump : Dump} {snap : Books} {fresh : Bool}
    (running : dump.stale = .snapped snap fresh) : fresh = false := by
  cases dump with
  | idle => cases running
  | snapped => cases running; rfl
  | comparing => cases running

/-- What a change of the store keeps. -/
theorem Steady.change (steady : s.Steady)
    (named : ∀ pair, (st.books.lookup pair).isSome → pair.exchange ≠ "")
    (grows : ∀ exchange, s.store.version exchange ≤ st.version exchange)
    (safe : ∀ exchange, (s.change st).Safe exchange) : (s.change st).Steady where
  named := named
  safe := safe
  below exchange := Nat.le_trans (steady.below exchange) (grows exchange)
  read snap versions rest fresh running exchange := by
    obtain ⟨-, fresh', before⟩ := of_stale_eq_comparing running
    exact Nat.le_trans (steady.read _ _ _ _ before exchange) (grows exchange)
  snapped snap running := nomatch of_stale_eq_snapped running
  compared snap versions rest running := nomatch (of_stale_eq_comparing running).1
  synced settled := nomatch settled

theorem not_upToDate_of_lt {last current : Nat} (moved : last < current) :
    ¬upToDate last current := by
  unfold upToDate
  omega

theorem version_store_self {pair : Pair} {depth : Depth} {source : String} {now : Instant}
    (s : Store) : (s.store pair depth source now).version pair.exchange =
      s.version pair.exchange + 1 := by
  unfold Store.version Store.store Store.bump
  rw [AList.lookup_insert]
  rfl

theorem version_store_of_ne {pair : Pair} {depth : Depth} {source : String} {now : Instant}
    (s : Store) (other : exchange ≠ pair.exchange) :
    (s.store pair depth source now).version exchange = s.version exchange := by
  unfold Store.version Store.store Store.bump
  rw [AList.lookup_insert_ne other]

/-- An update moves the counter of its exchange and leaves the others. -/
theorem Steady.update (steady : s.Steady) {pair : Pair} {depth : Depth} {source : String}
    (named : pair.exchange ≠ "") :
    (s.change (s.store.store pair depth source s.now)).Steady := by
  have grows : ∀ exchange,
      s.store.version exchange ≤ (s.store.store pair depth source s.now).version exchange := by
    intro exchange
    by_cases here : exchange = pair.exchange
    · rw [here, version_store_self]
      omega
    · rw [version_store_of_ne s.store here]
  refine steady.change ?_ grows ?_
  · intro pair' present
    by_cases here : pair' = pair
    · exact here ▸ named
    · have left : (s.store.store pair depth source s.now).books.lookup pair' =
          s.store.books.lookup pair' := Store.get_store_of_ne here
      exact steady.named pair' (left ▸ present)
  · intro exchange
    by_cases here : exchange = pair.exchange
    · subst here
      have later : s.store.version pair.exchange <
          (s.store.store pair depth source s.now).version pair.exchange := by
        rw [version_store_self]
        omega
      refine safe_change_of_moved ?_ ?_ ?_
      · refine mem_exchanges.mpr ⟨named, pair, rfl, ?_⟩
        exact Option.isSome_of_eq_some Store.get_store_self
      · exact not_upToDate_of_lt (Nat.lt_of_le_of_lt (steady.below _) later)
      · intro snap versions rest fresh running _
        exact not_upToDate_of_lt (Nat.lt_of_le_of_lt (steady.read _ _ _ _ running _) later)
    · refine safe_change_of_same (steady.safe exchange) ?_ (version_store_of_ne s.store here)
      refine same_bucket fun pair' there => (Store.get_store_of_ne ?_).symm
      intro same
      subst same
      exact here there.symm

theorem Steady.lookup_eq_none (steady : s.Steady) (absent : exchange ∉ exchanges s.store.books)
    {pair : Pair} (here : pair.exchange = exchange) : s.store.books.lookup pair = none := by
  by_contra present
  have held := Option.isSome_iff_ne_none.mpr present
  exact absent (mem_exchanges.mpr ⟨here ▸ steady.named pair held, pair, here, held⟩)

/-- Entries are only taken of exchanges that are still to be written. -/
theorem Steady.take (steady : s.Steady) (test : Entry → Bool)
    (spares : s.Spares (s.store.keep test)) : (s.take (s.store.keep test)).Steady := by
  unfold Dumper.take
  by_cases same : (s.store.keep test).books.entries = s.store.books.entries
  · rw [if_pos same]
    exact steady
  · rw [if_neg same]
    have kept : ∀ pair, s.store.books.lookup pair = none →
        (s.store.keep test).books.lookup pair = none := by
      intro pair absent
      have part : (s.store.keep test).books.lookup pair =
          (s.store.books.lookup pair).filter test := Store.get_keep s.store pair
      rw [part, absent]
      rfl
    refine steady.change ?_ (fun _ => Nat.le_refl _) fun exchange => ?_
    · intro pair present
      refine steady.named pair (Option.isSome_iff_ne_none.mpr fun absent => ?_)
      rw [kept pair absent] at present
      cases present
    · by_cases alike : Same (bucket s.store.books exchange) (bucket (s.store.keep test).books exchange)
      · exact safe_change_of_same (steady.safe exchange) alike rfl
      · have present : exchange ∈ exchanges s.store.books := by
          by_contra absent
          refine alike (same_bucket fun pair here => ?_)
          have unheld := steady.lookup_eq_none absent here
          rw [unheld, kept pair unheld]
        obtain ⟨left, moved, after⟩ := spares exchange present alike
        refine safe_change_of_moved left moved ?_
        intro snap versions rest fresh running
        rw [running] at after
        exact after

/-- A snapshot is the store of its moment. -/
theorem Steady.snapshot (steady : s.Steady) :
    { s with dump := .snapped s.store.books true : Dumper }.Steady where
  named := steady.named
  safe exchange := ⟨(steady.safe exchange).1, trivial⟩
  below := steady.below
  read _ _ _ _ running := nomatch running
  snapped _ running := by cases running; rfl
  compared _ _ _ running := nomatch running
  synced settled := ⟨rfl, (steady.synced settled).2⟩

/-- The exchanges that will be written have not changed since the snapshot. -/
theorem Steady.readVersions (steady : s.Steady) {snap : Books} {fresh : Bool}
    (running : s.dump = .snapped snap fresh)
    (current : ∀ exchange ∈ exchanges snap,
      ¬upToDate (counter s.lastVersions exchange) (s.store.version exchange) →
        Same (bucket snap exchange) (bucket s.store.books exchange)) :
    { s with dump := .comparing snap s.store.versions (exchanges snap) fresh : Dumper }.Steady where
  named := steady.named
  safe exchange := ⟨(steady.safe exchange).1, fun writes => Or.inl (current exchange writes.1 writes.2)⟩
  below := steady.below
  read _ _ _ _ reading exchange := by
    cases reading
    exact Nat.le_refl _
  snapped _ reading := nomatch reading
  compared _ _ _ reading := by
    cases reading
    have whole := steady.snapped snap running
    refine ⟨whole, rfl, fun exchange absent => ?_⟩
    rcases (steady.safe exchange).1 with synced | ⟨present, -⟩
    · exact synced
    · exact absurd (whole ▸ present) absent
  synced settled := by
    obtain ⟨fresh', synced⟩ := steady.synced settled
    rw [running] at fresh'
    exact ⟨fresh', synced⟩

/-- An exchange whose counter has not moved is skipped. -/
theorem Steady.skip (steady : s.Steady) {snap : Books} {versions : Versions} {rest : List String}
    {fresh : Bool} (running : s.dump = .comparing snap versions rest fresh)
    (unmoved : upToDate (counter s.lastVersions exchange) (counter versions exchange)) :
    { s with dump := .comparing snap versions (rest.erase exchange) fresh : Dumper }.Steady where
  named := steady.named
  safe exchange' := by
    obtain ⟨due, after⟩ := steady.safe exchange'
    rw [running] at after
    exact ⟨due, fun writes => after ⟨List.mem_of_mem_erase writes.1, writes.2⟩⟩
  below := steady.below
  read _ _ _ _ reading := by
    cases reading
    exact steady.read _ _ _ _ running
  snapped _ reading := nomatch reading
  compared _ _ _ reading := by
    cases reading
    obtain ⟨whole, current, synced⟩ := steady.compared _ _ _ running
    refine ⟨whole, current, fun exchange' absent => ?_⟩
    by_cases here : exchange' = exchange
    · subst here
      rcases (steady.safe exchange').1 with held | ⟨-, moved⟩
      · exact held
      · have read : counter versions exchange' = s.store.version exchange' :=
          congrArg (counter · exchange') current
        exact absurd (read ▸ unmoved) moved
    · exact synced exchange' fun mem => absent ((List.mem_erase_of_ne here).mpr mem)
  synced settled := by
    obtain ⟨fresh', synced⟩ := steady.synced settled
    rw [running] at fresh'
    exact ⟨fresh', synced⟩

/-- The file of an exchange is rewritten from the snapshot. -/
def write (s : Dumper) (snap : Books) (versions : Versions) (rest : List String) (fresh : Bool)
    (exchange : String) : Dumper :=
  { s with
    dump := .comparing snap versions (rest.erase exchange) fresh
    files := s.files.insert exchange (bucket snap exchange)
    lastVersions := s.lastVersions.insert exchange (counter versions exchange) }

theorem write_self {snap : Books} {versions : Versions} {rest : List String} {fresh : Bool} :
    (s.write snap versions rest fresh exchange).fileOf exchange = bucket snap exchange ∧
      counter (s.write snap versions rest fresh exchange).lastVersions exchange =
        counter versions exchange := by
  unfold write fileOf counter
  rw [AList.lookup_insert, AList.lookup_insert]
  exact ⟨rfl, rfl⟩

theorem write_of_ne {snap : Books} {versions : Versions} {rest : List String} {fresh : Bool}
    {exchange' : String} (other : exchange' ≠ exchange) :
    (s.write snap versions rest fresh exchange).fileOf exchange' = s.fileOf exchange' ∧
      counter (s.write snap versions rest fresh exchange).lastVersions exchange' =
        counter s.lastVersions exchange' := by
  unfold write fileOf counter
  rw [AList.lookup_insert_ne other, AList.lookup_insert_ne other]
  exact ⟨rfl, rfl⟩

/-- A rewritten exchange is due again if it changed since the snapshot. -/
theorem Steady.write (steady : s.Steady) {snap : Books} {versions : Versions} {rest : List String}
    {fresh : Bool} (running : s.dump = .comparing snap versions rest fresh)
    (next : exchange ∈ rest)
    (moved : ¬upToDate (counter s.lastVersions exchange) (counter versions exchange)) :
    (s.write snap versions rest fresh exchange).Steady := by
  -- a fresh dump writes the entries of the store
  have level : fresh = true → (s.write snap versions rest fresh exchange).Synced exchange := by
    intro same
    subst same
    unfold Synced
    rw [write_self.1, (steady.compared _ _ _ running).1]
    exact Same.refl _
  have others : ∀ exchange' ≠ exchange, s.Synced exchange' →
      (s.write snap versions rest fresh exchange).Synced exchange' := by
    intro exchange' other synced
    unfold Synced
    rw [(write_of_ne other).1]
    exact synced
  constructor
  case named => exact steady.named
  case safe =>
    intro exchange'
    obtain ⟨due, after⟩ := steady.safe exchange'
    rw [running] at after
    by_cases here : exchange' = exchange
    · subst here
      have due' := after ⟨next, moved⟩
      refine ⟨?_, fun _ => due'⟩
      rcases due' with same | ⟨present, later⟩
      · refine Or.inl ?_
        unfold Synced
        rw [write_self.1]
        exact same
      · refine Or.inr ⟨present, ?_⟩
        rw [write_self.2]
        exact later
    · refine ⟨?_, fun writes => after ⟨List.mem_of_mem_erase writes.1, ?_⟩⟩
      · rcases due with synced | ⟨present, later⟩
        · exact Or.inl (others exchange' here synced)
        · refine Or.inr ⟨present, ?_⟩
          rw [(write_of_ne here).2]
          exact later
      · have later := writes.2
        rw [(write_of_ne here).2] at later
        exact later
  case below =>
    intro exchange'
    by_cases here : exchange' = exchange
    · subst here
      rw [write_self.2]
      exact steady.read _ _ _ _ running exchange'
    · rw [(write_of_ne here).2]
      exact steady.below exchange'
  case read =>
    intro snap' versions' rest' fresh' reading
    cases reading
    exact steady.read _ _ _ _ running
  case snapped =>
    intro snap' reading
    cases reading
  case compared =>
    intro snap' versions' rest' reading
    cases reading
    obtain ⟨whole, current, synced⟩ := steady.compared _ _ _ running
    refine ⟨whole, current, fun exchange' absent => ?_⟩
    by_cases here : exchange' = exchange
    · exact here ▸ level rfl
    · exact others exchange' here
        (synced exchange' fun mem => absent ((List.mem_erase_of_ne here).mpr mem))
  case synced =>
    intro settled
    obtain ⟨fresh', synced⟩ := steady.synced settled
    rw [running] at fresh'
    refine ⟨fresh', fun exchange' => ?_⟩
    by_cases here : exchange' = exchange
    · exact here ▸ level fresh'
    · exact others exchange' here (synced exchange')

/-- A dump ends, whole or with a failed write. -/
theorem Steady.rest (steady : s.Steady) {settled : Bool}
    (synced : settled → ∀ exchange, s.Synced exchange) :
    { s with dump := .idle, settled : Dumper }.Steady where
  named := steady.named
  safe exchange := ⟨(steady.safe exchange).1, trivial⟩
  below := steady.below
  read _ _ _ _ running := nomatch running
  snapped _ running := nomatch running
  compared _ _ _ running := nomatch running
  synced settled := ⟨rfl, synced settled⟩

theorem steady_initial : initial.Steady where
  named _ present := nomatch present
  safe _ := ⟨Or.inl (Same.refl _), trivial⟩
  below _ := Nat.le_refl _
  read _ _ _ _ running := nomatch running
  snapped _ running := nomatch running
  compared _ _ _ running := nomatch running
  synced _ := ⟨rfl, fun _ => Same.refl _⟩

theorem preserves_steady : Preserves step Orderly Steady := by
  intro s act s' steady orderly stepped
  cases act with
  | wait d =>
      cases stepped
      exact ⟨steady.named, steady.safe, steady.below, steady.read, steady.snapped,
        steady.compared, steady.synced⟩
  | store pair depth source =>
      cases stepped
      exact steady.update orderly
  | prune idle =>
      cases stepped
      exact steady.take _ orderly
  | evictStale staleAfter =>
      cases stepped
      exact steady.take _ orderly
  | snapshot =>
      dsimp only [step] at stepped
      split at stepped
      · cases stepped
        exact steady.snapshot
      · cases stepped
  | readVersions =>
      dsimp only [step] at stepped
      dsimp only [Orderly] at orderly
      cases running : s.dump with
      | idle => rw [running] at stepped; cases stepped
      | comparing => rw [running] at stepped; cases stepped
      | snapped snap fresh =>
          rw [running] at stepped orderly
          cases stepped
          exact steady.readVersions running orderly
  | compare =>
      dsimp only [step] at stepped
      cases running : s.dump with
      | idle => rw [running] at stepped; cases stepped
      | snapped => rw [running] at stepped; cases stepped
      | comparing snap versions rest fresh =>
          rw [running] at stepped
          obtain ⟨next, stepped⟩ := Option.ite_none_right_eq_some.mp stepped
          split at stepped
          case isTrue unmoved =>
            cases stepped
            exact steady.skip running unmoved
          case isFalse moved =>
            cases stepped
            exact steady.write running next moved
  | finish =>
      dsimp only [step] at stepped
      split at stepped
      case h_1 running =>
        cases stepped
        refine steady.rest fun fresh exchange => ?_
        subst fresh
        exact (steady.compared _ _ _ running).2.2 exchange List.not_mem_nil
      case h_2 => cases stepped
  | fail =>
      dsimp only [step] at stepped
      split at stepped
      · cases stepped
        exact steady.rest fun settled => (steady.synced settled).2
      · cases stepped

end

end Dumper

/-- The files lose no update, where the exchanges that are written have not changed between the
snapshot and the counters, and an exchange that loses entries is updated before its next write. -/
theorem alwaysSynced_of_orderly {ok : Dumper → DumperAct → Prop}
    (within : ∀ s act, ok s act → s.Orderly act) : AlwaysSynced ok := by
  intro s run settled exchange
  have steady := (run.mono within).invariant Dumper.preserves_steady Dumper.steady_initial
  exact (steady.synced settled).2 exchange

theorem alwaysSynced_orderly : AlwaysSynced Dumper.Orderly :=
  alwaysSynced_of_orderly fun _ _ orderly => orderly

/-! ## Concrete runs -/

namespace Dumper

variable {s : Dumper} {st : Store}

instance (exchange : String) : Decidable (s.Synced exchange) :=
  inferInstanceAs (Decidable (Same _ _))

instance (exchange : String) : Decidable (s.Moved exchange) :=
  match running : s.dump with
  | .idle => decidable_of_iff (¬upToDate _ _ ∧ True) (by unfold Moved; rw [running])
  | .snapped .. => decidable_of_iff (¬upToDate _ _ ∧ True) (by unfold Moved; rw [running])
  | .comparing _ versions rest _ =>
      decidable_of_iff (¬upToDate _ _ ∧
        (exchange ∈ rest → ¬upToDate (counter versions exchange) (s.store.version exchange)))
        (by unfold Moved; rw [running])

instance : Decidable (s.Spares st) :=
  inferInstanceAs (Decidable (∀ exchange ∈ exchanges s.store.books, _ → _))

instance : ∀ act, Decidable (s.Orderly act)
  | .store pair _ _ => inferInstanceAs (Decidable (pair.exchange ≠ ""))
  | .prune _ => inferInstanceAs (Decidable (s.Spares _))
  | .evictStale _ => inferInstanceAs (Decidable (s.Spares _))
  | .readVersions =>
      match running : s.dump with
      | .snapped snap _ => decidable_of_iff (∀ exchange ∈ exchanges snap,
          ¬upToDate (counter s.lastVersions exchange) (s.store.version exchange) →
            Same (bucket snap exchange) (bucket s.store.books exchange))
          (by dsimp only [Orderly]; rw [running])
      | .idle => isTrue (by dsimp only [Orderly]; rw [running]; trivial)
      | .comparing .. => isTrue (by dsimp only [Orderly]; rw [running]; trivial)
  | .wait _ | .snapshot | .compare _ | .finish | .fail => isTrue trivial

end Dumper

def btc : Pair := ⟨"binance", "BTC"⟩

def eth : Pair := ⟨"binance", "ETH"⟩

/-- An update with one bid. -/
def quote (pair : Pair) (price : ℚ) : DumperAct :=
  .store pair ⟨[(price, 1)], []⟩ "ws"

def wholeDump : List DumperAct :=
  [.snapshot, .readVersions, .compare "binance", .finish]

/-- A pair is dropped while another of its exchange has just been updated. -/
example : (execGuarded Dumper.step Dumper.Orderly Dumper.initial
    ([quote btc 1] ++ wholeDump ++ [.wait 10, quote eth 2, .evictStale 5] ++ wholeDump)).map
      (fun s => (s.settled, (s.fileOf "binance").keys)) = some (true, [eth]) := by
  decide +kernel

/-- A run that ends with another entry of a pair in the file than in the store. -/
theorem not_synced {ok : Dumper → DumperAct → Prop} [∀ s act, Decidable (ok s act)]
    (as : List DumperAct)
    (ran : (execGuarded Dumper.step ok Dumper.initial as).map
      (fun s => (s.settled, decide (s.Synced "binance"))) = some (true, false)) :
    ¬AlwaysSynced ok := by
  intro always
  obtain ⟨s, executed, read⟩ := Option.map_eq_some_iff.mp ran
  obtain ⟨settled, behind⟩ := Prod.mk.inj read
  exact of_decide_eq_false behind (always s (Run.of_execGuarded executed) settled "binance")

def DumperAct.Takes : DumperAct → Bool
  | .prune _ | .evictStale _ => true
  | _ => false

def Dump.Idle : Dump → Bool
  | .idle => true
  | _ => false

/-- An update between the snapshot and the counters is taken for written; a dropped pair stays in a
file whose counter has not moved, and the file of an exchange that has no entry left is not looked
at. -/
theorem alwaysSynced_broken :
    (¬AlwaysSynced fun _ act => act.Takes = false) ∧
      (¬AlwaysSynced fun s act => act.Takes = true → s.dump.Idle = true) ∧
        ¬AlwaysSynced fun _ _ => True :=
  ⟨not_synced ([quote btc 1, .snapshot, quote btc 2, .readVersions, .compare "binance", .finish] ++
      wholeDump) (by decide +kernel),
    not_synced ([quote btc 1, .wait 10, quote eth 2] ++ wholeDump ++ [.evictStale 5] ++ wholeDump)
      (by decide +kernel),
    not_synced ([quote btc 1] ++ wholeDump ++ [.wait 10, quote btc 2, .prune 5, .snapshot,
      .readVersions, .finish]) (by decide +kernel)⟩

end Cache

end Avalant
