import Avalant.Lib.Python
import Avalant.Lib.Run
import Avalant.UserStream.Snapshot

/-!
One supervised stream.

After the subscription the venue sends a diff for each change of a position; the
session first writes the positions of a REST listing into the snapshot, goes LIVE whether or
not it got one, and then handles the diffs. The snapshot outlives the session.
-/

namespace Avalant

namespace UserStream

open Replica Transition

/-! ## The venue -/

structure Venue where
  /-- Both sides of a symbol can be open. -/
  hedge : Bool
  positions : Store (String × Side) ℚ

namespace Venue

/-- A position gets a quantity; none closes it. -/
def change (v : Venue) (symbol : String) (side : Side) (quantity : ℚ) : Venue :=
  let kept := if v.hedge then v.positions else v.positions.erase (symbol, side.other)
  { v with positions := put kept (symbol, side) (if quantity = 0 then none else some quantity) }

/-- `list_positions`. -/
def rows (v : Venue) : List Row :=
  v.positions.entries.map fun e => ⟨e.1.1, some e.1.2, e.2⟩

end Venue

structure Event where
  symbol : String
  side : Option Side
  qty : ℚ

/-- The diff of a position. -/
def diffOf (symbol : String) (side : Side) (quantity : ℚ) : Event :=
  ⟨symbol, if quantity = 0 then none else some side, quantity⟩

/-! ## The stream -/

inductive Phase
  /-- Not connected. -/
  | idle
  | subscribed
  /-- The REST listing is on its way back. -/
  | answered (rows : List Row)
  | live

structure Stream where
  now : Nat
  venue : Venue
  snapshot : Snapshot
  state : Status
  reconnectAttempt : Nat
  authFailed : Bool
  running : Bool
  phase : Phase
  /-- The diffs that have not been handled. -/
  queue : List Event
  /-- The REST seed of the session has succeeded. -/
  seeded : Bool
  /-- The symbols that have changed since the subscription. -/
  changed : List String

inductive StreamAct
  | wait (d : Nat)
  | change (symbol : String) (side : Side) (quantity : ℚ)
  | start
  | stop
  /-- The URL, the connection or the subscription fails, for good or not. -/
  | refused (permanent : Bool)
  | subscribe
  | answer
  | seed
  | seedFails
  | recv
  | heartbeat
  /-- The connection ends. -/
  | drop

namespace Stream

def maxReconnect : Nat := 5

def initial (hedge : Bool) : Stream :=
  ⟨0, ⟨hedge, ∅⟩, Snapshot.empty, .init, 0, false, false, .idle, [], false, []⟩

def setState (s : Stream) (state : Status) : Stream :=
  if s.state = state then s
  else { s with state, snapshot := s.snapshot.setStatus s.now state }

/-- `_dispatch_event`. -/
def dispatchEvent (s : Stream) (e : Event) : Stream :=
  { s with snapshot := s.snapshot.updatePosition s.now e.symbol ⟨e.symbol, e.side, e.qty⟩ }

def seedRow (now : Nat) (snapshot : Snapshot) (row : Row) : Snapshot :=
  let symbol := Python.upper row.symbol
  if symbol = "" then snapshot else snapshot.updatePosition now symbol row

/-- `_seed_from_rest`. -/
def seedFromRest (s : Stream) (rows : List Row) : Stream :=
  { s with snapshot := rows.foldl (seedRow s.now) s.snapshot }

def goLive (s : Stream) (seeded : Bool) : Stream :=
  { s with reconnectAttempt := 0, phase := .live, seeded }.setState .live

/-- A session ends, and the stream with it when its attempts are exhausted. -/
def fails (s : Stream) (permanent : Bool) : Stream :=
  let reconnectAttempt := if permanent then maxReconnect else s.reconnectAttempt + 1
  let ended := { s with
    reconnectAttempt
    authFailed := s.authFailed || permanent
    phase := .idle
    queue := [] }.setState (if permanent then .dead else .degraded)
  if maxReconnect ≤ reconnectAttempt then { ended.setState .dead with running := false } else ended

def step (s : Stream) : StreamAct → Option Stream
  | .wait d => some { s with now := s.now + d }
  | .change symbol side quantity =>
      let venue := s.venue.change symbol side quantity
      match s.phase with
      | .idle => some { s with venue }
      | _ => some { s with
          venue
          queue := s.queue ++ [diffOf symbol side quantity]
          changed := s.changed ++ [symbol] }
  | .start =>
      if s.running = false ∧ s.authFailed = false then
        some { s with state := .init, reconnectAttempt := 0, running := true }
      else none
  | .stop =>
      some { s with
        snapshot := s.snapshot.clearWallet
        state := .init
        authFailed := false
        running := false
        phase := .idle
        queue := [] }
  | .refused permanent =>
      match s.phase with
      | .idle => if s.running then some (s.fails permanent) else none
      | _ => none
  | .subscribe =>
      match s.phase with
      | .idle =>
          if s.running then
            some { s with phase := .subscribed, queue := [], seeded := false, changed := [] }
          else none
      | _ => none
  | .answer =>
      match s.phase with
      | .subscribed => some { s with phase := .answered s.venue.rows }
      | _ => none
  | .seed =>
      match s.phase with
      | .answered rows => some ((s.seedFromRest rows).goLive true)
      | _ => none
  | .seedFails =>
      match s.phase with
      | .subscribed => some (s.goLive false)
      | .answered _ => some (s.goLive false)
      | _ => none
  | .recv =>
      match s.phase, s.queue with
      | .live, e :: queue => some ({ s with queue }.dispatchEvent e)
      | _, _ => none
  | .heartbeat =>
      if s.state = .live then some { s with snapshot := s.snapshot.setStatus s.now .live } else none
  | .drop =>
      match s.phase with
      | .live => some (s.fails false)
      | _ => none

def getPositions (s : Stream) (process : Process) : List Row :=
  s.snapshot.getPositions s.now process

/-- The status is LIVE and every diff has been handled. -/
def Settled (s : Stream) : Prop :=
  s.snapshot.getStatus s.now = some .live ∧ s.queue = []

/-- Symbols are in upper case; the sides of a symbol are not open together; the hash is refreshed
before it expires; and a stored position that the seed does not list has a diff waiting. -/
def Fits (s : Stream) : StreamAct → Prop
  | .change symbol side _ => symbol ≠ "" ∧ Python.upper symbol = symbol ∧
      (s.venue.hedge = true → s.venue.positions.lookup (symbol, side.other) = none)
  | .wait d => s.snapshot.hash.entries = [] ∨ s.now + d < s.snapshot.expires
  | .seed =>
      match s.phase with
      | .answered rows => ∀ symbol ∈ s.snapshot.hash.keys,
          symbol ∈ rows.map Row.symbol ∨ symbol ∈ s.queue.map Event.symbol
      | _ => True
  | _ => True

end Stream

/-! ## Snapshots and the venue -/

/-- In every run whose steps meet `ok`, a LIVE snapshot holds the open positions of the venue. -/
def AlwaysMatches (ok : Stream → StreamAct → Prop) : Prop :=
  ∀ hedge s, Run Stream.step ok (Stream.initial hedge) s → s.Settled → ∀ process,
    (s.getPositions process).Perm s.venue.rows

/-- It does so after a session whose REST seed succeeded; without one, it holds those of the
symbols that have changed since the subscription. -/
def AlwaysFollows (ok : Stream → StreamAct → Prop) : Prop :=
  ∀ hedge s, Run Stream.step ok (Stream.initial hedge) s → s.Settled → ∀ process,
    (s.seeded = true → (s.getPositions process).Perm s.venue.rows) ∧
      ∀ row, row.symbol ∈ s.changed → (row ∈ s.getPositions process ↔ row ∈ s.venue.rows)

/-! ## What the venue has of a symbol -/

/-- What is stored for a symbol is what the venue has open. -/
def Shows (w : Option Row) (v : Venue) (symbol : String) : Prop :=
  ∀ row, w = some row ↔ row ∈ v.rows ∧ row.symbol = symbol

namespace Venue

/-- One side of a symbol is open, with a quantity, under an upper-case symbol. -/
structure Plain (v : Venue) : Prop where
  oneSided : ∀ symbol side quantity, v.positions.lookup (symbol, side) = some quantity →
    v.positions.lookup (symbol, side.other) = none
  open_ : ∀ symbol side, v.positions.lookup (symbol, side) ≠ some 0
  named : ∀ symbol side quantity, v.positions.lookup (symbol, side) = some quantity →
    symbol ≠ "" ∧ Python.upper symbol = symbol

section

variable {v : Venue} {symbol symbol' : String} {side : Side} {quantity : ℚ} {row : Row}

theorem mem_rows : row ∈ v.rows ↔
    ∃ side, row.side = some side ∧ v.positions.lookup (row.symbol, side) = some row.quantity := by
  unfold rows
  rw [List.mem_map]
  constructor
  · intro given
    rcases given with ⟨⟨⟨symbol, side⟩, quantity⟩, mem, rfl⟩
    exact ⟨side, rfl, AList.mem_lookup_iff.mpr mem⟩
  · intro given
    rcases given with ⟨side, here, held⟩
    refine ⟨⟨(row.symbol, side), row.quantity⟩, AList.mem_lookup_iff.mp held, ?_⟩
    rw [← here]

theorem nodup_rows : v.rows.Nodup := by
  unfold rows
  refine List.Nodup.map_on ?_ (List.NodupKeys.nodup v.positions.nodupKeys)
  intro given0 _ given1 _ same
  rcases given0 with ⟨⟨symbol, side⟩, quantity⟩
  rcases given1 with ⟨⟨symbol', side'⟩, quantity'⟩
  cases same
  rfl

theorem lookup_change_self : (v.change symbol side quantity).positions.lookup (symbol, side) =
    if quantity = 0 then none else some quantity :=
  lookup_put_self _ _ _

theorem other_ne (side : Side) : side.other ≠ side := by
  cases side <;> decide

theorem eq_other_of_ne {side side' : Side} (other : side' ≠ side) : side' = side.other := by
  cases side <;> cases side' <;> first | rfl | exact absurd rfl other

/-- The other side of a changed symbol is closed. -/
theorem lookup_change_other
    (closed : v.hedge = true → v.positions.lookup (symbol, side.other) = none) :
    (v.change symbol side quantity).positions.lookup (symbol, side.other) = none := by
  unfold change
  rw [lookup_put_of_ne fun same => other_ne side (Prod.mk.inj same).2]
  split
  case isTrue hedged => exact closed hedged
  case isFalse => exact AList.lookup_erase _ _

theorem lookup_change_of_ne (other : symbol' ≠ symbol) (side' : Side) :
    (v.change symbol side quantity).positions.lookup (symbol', side') =
      v.positions.lookup (symbol', side') := by
  unfold change
  rw [lookup_put_of_ne fun same => other (Prod.mk.inj same).1]
  split
  · rfl
  · exact AList.lookup_erase_ne fun same => other (Prod.mk.inj same).1

/-- A change in one-way mode, or of a symbol whose other side is closed. -/
theorem Plain.change (plain : v.Plain) (name : symbol ≠ "" ∧ Python.upper symbol = symbol)
    (closed : v.hedge = true → v.positions.lookup (symbol, side.other) = none) :
    (v.change symbol side quantity).Plain := by
  have here : ∀ side' quantity', (v.change symbol side quantity).positions.lookup (symbol, side') =
      some quantity' → side' = side ∧ quantity' = quantity ∧ quantity ≠ 0 := by
    intro side' quantity' held
    by_cases same : side' = side
    · subst same
      rw [lookup_change_self] at held
      split at held
      · cases held
      case isFalse nonzero =>
        cases held
        exact ⟨rfl, rfl, nonzero⟩
    · rw [eq_other_of_ne same, lookup_change_other closed] at held
      cases held
  constructor
  · intro symbol' side' quantity' held
    by_cases same : symbol' = symbol
    · subst same
      obtain ⟨rfl, -⟩ := here side' quantity' held
      exact lookup_change_other closed
    · rw [lookup_change_of_ne same] at held ⊢
      exact plain.oneSided symbol' side' quantity' held
  · intro symbol' side' held
    by_cases same : symbol' = symbol
    · subst same
      obtain ⟨-, zero, nonzero⟩ := here side' 0 held
      exact nonzero zero.symm
    · rw [lookup_change_of_ne same] at held
      exact plain.open_ symbol' side' held
  · intro symbol' side' quantity' held
    by_cases same : symbol' = symbol
    · exact same ▸ name
    · rw [lookup_change_of_ne same] at held
      exact plain.named symbol' side' quantity' held

/-- The diff of a change says what the venue has of the symbol. -/
theorem shows_change
    (closed : v.hedge = true → v.positions.lookup (symbol, side.other) = none) :
    Shows (Snapshot.written ⟨symbol, if quantity = 0 then none else some side, quantity⟩)
      (v.change symbol side quantity) symbol := by
  intro row
  rw [mem_rows]
  unfold Snapshot.written
  constructor
  · intro held
    split at held
    · cases held
    case isFalse nonzero =>
      cases held
      refine ⟨⟨side, rfl, ?_⟩, rfl⟩
      rw [lookup_change_self, if_neg nonzero]
  · intro given
    rcases given with ⟨⟨side', here, held⟩, rfl⟩
    by_cases same : side' = side
    · subst same
      rw [lookup_change_self] at held
      split at held
      · cases held
      case isFalse nonzero =>
        obtain ⟨symbol, side, quantity'⟩ := row
        cases held
        cases here
        rw [if_neg nonzero, if_neg nonzero]
    · rw [eq_other_of_ne same, lookup_change_other closed] at held
      cases held

theorem shows_change_of_ne {w : Option Row} (shows_ : Shows w v symbol') (other : symbol' ≠ symbol) :
    Shows w (v.change symbol side quantity) symbol' := by
  intro row
  rw [shows_ row, mem_rows, mem_rows]
  refine and_congr_left fun here => exists_congr fun side' => ?_
  rw [here, lookup_change_of_ne other]

end

end Venue

/-! ## What is stored once the diffs are handled -/

def Event.row (e : Event) : Row := ⟨e.symbol, e.side, e.qty⟩

/-- The writes of the diffs that wait. -/
def writesOf (queue : List Event) : List (String × Option Row) :=
  queue.map fun e => (e.symbol, Snapshot.written e.row)

/-- The writes of a seed. -/
def seedWrites (rows : List Row) : List (String × Option Row) :=
  rows.map fun row => (row.symbol, Snapshot.written row)

section

variable {t t' : Bucket} {v : Venue} {queue : List Event} {rows : List Row}
  {symbol symbol' : String} {side : Side} {quantity : ℚ}

theorem keys_writesOf : (writesOf queue).map Prod.fst = queue.map Event.symbol := by
  unfold writesOf
  rw [List.map_map]
  rfl

theorem keys_seedWrites : (seedWrites rows).map Prod.fst = rows.map Row.symbol := by
  unfold seedWrites
  rw [List.map_map]
  rfl

theorem putAll_writesOf_diff (t : Bucket) (queue : List Event) :
    putAll t (writesOf (queue ++ [diffOf symbol side quantity])) =
      put (putAll t (writesOf queue)) symbol
        (Snapshot.written ⟨symbol, if quantity = 0 then none else some side, quantity⟩) := by
  unfold writesOf
  rw [List.map_append]
  exact putAll_concat _ _ _

/-- A change and its diff. -/
theorem shows_putAll_change
    (closed : v.hedge = true → v.positions.lookup (symbol, side.other) = none)
    (before : symbol' ≠ symbol → Shows ((putAll t (writesOf queue)).lookup symbol') v symbol') :
    Shows ((putAll t (writesOf (queue ++ [diffOf symbol side quantity]))).lookup symbol')
      (v.change symbol side quantity) symbol' := by
  rw [putAll_writesOf_diff]
  by_cases here : symbol' = symbol
  · subst here
    rw [lookup_put_self]
    exact Venue.shows_change closed
  · rw [lookup_put_of_ne here]
    exact Venue.shows_change_of_ne (before here) here

/-- The listing of a venue says what it has of each symbol. -/
theorem Venue.Plain.shows_rows (plain : v.Plain) (symbol : String) :
    Shows ((putAll ∅ (seedWrites v.rows)).lookup symbol) v symbol := by
  have nonzero : ∀ row ∈ v.rows, Snapshot.written row = some row := by
    intro row mem
    obtain ⟨side, -, held⟩ := Venue.mem_rows.mp mem
    refine if_neg fun zero => plain.open_ row.symbol side ?_
    rw [held, zero]
  have distinct : ((seedWrites v.rows).map Prod.fst).Nodup := by
    rw [keys_seedWrites]
    refine List.Nodup.map_on ?_ Venue.nodup_rows
    intro row mem row' mem' same
    obtain ⟨side, here, held⟩ := Venue.mem_rows.mp mem
    obtain ⟨side', here', held'⟩ := Venue.mem_rows.mp mem'
    rw [← same] at held'
    by_cases sides : side' = side
    · subst sides
      have quantities := Option.some.inj (held.symm.trans held')
      obtain ⟨symbol, side, quantity⟩ := row
      obtain ⟨symbol', side', quantity'⟩ := row'
      cases same
      cases quantities
      cases here
      cases here'
      rfl
    · rw [Venue.eq_other_of_ne sides, plain.oneSided _ _ _ held] at held'
      cases held'
  intro row
  rw [lookup_putAll]
  have listed : lastOf (seedWrites v.rows) symbol = some (some row) ↔
      row ∈ v.rows ∧ row.symbol = symbol := by
    rw [lastOf_eq_some_iff distinct]
    unfold seedWrites
    rw [List.mem_map]
    constructor
    · intro given
      rcases given with ⟨row', mem, same⟩
      rw [nonzero row' mem] at same
      cases same
      exact ⟨mem, rfl⟩
    · intro given
      rcases given with ⟨mem, rfl⟩
      exact ⟨row, mem, by rw [nonzero row mem]⟩
  rw [← listed]
  cases last : lastOf (seedWrites v.rows) symbol with
  | none => exact iff_of_false (by rintro ⟨⟩) (by rintro ⟨⟩)
  | some w => exact Option.some_inj.symm

end

/-! ## The seed -/

section

variable {snapshot : Snapshot} {now : Nat} {rows : List Row}

/-- A seed of upper-case symbols is a list of writes. -/
theorem seed_writes (mirrored : snapshot.Mirrored now)
    (named : ∀ row ∈ rows, row.symbol ≠ "" ∧ Python.upper row.symbol = row.symbol) :
    (rows.foldl (Stream.seedRow now) snapshot).Mirrored now ∧
      (rows.foldl (Stream.seedRow now) snapshot).status = snapshot.status ∧
        ∀ symbol, (rows.foldl (Stream.seedRow now) snapshot).hash.lookup symbol =
          (putAll snapshot.hash (seedWrites rows)).lookup symbol := by
  induction rows generalizing snapshot with
  | nil => exact ⟨mirrored, rfl, fun _ => rfl⟩
  | cons row rows ih =>
      obtain ⟨name, upper⟩ := named row List.mem_cons_self
      have written : Stream.seedRow now snapshot row =
          snapshot.updatePosition now row.symbol row := by
        unfold Stream.seedRow
        rw [upper]
        exact if_neg name
      rw [List.foldl_cons, written]
      obtain ⟨kept, status, held⟩ := ih (mirrored.updatePosition rfl)
        fun row' mem => named row' (List.mem_cons_of_mem _ mem)
      refine ⟨kept, status, fun symbol => ?_⟩
      rw [held symbol]
      exact lookup_putAll_congr fun _ => Snapshot.lookup_updatePosition mirrored symbol

end

/-! ## Each step -/

namespace Stream

/-- What the snapshot will hold of a symbol once the diffs that wait are handled. -/
def eventual (s : Stream) (symbol : String) : Option Row :=
  (putAll s.snapshot.hash (writesOf s.queue)).lookup symbol

/-- Of a symbol that has changed since the subscription the snapshot will hold what the venue
has; a listing on its way and the diffs that wait make up all that it has; and so does the
snapshot of a seeded session. -/
structure Follows (s : Stream) : Prop where
  plain : s.venue.Plain
  mirrored : s.snapshot.Mirrored s.now
  halted : s.running = false → s.phase = .idle
  state : s.state = .live ↔ s.phase = .live
  status : ∀ at_, s.snapshot.status = some (.live, at_) → s.phase = .live
  changed : s.phase ≠ .idle → ∀ symbol ∈ s.changed, Shows (s.eventual symbol) s.venue symbol
  waiting : s.phase ≠ .idle → s.phase ≠ .live → s.changed = s.queue.map Event.symbol
  answered : ∀ rows, s.phase = .answered rows →
    (∀ row ∈ rows, row.symbol ≠ "" ∧ Python.upper row.symbol = row.symbol) ∧
      ∀ symbol, Shows ((putAll (putAll ∅ (seedWrites rows)) (writesOf s.queue)).lookup symbol)
        s.venue symbol
  seeded : s.phase = .live → s.seeded = true → ∀ symbol, Shows (s.eventual symbol) s.venue symbol

section

variable {s s' : Stream}

/-- A stream without a session. -/
structure Off (s : Stream) : Prop where
  plain : s.venue.Plain
  mirrored : s.snapshot.Mirrored s.now
  idle : s.phase = .idle
  state : s.state ≠ .live
  status : ∀ at_, s.snapshot.status ≠ some (.live, at_)

theorem Off.follows (off : s.Off) : s.Follows where
  plain := off.plain
  mirrored := off.mirrored
  halted _ := off.idle
  state := iff_of_false off.state fun live => nomatch off.idle.symm.trans live
  status at_ held := absurd held (off.status at_)
  changed connected := absurd off.idle connected
  waiting connected := absurd off.idle connected
  answered _ phase := nomatch off.idle.symm.trans phase
  seeded live := nomatch off.idle.symm.trans live

theorem Follows.running (follows : s.Follows) (phase : s.phase ≠ .idle) : s.running = true := by
  cases running : s.running with
  | true => rfl
  | false => exact absurd (follows.halted running) phase

/-- A status is written when the state changes. -/
theorem setState_eq (s : Stream) (state : Status) : ∃ status,
    s.setState state = { s with state, snapshot := { s.snapshot with status } } ∧
      (status = some (state, s.now) ∨ status = s.snapshot.status ∧ s.state = state) := by
  unfold setState
  split
  case isTrue same => exact ⟨s.snapshot.status, by rw [← same], Or.inr ⟨rfl, same⟩⟩
  case isFalse => exact ⟨some (state, s.now), rfl, Or.inl rfl⟩

theorem mirrored_status {now : Nat} {snapshot : Snapshot} (mirrored : snapshot.Mirrored now)
    (status : Option (Status × Nat)) : { snapshot with status : Snapshot }.Mirrored now :=
  ⟨mirrored.same, mirrored.fresh, mirrored.keyed⟩

/-- A state that is not LIVE is set after the session. -/
theorem off_setState (state : Status) (notLive : state ≠ .live) (plain : s.venue.Plain)
    (mirrored : s.snapshot.Mirrored s.now) (idle : s.phase = .idle)
    (live : ∀ at_, s.snapshot.status = some (.live, at_) → s.state = .live) :
    (s.setState state).Off := by
  obtain ⟨status, eq, written⟩ := setState_eq s state
  rw [eq]
  refine ⟨plain, mirrored_status mirrored status, idle, notLive, fun at_ held => ?_⟩
  rcases written with rfl | ⟨rfl, same⟩
  · cases held
    exact notLive rfl
  · exact notLive (same.symm.trans (live at_ held))

theorem Follows.fails (follows : s.Follows) (permanent : Bool) : (s.fails permanent).Follows := by
  unfold Stream.fails
  have live : ∀ at_, s.snapshot.status = some (.live, at_) → s.state = .live :=
    fun at_ held => follows.state.mpr (follows.status at_ held)
  have notLive : (if permanent then Status.dead else .degraded) ≠ .live := by
    cases permanent <;> decide
  have ended := off_setState (s := { s with
    reconnectAttempt := if permanent then maxReconnect else s.reconnectAttempt + 1
    authFailed := s.authFailed || permanent
    phase := .idle
    queue := [] }) _ notLive follows.plain follows.mirrored rfl live
  dsimp only
  by_cases exhausted :
      maxReconnect ≤ if permanent then maxReconnect else s.reconnectAttempt + 1
  · rw [if_pos exhausted]
    have off := off_setState .dead nofun ended.plain ended.mirrored ended.idle
      fun at_ held => absurd held (ended.status at_)
    exact Off.follows ⟨off.plain, off.mirrored, off.idle, off.state, off.status⟩
  · rw [if_neg exhausted]
    exact ended.follows

/-- A session goes LIVE. -/
theorem follows_goLive {seeded : Bool} (plain : s.venue.Plain) (mirrored : s.snapshot.Mirrored s.now)
    (running : s.running = true)
    (changed : ∀ symbol ∈ s.changed, Shows (s.eventual symbol) s.venue symbol)
    (whole : seeded = true → ∀ symbol, Shows (s.eventual symbol) s.venue symbol) :
    (s.goLive seeded).Follows := by
  unfold goLive
  obtain ⟨status, eq, -⟩ :=
    setState_eq { s with reconnectAttempt := 0, phase := .live, seeded } .live
  rw [eq]
  exact {
    plain := plain
    mirrored := mirrored_status mirrored status
    halted := fun halted => nomatch running.symm.trans halted
    state := iff_of_true rfl rfl
    status := fun _ _ => rfl
    changed := fun _ => changed
    waiting := fun _ notLive => absurd rfl notLive
    answered := fun _ phase => nomatch phase
    seeded := fun _ => whole }

/-- The venue changes while the stream is connected. -/
theorem Follows.change (follows : s.Follows) (connected : s.phase ≠ .idle) {symbol : String}
    {side : Side} {quantity : ℚ} (name : symbol ≠ "" ∧ Python.upper symbol = symbol)
    (closed : s.venue.hedge = true → s.venue.positions.lookup (symbol, side.other) = none) :
    { s with
      venue := s.venue.change symbol side quantity
      queue := s.queue ++ [diffOf symbol side quantity]
      changed := s.changed ++ [symbol] : Stream }.Follows where
  plain := follows.plain.change name closed
  mirrored := follows.mirrored
  halted := follows.halted
  state := follows.state
  status := follows.status
  changed _ symbol' mem := by
    refine shows_putAll_change closed fun other => ?_
    rcases List.mem_append.mp mem with old | new
    · exact follows.changed connected symbol' old
    · exact absurd (List.mem_singleton.mp new) other
  waiting _ notLive := by
    rw [List.map_append, follows.waiting connected notLive]
    rfl
  answered rows phase := by
    obtain ⟨named, listed⟩ := follows.answered rows phase
    exact ⟨named, fun symbol' => shows_putAll_change closed fun _ => listed symbol'⟩
  seeded live seeded symbol' :=
    shows_putAll_change closed fun _ => follows.seeded live seeded symbol'

/-- The diff at the front is handled. -/
theorem Follows.recv (follows : s.Follows) (live : s.phase = .live) {e : Event} {queue : List Event}
    (waits : s.queue = e :: queue) : ({ s with queue }.dispatchEvent e).Follows := by
  have same : ∀ symbol, ({ s with queue }.dispatchEvent e).eventual symbol = s.eventual symbol := by
    intro symbol
    unfold eventual
    rw [waits]
    exact lookup_putAll_congr fun _ => Snapshot.lookup_updatePosition follows.mirrored symbol
  exact {
    plain := follows.plain
    mirrored := follows.mirrored.updatePosition rfl
    halted := follows.halted
    state := follows.state
    status := follows.status
    changed := fun connected symbol mem => by
      rw [same]
      exact follows.changed connected symbol mem
    waiting := fun _ notLive => absurd live notLive
    answered := fun _ phase => nomatch live.symm.trans phase
    seeded := fun phase seeded symbol => by
      rw [same]
      exact follows.seeded phase seeded symbol }

/-- The listing is made while the diffs that wait are on their way. -/
theorem Follows.answer (follows : s.Follows) (subscribed : s.phase = .subscribed) :
    { s with phase := .answered s.venue.rows : Stream }.Follows := by
  have connected : s.phase ≠ .idle := fun idle => nomatch subscribed.symm.trans idle
  have notLive : s.phase ≠ .live := fun live => nomatch subscribed.symm.trans live
  have waiting := follows.waiting connected notLive
  have whole : ∀ symbol, Shows
      ((putAll (putAll ∅ (seedWrites s.venue.rows)) (writesOf s.queue)).lookup symbol)
        s.venue symbol := by
    intro symbol
    by_cases waits : symbol ∈ (writesOf s.queue).map Prod.fst
    · have base : (putAll (putAll ∅ (seedWrites s.venue.rows)) (writesOf s.queue)).lookup symbol =
          s.eventual symbol := lookup_putAll_congr fun absent => absurd waits absent
      rw [base]
      rw [keys_writesOf, ← waiting] at waits
      exact follows.changed connected symbol waits
    · rw [lookup_putAll_of_not_mem waits]
      exact follows.plain.shows_rows symbol
  exact {
    plain := follows.plain
    mirrored := follows.mirrored
    halted := fun halted => absurd (follows.halted halted) connected
    state := iff_of_false (fun live => notLive (follows.state.mp live)) nofun
    status := fun at_ held => absurd (follows.status at_ held) notLive
    changed := fun _ => follows.changed connected
    waiting := fun _ _ => waiting
    answered := fun rows phase => by
      cases phase
      refine ⟨fun row mem => ?_, whole⟩
      obtain ⟨side, -, held⟩ := Venue.mem_rows.mp mem
      exact follows.plain.named _ _ _ held
    seeded := fun phase => nomatch phase }

/-- The seed lists every stored position that has no diff waiting. -/
theorem Follows.seed (follows : s.Follows) {rows : List Row} (phase : s.phase = .answered rows)
    (listed : ∀ symbol ∈ s.snapshot.hash.keys,
      symbol ∈ rows.map Row.symbol ∨ symbol ∈ s.queue.map Event.symbol) :
    ((s.seedFromRest rows).goLive true).Follows := by
  obtain ⟨named, covers⟩ := follows.answered rows phase
  obtain ⟨mirrored, -, held⟩ := seed_writes follows.mirrored named
  have connected : s.phase ≠ .idle := fun idle => nomatch phase.symm.trans idle
  have whole : ∀ symbol, Shows ((s.seedFromRest rows).eventual symbol) s.venue symbol := by
    intro symbol
    have same : (s.seedFromRest rows).eventual symbol =
        (putAll (putAll ∅ (seedWrites rows)) (writesOf s.queue)).lookup symbol := by
      refine lookup_putAll_congr fun noDiff => ?_
      refine (held symbol).trans (lookup_putAll_congr fun unlisted => ?_)
      rw [keys_writesOf] at noDiff
      rw [keys_seedWrites] at unlisted
      refine AList.lookup_eq_none.mpr fun stored => ?_
      exact (listed symbol stored).elim unlisted noDiff
    rw [same]
    exact covers symbol
  exact follows_goLive follows.plain mirrored (follows.running connected)
    (fun symbol _ => whole symbol) fun _ => whole

theorem follows_initial (hedge : Bool) : (initial hedge).Follows :=
  Off.follows ⟨⟨nofun, nofun, nofun⟩, Snapshot.mirrored_empty, rfl, nofun, nofun⟩

theorem preserves_follows : Preserves step Fits Follows := by
  intro s act s' follows fits stepped
  cases act with
  | wait d =>
      cases stepped
      exact ⟨follows.plain, ⟨follows.mirrored.same, fits, follows.mirrored.keyed⟩, follows.halted,
        follows.state, follows.status, follows.changed, follows.waiting, follows.answered,
        follows.seeded⟩
  | change symbol side quantity =>
      obtain ⟨name, upper, closed⟩ := fits
      dsimp only [step] at stepped
      split at stepped
      case h_1 idle =>
        cases stepped
        refine Off.follows ⟨follows.plain.change ⟨name, upper⟩ closed, follows.mirrored, idle,
          fun live => ?_, fun at_ held => ?_⟩
        · exact nomatch idle.symm.trans (follows.state.mp live)
        · exact nomatch idle.symm.trans (follows.status at_ held)
      case h_2 connected =>
        cases stepped
        exact follows.change connected ⟨name, upper⟩ closed
  | start =>
      obtain ⟨⟨halted, -⟩, started⟩ := Option.ite_none_right_eq_some.mp stepped
      cases started
      have idle := follows.halted halted
      refine Off.follows ⟨follows.plain, follows.mirrored, idle, nofun, fun at_ held => ?_⟩
      exact nomatch idle.symm.trans (follows.status at_ held)
  | stop =>
      cases stepped
      exact Off.follows ⟨follows.plain, Snapshot.mirrored_empty, rfl, nofun, nofun⟩
  | refused permanent =>
      dsimp only [step] at stepped
      split at stepped
      · obtain ⟨-, failed⟩ := Option.ite_none_right_eq_some.mp stepped
        cases failed
        exact follows.fails permanent
      · cases stepped
  | subscribe =>
      dsimp only [step] at stepped
      split at stepped
      case h_1 idle =>
        obtain ⟨running, subscribed⟩ := Option.ite_none_right_eq_some.mp stepped
        cases subscribed
        exact {
          plain := follows.plain
          mirrored := follows.mirrored
          halted := fun halted => nomatch running.symm.trans halted
          state := iff_of_false (fun live => nomatch idle.symm.trans (follows.state.mp live)) nofun
          status := fun at_ held => nomatch idle.symm.trans (follows.status at_ held)
          changed := fun _ _ mem => nomatch mem
          waiting := fun _ _ => rfl
          answered := fun _ phase => nomatch phase
          seeded := fun phase => nomatch phase }
      case h_2 => cases stepped
  | answer =>
      dsimp only [step] at stepped
      split at stepped
      case h_1 subscribed =>
        cases stepped
        exact follows.answer subscribed
      case h_2 => cases stepped
  | seed =>
      dsimp only [step] at stepped
      dsimp only [Fits] at fits
      cases phase : s.phase with
      | idle => rw [phase] at stepped; cases stepped
      | subscribed => rw [phase] at stepped; cases stepped
      | live => rw [phase] at stepped; cases stepped
      | answered rows =>
          rw [phase] at stepped fits
          cases stepped
          exact follows.seed phase fits
  | seedFails =>
      dsimp only [step] at stepped
      have unseeded : s.phase ≠ .idle → (s.goLive false).Follows := fun connected =>
        follows_goLive follows.plain follows.mirrored (follows.running connected)
          (follows.changed connected) nofun
      split at stepped
      case h_1 subscribed =>
        cases stepped
        exact unseeded fun idle => nomatch subscribed.symm.trans idle
      case h_2 answered =>
        cases stepped
        exact unseeded fun idle => nomatch answered.symm.trans idle
      case h_3 => cases stepped
  | recv =>
      dsimp only [step] at stepped
      split at stepped
      case h_1 live waits =>
        cases stepped
        exact follows.recv live waits
      case h_2 => cases stepped
  | heartbeat =>
      obtain ⟨live, beaten⟩ := Option.ite_none_right_eq_some.mp stepped
      cases beaten
      exact ⟨follows.plain, mirrored_status follows.mirrored _, follows.halted, follows.state,
        fun _ _ => follows.state.mp live, follows.changed, follows.waiting, follows.answered,
        follows.seeded⟩
  | drop =>
      dsimp only [step] at stepped
      split at stepped
      · cases stepped
        exact follows.fails false
      · cases stepped

/-- What a process reads of a LIVE snapshot whose diffs have been handled. -/
theorem Follows.read (follows : s.Follows) (settled : s.Settled) (process : Process) :
    (s.seeded = true → (s.getPositions process).Perm s.venue.rows) ∧
      ∀ row, row.symbol ∈ s.changed → (row ∈ s.getPositions process ↔ row ∈ s.venue.rows) := by
  obtain ⟨status, handled⟩ := settled
  obtain ⟨⟨state, at_⟩, written, rfl⟩ := Option.map_eq_some_iff.mp status
  have live := follows.status at_ (Option.filter_eq_some_iff.mp written).1
  have connected : s.phase ≠ .idle := fun idle => nomatch live.symm.trans idle
  have same : ∀ row, Shows (s.eventual row.symbol) s.venue row.symbol →
      (row ∈ s.getPositions process ↔ row ∈ s.venue.rows) := by
    intro row shows_
    unfold eventual at shows_
    rw [handled] at shows_
    exact follows.mirrored.mem_getPositions.trans ((shows_ row).trans (and_iff_left rfl))
  refine ⟨fun seeded => ?_, fun row mem => same row (follows.changed connected _ mem)⟩
  have nodup := (follows.mirrored.nodup_getPositions process).of_map
  refine (List.perm_ext_iff_of_nodup nodup Venue.nodup_rows).mpr fun row => ?_
  exact same row (follows.seeded live seeded _)

end

end Stream

/-- A LIVE snapshot follows the venue from its seed on, or from the first change of a symbol. -/
theorem alwaysFollows_fits : AlwaysFollows Stream.Fits := by
  intro hedge s run settled process
  have follows := run.invariant Stream.preserves_follows (Stream.follows_initial hedge)
  exact follows.read settled process

/-! ## Concrete runs -/

namespace Stream

variable {s : Stream}

instance : Decidable s.Settled :=
  inferInstanceAs (Decidable (_ ∧ _))

instance : ∀ act, Decidable (s.Fits act)
  | .change _ _ _ => inferInstanceAs (Decidable (_ ∧ _ ∧ (_ → _)))
  | .wait _ => inferInstanceAs (Decidable (_ ∨ _))
  | .seed =>
      match phase : s.phase with
      | .answered rows => decidable_of_iff (∀ symbol ∈ s.snapshot.hash.keys,
          symbol ∈ rows.map Row.symbol ∨ symbol ∈ s.queue.map Event.symbol)
          (by dsimp only [Fits]; rw [phase])
      | .idle => isTrue (by dsimp only [Fits]; rw [phase]; trivial)
      | .subscribed => isTrue (by dsimp only [Fits]; rw [phase]; trivial)
      | .live => isTrue (by dsimp only [Fits]; rw [phase]; trivial)
  | .start | .stop | .refused _ | .subscribe | .answer | .seedFails | .recv | .heartbeat | .drop =>
      isTrue trivial

end Stream

def connect : List StreamAct :=
  [.subscribe, .answer, .seed]

/-- A position grows while the stream is disconnected, another is closed after it has come back. -/
example : (execGuarded Stream.step Stream.Fits (Stream.initial true)
    ([.start, .change "BTC" .buy 1, .change "ETH" .sell 2] ++ connect ++
      [.drop, .change "BTC" .buy 3, .subscribe, .change "ETH" .sell 0, .answer, .seed, .recv])).map
        (fun s => s.getPositions .web) = some [⟨"BTC", some .buy, 3⟩] := by
  decide +kernel

/-- A run that ends with other positions in the snapshot than the venue has open. -/
theorem not_matches {ok : Stream → StreamAct → Prop} [∀ s act, Decidable (ok s act)]
    (hedge : Bool) (process : Process) (as : List StreamAct)
    (ran : (execGuarded Stream.step ok (Stream.initial hedge) as).map (fun s =>
      (decide s.Settled, decide ((s.getPositions process).Perm s.venue.rows))) =
        some (true, false)) : ¬AlwaysMatches ok := by
  intro always
  obtain ⟨s, executed, read⟩ := Option.map_eq_some_iff.mp ran
  obtain ⟨settled, apart⟩ := Prod.mk.inj read
  exact of_decide_eq_false apart
    (always hedge s (Run.of_execGuarded executed) (of_decide_eq_true settled) process)

def StreamAct.IsSeedFails : StreamAct → Bool
  | .seedFails => true
  | _ => false

def StreamAct.IsDrop : StreamAct → Bool
  | .drop => true
  | _ => false

/-- A session without a seed does not know the positions that were open; with every seed, a position
that was closed while the stream was disconnected stays, the sides of a symbol share one entry, and
the hash expires. -/
theorem alwaysMatches_broken :
    (¬AlwaysMatches Stream.Fits) ∧
      (¬AlwaysMatches fun _ act => act.IsSeedFails = false) ∧
        (¬AlwaysMatches fun _ act => act.IsSeedFails = false ∧ act.IsDrop = false) ∧
          ¬AlwaysMatches fun _ _ => True :=
  ⟨not_matches false .web [.change "BTC" .buy 1, .start, .subscribe, .seedFails] (by decide +kernel),
    not_matches false .fetcher ([.start, .change "BTC" .buy 1] ++ connect ++
      [.drop, .change "BTC" .buy 0] ++ connect) (by decide +kernel),
    not_matches true .fetcher ([.start] ++ connect ++
      [.change "BTC" .buy 1, .change "BTC" .sell 2, .recv, .recv]) (by decide +kernel),
    not_matches false .web ([.start, .change "BTC" .buy 1] ++ connect ++
      [.wait (600 * 1000000000), .heartbeat]) (by decide +kernel)⟩

end UserStream

end Avalant
