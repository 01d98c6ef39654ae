import Avalant.Ws.LongShort

/-!
The DEX and funding tables, once the file has stopped changing.

What a channel has read of the file it delivers, unless the guard holds the table
back: its modification time is remembered all the same, so that no later tick
reads it again. A first snapshot is remembered in the same way, whoever else is
connected.
-/

namespace Avalant

open Replica Transition

variable {V : Type} {feed : Feed V}

namespace Channel

variable {s s' : Channel V} {doc : Doc V} {now : Time}

/-! ## What the code looks at -/

/-- The seconds the guard waits after a broadcast, where it waits. -/
def guardWindow : Time := 5

/-- The next tick passes the file over by its modification time. -/
def passes (feed : Feed V) (s : Channel V) : Bool :=
  s.file.any fun file =>
    feed.remembersFile && decide (file.mtime ≠ 0 ∧ file.mtime = s.lastFileMtime)

/-- Less than half of the rows of the last broadcast. -/
def shrunk (feed : Feed V) (s : Channel V) (doc : Doc V) : Bool :=
  decide (feed.unguarded < s.lastByKey.keys.length ∧
    (feed.byKey doc.rows).keys.length < s.lastByKey.keys.length / 2)

/-- Since the last write, ticks have been going on for longer than the guard waits. -/
def overdue (s : Channel V) (now : Time) : Bool :=
  s.ticks.any fun ticks => decide (guardWindow < now - ticks.first)

/-! ## The conditions -/

/-- A client may be served from the file: no write falls inside the read, and neither a tick nor
another client is left with older content. -/
structure FirstRead (feed : Feed V) (s : Channel V) (rewrite : Option (SourceFile V))
    (doc : Doc V) : Prop where
  alike : ∀ row ∈ doc.rows, feed.clientKey row = feed.key row
  whole : feed.remembersFile = true → rewrite.isNone = true
  fresh : feed.remembersFile = true → ∀ r ∈ s.reading, r.fresh = true
  shared : feed.remembersFile = true → s.reading.isNone = true → ∀ c ∈ s.clients,
    ∀ t ∈ c.expected feed, Agree feed.differs t (feed.byKey doc.rows)

/-- A tick may commit. -/
structure Commits [DecidableEq V] (feed : Feed V) (s : Channel V) (doc : Doc V) (now : Time) :
    Prop where
  /-- The guard does not go on holding the table back. -/
  timely : s.overdue now = true → s.guarded feed doc now = false
  settled : s.guarded feed doc now = false → s.unchanged feed doc = false → s.Settled feed doc
  /-- Before the first broadcast a table without rows is not sent, so nobody has a row. -/
  held : s.unchanged feed doc = true → s.lastBroadcastAt = none → ∀ c ∈ s.clients,
    ∀ t ∈ c.expected feed, t.keys = []
  cached : s.unchanged feed doc = true → s.lastBroadcastAt = none → ∀ old ∈ s.lastSnapshot,
    (feed.tableOf old).keys = []

/-- No write brings a remembered time back, what is read may be delivered, and no shrunken table is
held back or passed over for longer than the guard waits. -/
def Lands [DecidableEq V] (feed : Feed V) (s : Channel V) : ChannelAct V → Prop
  | .write file => (s.write file).passes feed = true → s.passes feed = true
  | .snapshot _ rewrite => s.lastSnapshot.isNone = true →
      ∀ doc ∈ s.content, s.FirstRead feed rewrite doc
  | .tick now rewrite => ((s.rewrite rewrite).passes feed = true → s.passes feed = true) ∧
      (s.overdue now = true → s.passes feed = true → ∀ doc ∈ s.content, s.shrunk feed doc = false)
  | .commit now => ∀ r ∈ s.reading, s.Commits feed r.doc now
  | .register | .reply _ | .disconnect _ => True

section

variable (feed : Feed V) (s : Channel V)

instance (rewrite : Option (SourceFile V)) (doc : Doc V) : Decidable (s.FirstRead feed rewrite doc) :=
  decidable_of_iff ((∀ row ∈ doc.rows, feed.clientKey row = feed.key row) ∧
      (feed.remembersFile = true → rewrite.isNone = true) ∧
      (feed.remembersFile = true → ∀ r ∈ s.reading, r.fresh = true) ∧
      (feed.remembersFile = true → s.reading.isNone = true → ∀ c ∈ s.clients,
        ∀ t ∈ c.expected feed, Agree feed.differs t (feed.byKey doc.rows)))
    ⟨fun ⟨alike, whole, fresh, shared⟩ => ⟨alike, whole, fresh, shared⟩,
      fun read => ⟨read.alike, read.whole, read.fresh, read.shared⟩⟩

variable [DecidableEq V]

instance (doc : Doc V) (now : Time) : Decidable (s.Commits feed doc now) :=
  decidable_of_iff ((s.overdue now = true → s.guarded feed doc now = false) ∧
      (s.guarded feed doc now = false → s.unchanged feed doc = false → s.Settled feed doc) ∧
      (s.unchanged feed doc = true → s.lastBroadcastAt = none → ∀ c ∈ s.clients,
        ∀ t ∈ c.expected feed, t.keys = []) ∧
      (s.unchanged feed doc = true → s.lastBroadcastAt = none → ∀ old ∈ s.lastSnapshot,
        (feed.tableOf old).keys = []))
    ⟨fun ⟨timely, settled, held, cached⟩ => ⟨timely, settled, held, cached⟩,
      fun commits => ⟨commits.timely, commits.settled, commits.held, commits.cached⟩⟩

instance : (a : ChannelAct V) → Decidable (s.Lands feed a)
  | .write _ | .snapshot _ _ => inferInstanceAs (Decidable (_ → _))
  | .tick _ _ => inferInstanceAs (Decidable (_ ∧ _))
  | .commit _ => inferInstanceAs (Decidable (∀ _ ∈ _, _))
  | .register | .reply _ | .disconnect _ => inferInstanceAs (Decidable True)

end

/-- Different contents have different modification times. -/
def Stamped (contents : Int → Option (Doc V)) : ChannelAct V → Prop
  | .write (some file) | .snapshot _ (some file) | .tick _ (some file) =>
      file.doc = contents file.mtime
  | _ => True

/-! ## Convergence in a state -/

/-- The ticks since the last write span more than the window of the guard. -/
inductive Quiet (s : Channel V) : Prop
  | intro (ticks : Ticks) : s.ticks = some ticks → guardWindow < ticks.last - ticks.first → Quiet s

/-- When all is quiet, every client that has its reply holds the table of the file. -/
def Converged (feed : Feed V) (s : Channel V) : Prop :=
  s.Quiet → ∀ doc, s.content = some doc → ∀ c ∈ s.clients, c.isLive = true →
    Agree feed.differs (c.table feed) (feed.byKey doc.rows)

/-! ## Delivery -/

/-- Every client holds this table, or is about to. -/
structure Delivered (feed : Feed V) (s : Channel V) (doc : Doc V) : Prop where
  clients : ∀ c ∈ s.clients, ∀ t ∈ c.expected feed, Agree feed.differs t (feed.byKey doc.rows)
  snapshot : ∀ old, s.lastSnapshot = some old →
    Agree feed.differs (feed.tableOf old) (feed.byKey doc.rows)
  empty : s.lastSnapshot = none → Agree feed.differs ∅ (feed.byKey doc.rows)

theorem Delivered.of_same (delivered : s.Delivered feed doc) (same : SameTables s s') :
    s'.Delivered feed doc := by
  obtain ⟨clients, snapshot, empty⟩ := delivered
  constructor
  · rw [same.clients]
    exact clients
  · rw [same.lastSnapshot]
    exact snapshot
  · rw [same.lastSnapshot]
    exact empty

theorem Delivered.setClient {i : Nat} {c : Client V} (delivered : s.Delivered feed doc)
    (expected : ∀ t ∈ c.expected feed, Agree feed.differs t (feed.byKey doc.rows)) :
    (s.setClient i c).Delivered feed doc := by
  refine ⟨fun c' member => ?_, delivered.snapshot, delivered.empty⟩
  rcases List.mem_or_eq_of_mem_set member with old | rfl
  · exact delivered.clients c' old
  · exact expected

theorem Delivered.register (delivered : s.Delivered feed doc) :
    Delivered feed { s with clients := s.clients ++ [{}] } doc := by
  refine ⟨fun c member t expects => ?_, delivered.snapshot, delivered.empty⟩
  rcases List.mem_append.mp member with old | new
  · exact delivered.clients c old t expects
  · rw [List.mem_singleton.mp new] at expects
    cases expects

/-- A replica without rows agrees with a table that agrees with the empty one. -/
theorem agree_of_keys_eq_nil {t u : Store String (Row V)} (empty : Agree feed.differs ∅ u)
    (nothing : t.keys = []) : Agree feed.differs t u := by
  intro k
  have missing : t.lookup k = none := by
    refine AList.lookup_eq_none.mpr fun member => ?_
    have held := AList.mem_keys.mp member
    rw [nothing] at held
    cases held
  have relation := empty k
  rw [AList.lookup_empty] at relation
  rw [missing]
  exact relation

theorem shrunk_of_same (same : SameTables s s') : s'.shrunk feed doc = s.shrunk feed doc := by
  unfold shrunk
  rw [same.lastByKey]

/-- A table that is held back has shrunk. -/
theorem shrunk_of_guarded (guarded : s.guarded feed doc now = true) :
    s.shrunk feed doc = true :=
  (Bool.and_eq_true _ _ |>.mp guarded).1

/-- Nothing shrinks before the first broadcast. -/
theorem shrunk_of_cold (synced : s.Synced feed) (cold : s.lastBroadcastAt = none) :
    s.shrunk feed doc = false := by
  unfold shrunk
  rw [synced.base cold]
  apply decide_eq_false
  intro given
  rcases given with ⟨many, -⟩
  cases many

section

variable [DecidableEq V]

theorem delivered_of_send (synced : s.Synced feed) (settled : s.Settled feed doc) :
    (s.send feed doc now).Delivered feed doc := by
  refine ⟨fun c member => ?_, fun old cached => ?_, fun missing => ?_⟩
  · unfold Channel.send at member
    obtain ⟨c₀, known, rfl⟩ := mem_broadcast member
    exact expected_of_send synced settled known _
  · cases cached
    rw [Feed.tableOf_eq_byKey settled.alike]
    exact Agree.refl feed.equivalence _
  · cases missing

/-- A table that need not be sent is there already. -/
theorem delivered_of_unchanged (synced : s.Synced feed) (commits : s.Commits feed doc now)
    (unchanged : s.unchanged feed doc = true) : s.Delivered feed doc := by
  have same : Agree feed.differs s.lastByKey (feed.byKey doc.rows) :=
    agree_of_isEmpty (Bool.and_eq_true _ _ |>.mp unchanged).1
  cases sent : s.lastBroadcastAt with
  | some at_ =>
      have warm : s.lastBroadcastAt.isSome = true := by
        rw [sent]
        rfl
      obtain ⟨last, cached, agree⟩ := synced.snapshot warm
      refine ⟨fun c member t expects => ?_, fun old known => ?_, fun missing => ?_⟩
      · exact (synced.clients warm c member t expects).trans feed.equivalence same
      · rw [cached] at known
        cases known
        exact agree.trans feed.equivalence same
      · rw [cached] at missing
        cases missing
  | none =>
      have nothing : Agree feed.differs ∅ (feed.byKey doc.rows) := synced.base sent ▸ same
      refine ⟨fun c member t expects => ?_, fun old known => ?_, fun _ => nothing⟩
      · exact agree_of_keys_eq_nil nothing (commits.held unchanged sent c member t expects)
      · exact agree_of_keys_eq_nil nothing (commits.cached unchanged sent old known)

/-- What a tick commits is delivered, unless it is held back. -/
theorem delivered_of_commit (synced : s.Synced feed) (commits : s.Commits feed doc now)
    (unguarded : s.guarded feed doc now = false) : (commit feed s doc now).Delivered feed doc := by
  unfold commit
  rw [if_neg (Bool.eq_false_iff.mp unguarded)]
  split
  case isTrue unchanged => exact delivered_of_unchanged synced commits unchanged
  case isFalse changed =>
    exact delivered_of_send synced (commits.settled unguarded (Bool.eq_false_iff.mpr changed))

/-- What a commit leaves of the rest. -/
theorem commit_frame (feed : Feed V) (s : Channel V) (doc : Doc V) (now : Time) :
    (commit feed s doc now).file = s.file ∧
      (commit feed s doc now).lastFileMtime = s.lastFileMtime ∧
      (commit feed s doc now).reading = s.reading ∧ (commit feed s doc now).ticks = s.ticks := by
  unfold commit
  split
  · exact ⟨rfl, rfl, rfl, rfl⟩
  · split
    · exact ⟨rfl, rfl, rfl, rfl⟩
    · exact ⟨rfl, rfl, rfl, rfl⟩

end

/-! ## The invariant -/

/-- Delivered, or held back by the guard. -/
def Settles (feed : Feed V) (s : Channel V) (doc : Doc V) : Prop :=
  s.Delivered feed doc ∨ s.shrunk feed doc = true

/-- A file that ticks pass over is being read or has been read, and what was read settles. -/
structure Current (feed : Feed V) (contents : Int → Option (Doc V)) (s : Channel V) : Prop where
  stamped : ∀ file, s.file = some file → file.doc = contents file.mtime
  reads : s.passes feed = true → ∀ r, s.reading = some r → s.content = some r.doc
  settles : s.passes feed = true → s.reading = none → ∀ doc, s.content = some doc →
    s.Settles feed doc
  fresh : ∀ r, s.reading = some r → r.fresh = true → s.content = some r.doc
  stale : ∀ r, s.reading = some r → r.fresh = false → s.ticks = none
  ticked : s.ticks.isSome = true → ∀ doc, s.content = some doc → s.Settles feed doc
  quiet : s.Quiet → ∀ doc, s.content = some doc → s.Delivered feed doc

theorem current_initial (feed : Feed V) (contents : Int → Option (Doc V)) :
    feed.initial.Current feed contents := by
  refine ⟨fun _ stored => ?_, fun passes => ?_, fun passes => ?_, fun _ reading => ?_,
    fun _ reading => ?_, fun ticks => ?_, fun ⟨_, running, _⟩ => ?_⟩
  · cases stored
  · cases passes
  · cases passes
  · cases reading
  · cases reading
  · cases ticks
  · cases running

theorem Current.converged {contents : Int → Option (Doc V)} (current : s.Current feed contents) :
    s.Converged feed := by
  intro quiet doc content c member live
  have delivered := current.quiet quiet doc content
  exact delivered.clients c member (c.table feed) (expected_of_isLive live)

theorem Settles.of_same (settles : s.Settles feed doc) (same : SameTables s s') :
    s'.Settles feed doc := by
  rcases settles with delivered | shrunk
  · exact .inl (delivered.of_same same)
  · exact .inr ((shrunk_of_same same).trans shrunk)

/-- Nothing is held back before the first broadcast. -/
theorem Settles.delivered (settles : s.Settles feed doc) (synced : s.Synced feed)
    (cold : s.lastBroadcastAt = none) : s.Delivered feed doc := by
  rcases settles with delivered | shrunk
  · exact delivered
  · rw [shrunk_of_cold synced cold] at shrunk
    cases shrunk

/-- What is quiet after a tick has been overdue. -/
theorem overdue_of_quiet (quiet : (s.noteTick now).Quiet) : s.overdue now = true := by
  obtain ⟨ticks, running, long⟩ := quiet
  cases running
  unfold overdue
  cases before : s.ticks with
  | none =>
      rw [before] at long
      dsimp only [Option.map_none, Option.getD_none] at long
      rw [sub_self] at long
      exact absurd long (by decide)
  | some t =>
      rw [before] at long
      exact decide_eq_true long

/-! ## What a read finds -/

theorem content_of_file {file : SourceFile V} (stored : s.file = some file) :
    s.content = file.doc := by
  unfold content
  rw [stored]
  rfl

theorem passes_iff : s.passes feed = true ↔ feed.remembersFile = true ∧
    ∃ file, s.file = some file ∧ file.mtime ≠ 0 ∧ file.mtime = s.lastFileMtime := by
  unfold passes
  rw [Option.any_eq_true]
  constructor
  · intro given
    rcases given with ⟨file, stored, test⟩
    obtain ⟨remembers, same⟩ := Bool.and_eq_true _ _ |>.mp test
    exact ⟨remembers, file, stored, of_decide_eq_true same⟩
  · intro given
    rcases given with ⟨remembers, file, stored, same⟩
    refine ⟨file, stored, ?_⟩
    rw [remembers, decide_eq_true same]
    rfl

/-- A tick finds nothing, passes the file over, or reads it. -/
inductive Reads (feed : Feed V) (s : Channel V) (rewrite : Option (SourceFile V)) :
    Channel V × Option (Doc V) → Prop
  | missing : s.content = none → Reads feed s rewrite (s, none)
  | passed : s.passes feed = true → Reads feed s rewrite (s, none)
  | unreadable : (s.rewrite rewrite).content = none →
      Reads feed s rewrite (s.rewrite rewrite, none)
  | content (mtime : Int) (doc : Doc V) : (s.rewrite rewrite).content = some doc →
      Reads feed s rewrite ({ s.rewrite rewrite with lastFileMtime := mtime }, some doc)

theorem reads_readFile (feed : Feed V) (s : Channel V) (rewrite : Option (SourceFile V)) :
    Reads feed s rewrite (s.readFile feed rewrite) := by
  unfold readFile
  split
  case h_1 missing =>
    refine .missing ?_
    unfold content
    rw [missing]
    rfl
  case h_2 file stored =>
    split
    case isTrue remembered =>
      exact .passed (passes_iff.mpr ⟨remembered.1, file, stored, remembered.2⟩)
    case isFalse =>
      dsimp only
      split
      case h_1 nothing => exact .unreadable nothing
      case h_2 doc found => exact .content _ doc found

/-- A new client gets the last snapshot, nothing, or the file. -/
inductive Serves (feed : Feed V) (s : Channel V) (rewrite : Option (SourceFile V)) :
    Channel V × Option (Doc V) → Prop
  | cached (old : Doc V) : s.lastSnapshot = some old → Serves feed s rewrite (s, some old)
  | nothing : s.lastSnapshot = none → s.content = none → Serves feed s rewrite (s, none)
  | remembered (mtime : Int) (doc : Doc V) : feed.remembersFile = true → s.lastSnapshot = none →
      s.content = some doc →
      Serves feed s rewrite
        ({ s.rewrite rewrite with lastFileMtime := mtime, lastSnapshot := some doc }, some doc)
  | served (doc : Doc V) : feed.remembersFile = false → s.lastSnapshot = none →
      s.content = some doc → Serves feed s rewrite (s.rewrite rewrite, some doc)

theorem serves_snapshotForNewClient (feed : Feed V) (s : Channel V)
    (rewrite : Option (SourceFile V)) :
    Serves feed s rewrite (s.snapshotForNewClient feed rewrite) := by
  unfold snapshotForNewClient
  split
  case h_1 old cached => exact .cached old cached
  case h_2 missing =>
    split
    case h_1 nothing => exact .nothing missing nothing
    case h_2 doc found =>
      dsimp only
      cases remembers : feed.remembersFile with
      | true => exact .remembered _ doc remembers missing found
      | false =>
          have same := (sameTables_rewrite s rewrite).lastSnapshot.trans missing
          have kept : { s.rewrite rewrite with
              lastFileMtime := (s.rewrite rewrite).lastFileMtime, lastSnapshot := none } =
                s.rewrite rewrite := by
            rw [← same]
          have served : Serves feed s rewrite (s.rewrite rewrite, some doc) :=
            .served doc remembers missing found
          rw [← kept] at served
          exact served

/-! ## Steps -/

section

variable {contents : Int → Option (Doc V)}

/-- A step that leaves the file, the ticks and the last broadcast alone, and keeps what is
delivered. -/
theorem Current.of_delivered (current : s.Current feed contents) (file : s'.file = s.file)
    (mtime : s'.lastFileMtime = s.lastFileMtime) (reading : s'.reading = s.reading)
    (ticks : s'.ticks = s.ticks) (lastByKey : s'.lastByKey = s.lastByKey)
    (keeps : ∀ doc, s.Delivered feed doc → s'.Delivered feed doc) : s'.Current feed contents := by
  have content : s'.content = s.content := by
    unfold Channel.content
    rw [file]
  have passes : s'.passes feed = s.passes feed := by
    unfold Channel.passes
    rw [file, mtime]
  have settles : ∀ doc, s.Settles feed doc → s'.Settles feed doc := by
    intro doc either
    rcases either with delivered | shrunk
    · exact .inl (keeps doc delivered)
    · refine .inr ?_
      unfold Channel.shrunk
      rw [lastByKey]
      exact shrunk
  constructor
  · rw [file]
    exact current.stamped
  · rw [passes, reading, content]
    exact current.reads
  · rw [passes, reading, content]
    exact fun passed idle doc known => settles doc (current.settles passed idle doc known)
  · rw [reading, content]
    exact current.fresh
  · rw [reading, ticks]
    exact current.stale
  · rw [ticks, content]
    exact fun running doc known => settles doc (current.ticked running doc known)
  · rw [content]
    intro given doc known
    rcases given with ⟨t, running, long⟩
    rw [ticks] at running
    exact keeps doc (current.quiet ⟨t, running, long⟩ doc known)

theorem Current.write (current : s.Current feed contents) {file : Option (SourceFile V)}
    (stamped : ∀ f, file = some f → f.doc = contents f.mtime)
    (renews : (s.write file).passes feed = true → s.passes feed = true) :
    (s.write file).Current feed contents := by
  -- A write that keeps the remembered time keeps the content.
  have same : (s.write file).passes feed = true →
      s.passes feed = true ∧ (s.write file).content = s.content := by
    intro passed
    have before := renews passed
    obtain ⟨-, f, stored, -, remembered⟩ := passes_iff.mp passed
    obtain ⟨-, g, stored', -, remembered'⟩ := passes_iff.mp before
    have equal : f.mtime = g.mtime := remembered.trans remembered'.symm
    refine ⟨before, ?_⟩
    rw [content_of_file stored, content_of_file stored', stamped f stored,
      current.stamped g stored', equal]
  refine ⟨stamped, fun passed r reading => ?_, fun passed idle doc known => ?_,
    fun r reading fresh => ?_, fun _ _ _ => rfl, fun running => ?_, fun ⟨_, running, _⟩ => ?_⟩
  · obtain ⟨before, content⟩ := same passed
    obtain ⟨r₀, reads, rfl⟩ := Option.map_eq_some_iff.mp reading
    rw [content]
    exact current.reads before r₀ reads
  · obtain ⟨before, content⟩ := same passed
    have stopped : s.reading = none := Option.map_eq_none_iff.mp idle
    have settles := current.settles before stopped doc (content ▸ known)
    exact settles.of_same ⟨rfl, rfl, rfl, rfl, rfl⟩
  · obtain ⟨r₀, before, rfl⟩ := Option.map_eq_some_iff.mp reading
    cases fresh
  · cases running
  · cases running

theorem Current.rewrite (current : s.Current feed contents) {file : Option (SourceFile V)}
    (stamped : ∀ f, file = some f → f.doc = contents f.mtime)
    (renews : (s.rewrite file).passes feed = true → s.passes feed = true) :
    (s.rewrite file).Current feed contents := by
  cases file with
  | none => exact current
  | some f => exact current.write stamped renews

/-- A client shown this table is delivered to like the others. -/
theorem Delivered.show {i : Nat} {frames : List (Frame V)}
    (clients : ∀ c ∈ s.clients, ∀ t ∈ c.expected feed,
      Agree feed.differs t (feed.byKey doc.rows))
    (alike : ∀ row ∈ doc.rows, feed.clientKey row = feed.key row) :
    ∀ c ∈ s.clients.set i ⟨.holding (some doc), frames⟩, ∀ t ∈ c.expected feed,
      Agree feed.differs t (feed.byKey doc.rows) := by
  intro c member
  rcases List.mem_or_eq_of_mem_set member with old | rfl
  · exact clients c old
  · intro t given
    cases given
    rw [Feed.tableOf_eq_byKey alike]
    exact Agree.refl feed.equivalence _

/-- The first snapshot of a channel that remembers it. -/
theorem Current.remember {i : Nat} {frames : List (Frame V)} (current : s.Current feed contents)
    (synced : s.Synced feed) (missing : s.lastSnapshot = none)
    (remembers : feed.remembersFile = true) (found : s.content = some doc)
    (read : s.FirstRead feed none doc) (mtime : Int) :
    (setClient { s with lastFileMtime := mtime, lastSnapshot := some doc } i
      ⟨.holding (some doc), frames⟩).Current feed contents := by
  have cold : s.lastBroadcastAt = none := synced.cold_of_missing missing
  have delivers : (∀ c ∈ s.clients, ∀ t ∈ c.expected feed,
        Agree feed.differs t (feed.byKey doc.rows)) →
      (setClient { s with lastFileMtime := mtime, lastSnapshot := some doc } i
        ⟨.holding (some doc), frames⟩).Delivered feed doc := by
    intro clients
    refine ⟨Delivered.show clients read.alike, fun old cached => ?_, fun none => ?_⟩
    · cases cached
      rw [Feed.tableOf_eq_byKey read.alike]
      exact Agree.refl feed.equivalence _
    · cases none
  have same : ∀ doc', s.content = some doc' → doc' = doc := by
    intro doc' known
    rw [found] at known
    cases known
    rfl
  refine ⟨current.stamped, fun _ r reading => ?_, fun _ idle doc' known => ?_, current.fresh,
    current.stale, fun running doc' known => ?_, fun quiet doc' known => ?_⟩
  · exact current.fresh r reading (read.fresh remembers r reading)
  · obtain rfl := same doc' known
    exact .inl (delivers (read.shared remembers (Option.isNone_iff_eq_none.mpr idle)))
  · obtain rfl := same doc' known
    exact .inl (delivers ((current.ticked running doc' known).delivered synced cold).clients)
  · obtain ⟨ticks, running, long⟩ := quiet
    obtain rfl := same doc' known
    exact delivers (current.quiet ⟨ticks, running, long⟩ doc' known).clients

/-- The first snapshot of a channel that does not remember it. -/
theorem Current.serveFile {i : Nat} {frames : List (Frame V)} (current : s.Current feed contents)
    (synced : s.Synced feed) (missing : s.lastSnapshot = none)
    (forgets : feed.remembersFile = false) (found : s.content = some doc)
    (alike : ∀ row ∈ doc.rows, feed.clientKey row = feed.key row) :
    (s.setClient i ⟨.holding (some doc), frames⟩).Current feed contents := by
  have reads : (s.setClient i ⟨.holding (some doc), frames⟩).passes feed = true → False := by
    intro passed
    obtain ⟨remembers, -⟩ := passes_iff.mp passed
    rw [forgets] at remembers
    cases remembers
  have cold : s.lastBroadcastAt = none := synced.cold_of_missing missing
  have delivers : ∀ doc', s.content = some doc' → s.Delivered feed doc' →
      (s.setClient i ⟨.holding (some doc), frames⟩).Delivered feed doc' := by
    intro doc' known delivered
    rw [found] at known
    cases known
    exact ⟨Delivered.show delivered.clients alike, delivered.snapshot, delivered.empty⟩
  refine ⟨current.stamped, fun passed => (reads passed).elim, fun passed => (reads passed).elim,
    current.fresh, current.stale, fun running doc' known => ?_, fun quiet doc' known => ?_⟩
  · have delivered := (current.ticked running doc' known).delivered synced cold
    exact .inl (delivers doc' known delivered)
  · obtain ⟨ticks, running, long⟩ := quiet
    exact delivers doc' known (current.quiet ⟨ticks, running, long⟩ doc' known)

/-- A client is served. -/
theorem Current.serve {i : Nat} {frames : List (Frame V)} {rewrite : Option (SourceFile V)}
    (current : s.Current feed contents) (synced : s.Synced feed)
    (stamped : ∀ f, rewrite = some f → f.doc = contents f.mtime)
    (member : (⟨.registered, frames⟩ : Client V) ∈ s.clients)
    (first : s.lastSnapshot.isNone = true → ∀ doc ∈ s.content, s.FirstRead feed rewrite doc) :
    ((s.snapshotForNewClient feed rewrite).1.setClient i
      ⟨.holding (s.snapshotForNewClient feed rewrite).2, frames⟩).Current feed contents := by
  have serves := serves_snapshotForNewClient feed s rewrite
  generalize s.snapshotForNewClient feed rewrite = served at serves ⊢
  cases serves with
  | cached old cached =>
      refine current.of_delivered rfl rfl rfl rfl rfl fun doc delivered =>
        delivered.setClient fun t expects => ?_
      cases expects
      exact delivered.snapshot old cached
  | nothing missing unreadable =>
      refine current.of_delivered rfl rfl rfl rfl rfl fun doc delivered =>
        delivered.setClient fun t expects => ?_
      cases expects
      have cold : s.lastBroadcastAt = none := synced.cold_of_missing missing
      have empty : frames = [] := synced.silent cold ⟨.registered, frames⟩ member (.registered frames)
      rw [empty]
      exact delivered.empty missing
  | remembered mtime doc remembers missing found =>
      have read := first (Option.isNone_iff_eq_none.mpr missing) doc found
      obtain rfl : rewrite = none := Option.isNone_iff_eq_none.mp (read.whole remembers)
      exact current.remember synced missing remembers found read mtime
  | served doc forgets missing found =>
      have read := first (Option.isNone_iff_eq_none.mpr missing) doc found
      cases rewrite with
      | none => exact current.serveFile synced missing forgets found read.alike
      | some file =>
          -- After the write nothing is known of the file.
          have written : (s.write (some file)).Current feed contents := by
            refine current.write stamped fun passed => ?_
            rw [(passes_iff.mp passed).1] at forgets
            cases forgets
          refine ⟨written.stamped, written.reads, fun passed => ?_, written.fresh, written.stale,
            fun running => ?_, fun ⟨_, running, _⟩ => ?_⟩
          · rw [(passes_iff.mp passed).1] at forgets
            cases forgets
          · cases running
          · cases running

/-- A tick that ends without a commit. -/
theorem Current.noteTick (current : s.Current feed contents) (idle : s.reading = none)
    (settles : ∀ doc, s.content = some doc → s.Settles feed doc)
    (timely : s.overdue now = true → ∀ doc, s.content = some doc → s.shrunk feed doc = false) :
    (s.noteTick now).Current feed contents := by
  have same : SameTables s (s.noteTick now) := ⟨rfl, rfl, rfl, rfl, rfl⟩
  refine ⟨current.stamped, fun _ r reading => ?_, fun _ _ doc known => ?_, fun r reading => ?_,
    fun r reading => ?_, fun _ doc known => ?_, fun quiet doc known => ?_⟩
  · cases idle.symm.trans reading
  · exact (settles doc known).of_same same
  · cases idle.symm.trans reading
  · cases idle.symm.trans reading
  · exact (settles doc known).of_same same
  · rcases settles doc known with delivered | shrunk
    · exact delivered.of_same same
    · rw [timely (overdue_of_quiet quiet) doc known] at shrunk
      cases shrunk

/-- A tick reads the file, or finds that it has nothing to do. -/
theorem Current.tick {rewrite : Option (SourceFile V)} (current : s.Current feed contents)
    (stamped : ∀ f, rewrite = some f → f.doc = contents f.mtime) (idle : s.reading = none)
    (renews : (s.rewrite rewrite).passes feed = true → s.passes feed = true)
    (timely : s.overdue now = true → s.passes feed = true → ∀ doc ∈ s.content,
      s.shrunk feed doc = false) :
    (∀ s₁, s.readFile feed rewrite = (s₁, none) → (s₁.noteTick now).Current feed contents) ∧
      ∀ s₁ doc, s.readFile feed rewrite = (s₁, some doc) →
        Current feed contents { s₁ with reading := some ⟨doc, true⟩ } := by
  have written := current.rewrite stamped renews
  have waits : (s.rewrite rewrite).reading = none := by
    cases rewrite with
    | none => exact idle
    | some file => exact Option.map_eq_none_iff.mpr idle
  have reads := reads_readFile feed s rewrite
  generalize s.readFile feed rewrite = result at reads ⊢
  cases reads with
  | missing unreadable =>
      refine ⟨fun s₁ same => ?_, fun s₁ doc same => (by cases same)⟩
      cases same
      refine current.noteTick idle (fun doc content => ?_) fun _ doc content => ?_
      · cases unreadable.symm.trans content
      · cases unreadable.symm.trans content
  | passed passed =>
      refine ⟨fun s₁ same => ?_, fun s₁ doc same => (by cases same)⟩
      cases same
      exact current.noteTick idle (current.settles passed idle) fun late => timely late passed
  | unreadable unreadable =>
      refine ⟨fun s₁ same => ?_, fun s₁ doc same => (by cases same)⟩
      cases same
      refine written.noteTick waits (fun doc content => ?_) fun _ doc content => ?_
      · cases unreadable.symm.trans content
      · cases unreadable.symm.trans content
  | content mtime doc found =>
      refine ⟨fun s₁ same => (by cases same), fun s₁ doc' same => ?_⟩
      cases same
      refine ⟨written.stamped, fun _ r reading => ?_, fun _ none => ?_, fun r reading _ => ?_,
        fun r reading stale => ?_, fun running doc' known => ?_, fun quiet doc' known => ?_⟩
      · cases reading
        exact found
      · cases none
      · cases reading
        exact found
      · cases reading
        cases stale
      · exact (written.ticked running doc' known).of_same ⟨rfl, rfl, rfl, rfl, rfl⟩
      · obtain ⟨ticks, running, long⟩ := quiet
        exact (written.quiet ⟨ticks, running, long⟩ doc' known).of_same ⟨rfl, rfl, rfl, rfl, rfl⟩

/-- What a tick has read settles when it commits. -/
theorem settles_of_commit [DecidableEq V] (synced : s.Synced feed)
    (commits : s.Commits feed doc now) : (Channel.commit feed s doc now).Settles feed doc := by
  cases guarded : s.guarded feed doc now with
  | true =>
      refine .inr ?_
      unfold Channel.commit
      rw [if_pos guarded]
      exact shrunk_of_guarded guarded
  | false => exact .inl (delivered_of_commit synced commits guarded)

/-- A tick commits what it has read. -/
theorem Current.commit [DecidableEq V] (current : s.Current feed contents) (synced : s.Synced feed)
    {r : Reading V} (reading : s.reading = some r) (commits : s.Commits feed r.doc now) :
    (if r.fresh then (Channel.commit feed { s with reading := none } r.doc now).noteTick now
      else Channel.commit feed { s with reading := none } r.doc now).Current feed contents := by
  have taken : Synced feed { s with reading := none } :=
    synced.of_same ⟨rfl, rfl, rfl, rfl, rfl⟩
  have ready : Commits feed { s with reading := none } r.doc now := by
    refine ⟨commits.timely, fun unguarded changed => ?_, commits.held, commits.cached⟩
    have settled := commits.settled unguarded changed
    exact ⟨settled.alike, settled.shown, settled.covered⟩
  have settles := settles_of_commit taken ready
  have delivers := delivered_of_commit taken ready
  obtain ⟨file, mtime, idle, ticks⟩ := commit_frame feed { s with reading := none } r.doc now
  generalize Channel.commit feed { s with reading := none } r.doc now = s₁ at *
  have content : s₁.content = s.content := by
    unfold Channel.content
    rw [file]
  have passes : s₁.passes feed = s.passes feed := by
    unfold Channel.passes
    rw [file, mtime]
  have stamped : ∀ f, s₁.file = some f → f.doc = contents f.mtime := by
    rw [file]
    exact current.stamped
  -- What ticks pass over is what has been read.
  have passed : s₁.passes feed = true → ∀ doc, s₁.content = some doc → s₁.Settles feed doc := by
    intro remembered doc known
    rw [passes] at remembered
    rw [content, current.reads remembered r reading] at known
    cases known
    exact settles
  cases fresh : r.fresh with
  | true =>
      rw [if_pos rfl]
      have here : ∀ doc, s₁.content = some doc → doc = r.doc := by
        intro doc known
        rw [content, current.fresh r reading fresh] at known
        cases known
        rfl
      have same : SameTables s₁ (s₁.noteTick now) := ⟨rfl, rfl, rfl, rfl, rfl⟩
      refine ⟨stamped, fun _ r' pending => ?_, fun remembered _ doc known => ?_,
        fun r' pending => ?_, fun r' pending => ?_, fun _ doc known => ?_,
        fun quiet doc known => ?_⟩
      · cases idle.symm.trans pending
      · exact (passed remembered doc known).of_same same
      · cases idle.symm.trans pending
      · cases idle.symm.trans pending
      · obtain rfl := here doc known
        exact settles.of_same same
      · obtain rfl := here doc known
        have late : s.overdue now = true := by
          have late := overdue_of_quiet quiet
          unfold Channel.overdue at late ⊢
          rw [ticks] at late
          exact late
        exact (delivers (commits.timely late)).of_same same
  | false =>
      rw [if_neg Bool.false_ne_true]
      have stopped : s₁.ticks = none := ticks.trans (current.stale r reading fresh)
      refine ⟨stamped, fun _ r' pending => ?_, fun remembered _ doc known => ?_,
        fun r' pending => ?_, fun r' pending => ?_, fun running => ?_, fun ⟨_, running, _⟩ => ?_⟩
      · cases idle.symm.trans pending
      · exact passed remembered doc known
      · cases idle.symm.trans pending
      · cases idle.symm.trans pending
      · rw [stopped] at running
        cases running
      · cases stopped.symm.trans running

theorem sendsSettled_of_lands [DecidableEq V] {a : ChannelAct V} (lands : s.Lands feed a) :
    s.SendsSettled feed a := by
  cases a with
  | commit now =>
      intro r reading unguarded changed
      exact (lands r reading).settled unguarded changed
  | write file => trivial
  | register => trivial
  | snapshot i rewrite => trivial
  | reply i => trivial
  | disconnect i => trivial
  | tick now rewrite => trivial

theorem current_preserved [DecidableEq V] (contents : Int → Option (Doc V)) :
    Preserves (step feed) (fun s a => Stamped contents a ∧ s.Lands feed a)
      fun s => s.Synced feed ∧ s.Current feed contents := by
  refine Preserves.and (fun s a s' synced admitted stepped =>
    synced_preserved synced (sendsSettled_of_lands admitted.2) stepped) ?_
  intro s a s' synced current admitted stepped
  obtain ⟨stamped, lands⟩ := admitted
  cases a with
  | write file =>
      cases stepped
      refine current.write (fun f written => ?_) lands
      cases written
      exact stamped
  | register =>
      cases stepped
      exact current.of_delivered rfl rfl rfl rfl rfl fun doc delivered => delivered.register
  | snapshot i rewrite =>
      simp only [step] at stepped
      split at stepped
      case h_1 frames found =>
        cases stepped
        refine current.serve synced (fun f written => ?_) (List.mem_of_getElem? found) lands
        cases written
        exact stamped
      case h_2 => cases stepped
  | reply i =>
      simp only [step] at stepped
      split at stepped
      case h_1 snap frames found =>
        cases stepped
        refine current.of_delivered rfl rfl rfl rfl rfl fun doc delivered => delivered.setClient ?_
        rw [expected_reply]
        exact delivered.clients _ (List.mem_of_getElem? found)
      case h_2 => cases stepped
  | disconnect i =>
      simp only [step] at stepped
      split at stepped
      case h_1 frames found =>
        cases stepped
        refine current.of_delivered rfl rfl rfl rfl rfl fun doc delivered =>
          delivered.setClient fun t expects => ?_
        cases expects
      case h_2 => cases stepped
  | tick now rewrite =>
      obtain ⟨renews, timely⟩ := lands
      simp only [step] at stepped
      split at stepped
      · cases stepped
      case h_2 idle =>
        have written : ∀ f, rewrite = some f → f.doc = contents f.mtime := by
          intro f same
          subst same
          exact stamped
        obtain ⟨passes, reads⟩ := current.tick written idle renews timely
        split at stepped
        · cases stepped
          exact current
        · split at stepped
          case h_1 s₁ result =>
            cases stepped
            exact passes s₁ result
          case h_2 s₁ doc result =>
            cases stepped
            exact reads s₁ doc result
  | commit now =>
      simp only [step] at stepped
      split at stepped
      · cases stepped
      case h_2 r reading =>
        cases stepped
        exact current.commit synced reading (lands r reading)

end

end Channel

/-! ## Convergence in every run -/

section

variable [DecidableEq V]

/-- In every run with contents of different modification times, the clients converge. -/
def Converges (feed : Feed V) (ok : Channel V → ChannelAct V → Prop) : Prop :=
  ∀ contents s, Run (Channel.step feed) (fun s a => Channel.Stamped contents a ∧ ok s a)
    feed.initial s → s.Converged feed

theorem converges_of_lands (feed : Feed V) : Converges feed (Channel.Lands feed) := by
  intro contents s run
  have kept := run.invariant (Channel.current_preserved contents)
    ⟨Channel.synced_initial feed, Channel.current_initial feed contents⟩
  exact kept.2.converged

/-- The two DEX tables and the funding table converge. -/
def TablesConverge (values : Values V) (ok : Feed V → Channel V → ChannelAct V → Prop) : Prop :=
  ∀ feed ∈ [dexShort values, dexSpot values, funding values], Converges feed (ok feed)

/-- In every run in which what is read lands, the tables converge. -/
theorem tablesConverge_of_lands (values : Values V) :
    TablesConverge values fun feed => Channel.Lands feed :=
  fun feed _ => converges_of_lands feed

end

/-! ## Runs that go wrong -/

/-- A row that each of the three tables has a key for. -/
def tableRow (symbol : String) : Row String := fun field =>
  if field = "symbol" then some symbol
  else if field ∈ ["short_exchange", "cex_exchange", "exchange"] then some "binance"
  else none

/-- Four rows, and then one of them. -/
def tableFile (mtime : Int) : SourceFile String :=
  let symbols := if mtime = 1 then ["BTC", "ETH", "SOL", "XRP"] else ["BTC"]
  { mtime, doc := some { rows := symbols.map tableRow } }

/-- A table that the guard holds back is not read again. -/
def heldBack : List (ChannelAct String) :=
  [.register, .snapshot 0 none, .reply 0, .write (some (tableFile 1)), .tick 0 none, .commit 0,
    .write (some (tableFile 2)), .tick 1 none, .commit 1, .tick 9 none]

/-- The first client of a process, and a table that has lost rows by the first tick. -/
def firstClient : List (ChannelAct String) :=
  [.write (some (tableFile 1)), .register, .snapshot 0 none, .reply 0, .write (some (tableFile 2)),
    .tick 1 none, .commit 1]

/-- The keys by which live clients differ from the file, and the ticks since it was written. -/
def Channel.astray (feed : Feed V) (s : Channel V) : Option (Ticks × List String) :=
  s.ticks.bind fun ticks => s.content.map fun doc => (ticks, s.strays feed (feed.byKey doc.rows))

/-- A run that ends astray. -/
theorem not_converges [DecidableEq V] {feed : Feed V} {as : List (ChannelAct V)}
    {contents : Int → Option (Doc V)} {ticks : Ticks} {k : String} {ks : List String}
    (stamped : ∀ a ∈ as, Channel.Stamped contents a)
    (ran : (exec (Channel.step feed) feed.initial as).bind (Channel.astray feed) =
      some (ticks, k :: ks)) (long : Channel.guardWindow < ticks.last - ticks.first) :
    ¬Converges feed fun _ _ => True := by
  intro converges
  obtain ⟨s, executed, view⟩ := Option.bind_eq_some_iff.mp ran
  obtain ⟨ticks', running, rest⟩ := Option.bind_eq_some_iff.mp view
  obtain ⟨doc, content, pair⟩ := Option.map_eq_some_iff.mp rest
  obtain ⟨rfl, stray⟩ := Prod.mk.inj pair
  have run : Run (Channel.step feed) (fun _ a => Channel.Stamped contents a ∧ True) feed.initial s :=
    Run.of_exec_of_forall (fun a member _ => ⟨stamped a member, trivial⟩) executed
  have agrees := converges contents s run ⟨ticks', running, long⟩ doc content
  rw [Channel.strays_eq_nil agrees] at stray
  cases stray

/-- A table that the guard has held back, and the next one after its window. -/
def recovered : List (ChannelAct String) :=
  [.register, .snapshot 0 none, .reply 0, .write (some (tableFile 1)), .tick 0 none, .commit 0,
    .write (some (tableFile 2)), .tick 1 none, .commit 1, .write (some (tableFile 3)),
    .tick 6 none, .commit 6, .tick 12 none]

/-- Within the condition a client ends with the table of the file, also after a table was held
back. -/
example : (execGuarded (Channel.step (dexShort plainValues))
      (Channel.Lands (dexShort plainValues)) (dexShort plainValues).initial recovered).bind
        (Channel.astray (dexShort plainValues)) = some (⟨6, 12⟩, []) := by
  decide +kernel

/-- The contents of these runs are told by the modification times. -/
theorem stamped_tableFile (as : List (ChannelAct String))
    (listed : as ∈ [heldBack, firstClient ++ [.tick 9 none], firstClient ++ [.tick 9 none, .commit 9]]) :
    ∀ a ∈ as, Channel.Stamped (fun mtime => (tableFile mtime).doc) a := by
  simp only [List.mem_cons, List.not_mem_nil, or_false] at listed
  rcases listed with rfl | rfl | rfl
  · simp [heldBack, Channel.Stamped, tableFile]
  · simp [firstClient, Channel.Stamped, tableFile]
  · simp [firstClient, Channel.Stamped, tableFile]

/-- A table that is held back never reaches the clients, and on each channel the first client keeps
rows that are gone. -/
theorem tablesConverge_broken :
    ¬TablesConverge plainValues (fun _ _ _ => True) ∧
      ¬Converges (dexSpot plainValues) (fun _ _ => True) ∧
      ¬Converges (funding plainValues) (fun _ _ => True) ∧
      (exec (Channel.step (dexSpot plainValues)) (dexSpot plainValues).initial heldBack).bind
        (Channel.astray (dexSpot plainValues)) =
          some (⟨1, 9⟩, ["ETH|binance", "SOL|binance", "XRP|binance"]) := by
  have heldShort : (exec (Channel.step (dexShort plainValues)) (dexShort plainValues).initial
      heldBack).bind (Channel.astray (dexShort plainValues)) =
        some (⟨1, 9⟩, ["ETH|binance", "SOL|binance", "XRP|binance"]) := by
    decide +kernel
  have heldSpot : (exec (Channel.step (dexSpot plainValues)) (dexSpot plainValues).initial
      heldBack).bind (Channel.astray (dexSpot plainValues)) =
        some (⟨1, 9⟩, ["ETH|binance", "SOL|binance", "XRP|binance"]) := by
    decide +kernel
  have firstSpot : (exec (Channel.step (dexSpot plainValues)) (dexSpot plainValues).initial
      (firstClient ++ [.tick 9 none])).bind (Channel.astray (dexSpot plainValues)) =
        some (⟨1, 9⟩, ["XRP|binance", "SOL|binance", "ETH|binance"]) := by
    decide +kernel
  have firstFunding : (exec (Channel.step (funding plainValues)) (funding plainValues).initial
      (firstClient ++ [.tick 9 none, .commit 9])).bind (Channel.astray (funding plainValues)) =
        some (⟨1, 9⟩, ["binance|XRP", "binance|SOL", "binance|ETH"]) := by
    decide +kernel
  have long : Channel.guardWindow < Ticks.last ⟨1, 9⟩ - Ticks.first ⟨1, 9⟩ := by
    norm_num [Channel.guardWindow]
  refine ⟨fun converge => ?_, ?_, ?_, heldSpot⟩
  · have stamped := stamped_tableFile heldBack (by simp)
    exact not_converges stamped heldShort long (converge (dexShort plainValues) (by simp))
  · have stamped := stamped_tableFile (firstClient ++ [.tick 9 none]) (by simp)
    exact not_converges stamped firstSpot long
  · have stamped := stamped_tableFile (firstClient ++ [.tick 9 none, .commit 9]) (by simp)
    exact not_converges stamped firstFunding long

end Avalant
