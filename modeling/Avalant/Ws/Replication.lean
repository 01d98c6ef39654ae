import Avalant.Ws.Channel

/-!
What the clients of a channel hold after a broadcast.

A client whose reply has been queued holds the table of the server, up to rows
that are not told apart, unless a tick commits at a bad moment: while a reply
that shows another table is on its way, or as the first one after clients have
been served from the file.
-/

namespace Avalant

open Replica Transition

variable {V : Type}

/-! ## What is on its way to a client -/

/-- The table a client will hold once its reply is queued. -/
def Client.expected (feed : Feed V) (c : Client V) : Option (Store String (Row V)) :=
  match c.phase with
  | .registered | .gone => none
  | .holding (some doc) => some (feed.tableOf doc)
  | .holding none | .live => some (c.table feed)

/-- Whether the snapshot of a client that waits for its handler shows this table. -/
def Client.shows (feed : Feed V) (t : Store String (Row V)) (c : Client V) : Bool :=
  match c.phase with
  | .holding (some doc) => decide (Agree feed.differs (feed.tableOf doc) t)
  | _ => true

/-- A client that nothing has been queued for. -/
inductive Client.Unserved : Client V → Prop
  | registered (frames : List (Frame V)) : Unserved ⟨.registered, frames⟩
  | holding (frames : List (Frame V)) : Unserved ⟨.holding none, frames⟩

section

variable {feed : Feed V} {c : Client V}

theorem table_receive (frame : Frame V) :
    (c.receive frame).table feed = feed.applyFrame (c.table feed) frame :=
  List.foldl_append

theorem expected_of_isLive (live : c.isLive = true) : c.expected feed = some (c.table feed) := by
  obtain ⟨phase, frames⟩ := c
  cases phase with
  | live => rfl
  | registered => cases live
  | holding snap => cases live
  | gone => cases live

/-- Queueing the reply gives what was expected. -/
theorem expected_reply (snap : Option (Doc V)) (frames : List (Frame V)) :
    Client.expected feed ⟨.live, frames ++ (snap.map Frame.snapshot).toList⟩ =
      Client.expected feed ⟨.holding snap, frames⟩ := by
  cases snap with
  | none =>
      unfold Client.expected
      dsimp only
      rw [Option.map_none, Option.toList_none, List.append_nil]
      rfl
  | some doc =>
      unfold Client.expected Client.table
      dsimp only
      rw [List.foldl_append]
      rfl

end

namespace Channel

variable {feed : Feed V} {s s' : Channel V} {doc : Doc V} {now : Time}

/-! ## The condition on a commit -/

/-- Nothing that a client holds or is about to hold keeps it from the table that is committed. -/
structure Settled (feed : Feed V) (s : Channel V) (doc : Doc V) : Prop where
  /-- The page keys the rows as the server does. -/
  alike : ∀ row ∈ doc.rows, feed.clientKey row = feed.key row
  /-- A snapshot that waits for its handler shows the committed table. -/
  shown : ∀ c ∈ s.clients, c.shows feed (feed.byKey doc.rows) = true
  /-- At the first broadcast no client holds a key that the committed table has not. -/
  covered : s.lastBroadcastAt = none → ∀ c ∈ s.clients, c.isLive = true →
    ∀ k ∈ (c.table feed).keys, k ∈ feed.byKey doc.rows

instance (feed : Feed V) (s : Channel V) (doc : Doc V) : Decidable (s.Settled feed doc) :=
  decidable_of_iff ((∀ row ∈ doc.rows, feed.clientKey row = feed.key row) ∧
      (∀ c ∈ s.clients, c.shows feed (feed.byKey doc.rows) = true) ∧
      (s.lastBroadcastAt = none → ∀ c ∈ s.clients, c.isLive = true →
        ∀ k ∈ (c.table feed).keys, k ∈ feed.byKey doc.rows))
    ⟨fun ⟨alike, shown, covered⟩ => ⟨alike, shown, covered⟩,
      fun settled => ⟨settled.alike, settled.shown, settled.covered⟩⟩

/-- The commits that send a frame are settled. -/
def SendsSettled [DecidableEq V] (feed : Feed V) (s : Channel V) : ChannelAct V → Prop
  | .commit now => ∀ r ∈ s.reading, s.guarded feed r.doc now = false →
      s.unchanged feed r.doc = false → s.Settled feed r.doc
  | _ => True

instance [DecidableEq V] (feed : Feed V) (s : Channel V) :
    (a : ChannelAct V) → Decidable (s.SendsSettled feed a)
  | .commit _ => inferInstanceAs (Decidable (∀ _ ∈ _, _))
  | .write _ | .register | .snapshot _ _ | .reply _ | .disconnect _ | .tick _ _ =>
      inferInstanceAs (Decidable True)

/-- After a broadcast every client that has its reply holds the table of the server. -/
def Replicated (feed : Feed V) (s : Channel V) : Prop :=
  s.lastBroadcastAt.isSome = true → ∀ c ∈ s.clients, c.isLive = true →
    Agree feed.differs (c.table feed) s.lastByKey

/-! ## The invariant -/

structure Synced (feed : Feed V) (s : Channel V) : Prop where
  base : s.lastBroadcastAt = none → s.lastByKey = ∅
  silent : s.lastBroadcastAt = none → ∀ c ∈ s.clients, c.Unserved → c.frames = []
  snapshot : s.lastBroadcastAt.isSome = true →
    ∃ doc, s.lastSnapshot = some doc ∧ Agree feed.differs (feed.tableOf doc) s.lastByKey
  clients : s.lastBroadcastAt.isSome = true → ∀ c ∈ s.clients, ∀ t ∈ c.expected feed,
    Agree feed.differs t s.lastByKey

theorem Synced.replicated (synced : s.Synced feed) : s.Replicated feed := by
  intro sent c member live
  exact synced.clients sent c member (c.table feed) (expected_of_isLive live)

/-- What a channel remembers of its tables, and its clients. -/
structure SameTables (s s' : Channel V) : Prop where
  lastByKey : s'.lastByKey = s.lastByKey
  lastInfo : s'.lastInfo = s.lastInfo
  lastBroadcastAt : s'.lastBroadcastAt = s.lastBroadcastAt
  lastSnapshot : s'.lastSnapshot = s.lastSnapshot
  clients : s'.clients = s.clients

theorem sameTables_rewrite (s : Channel V) (file : Option (SourceFile V)) :
    SameTables s (s.rewrite file) := by
  cases file with
  | none => exact ⟨rfl, rfl, rfl, rfl, rfl⟩
  | some file => exact ⟨rfl, rfl, rfl, rfl, rfl⟩

theorem sameTables_readFile (feed : Feed V) (s : Channel V) (file : Option (SourceFile V)) :
    SameTables s (s.readFile feed file).1 := by
  have rewritten := sameTables_rewrite s file
  unfold readFile
  split
  · exact ⟨rfl, rfl, rfl, rfl, rfl⟩
  · split
    · exact ⟨rfl, rfl, rfl, rfl, rfl⟩
    · dsimp only
      split
      · exact rewritten
      · exact ⟨rewritten.lastByKey, rewritten.lastInfo, rewritten.lastBroadcastAt,
          rewritten.lastSnapshot, rewritten.clients⟩

theorem Synced.of_same (synced : s.Synced feed) (same : SameTables s s') : s'.Synced feed := by
  obtain ⟨base, silent, snapshot, clients⟩ := synced
  constructor
  · rw [same.lastBroadcastAt, same.lastByKey]
    exact base
  · rw [same.lastBroadcastAt, same.clients]
    exact silent
  · rw [same.lastBroadcastAt, same.lastSnapshot, same.lastByKey]
    exact snapshot
  · rw [same.lastBroadcastAt, same.clients, same.lastByKey]
    exact clients

theorem Synced.setClient {i : Nat} {c : Client V} (synced : s.Synced feed)
    (silent : s.lastBroadcastAt = none → c.Unserved → c.frames = [])
    (expected : s.lastBroadcastAt.isSome = true → ∀ t ∈ c.expected feed,
      Agree feed.differs t s.lastByKey) : (s.setClient i c).Synced feed := by
  refine ⟨synced.base, fun cold c' member unserved => ?_, synced.snapshot,
    fun warm c' member => ?_⟩
  · rcases List.mem_or_eq_of_mem_set member with old | rfl
    · exact synced.silent cold c' old unserved
    · exact silent cold unserved
  · rcases List.mem_or_eq_of_mem_set member with old | rfl
    · exact synced.clients warm c' old
    · exact expected warm

/-! ## Steps -/

theorem Synced.register (synced : s.Synced feed) :
    Synced feed { s with clients := s.clients ++ [{}] } := by
  refine ⟨synced.base, fun cold c member unserved => ?_, synced.snapshot,
    fun warm c member t expects => ?_⟩
  · rcases List.mem_append.mp member with old | new
    · exact synced.silent cold c old unserved
    · rw [List.mem_singleton.mp new]
  · rcases List.mem_append.mp member with old | new
    · exact synced.clients warm c old t expects
    · rw [List.mem_singleton.mp new] at expects
      cases expects

/-- A channel without a snapshot has not broadcast. -/
theorem Synced.cold_of_missing (synced : s.Synced feed) (missing : s.lastSnapshot = none) :
    s.lastBroadcastAt = none := by
  cases sent : s.lastBroadcastAt with
  | none => rfl
  | some at_ =>
      obtain ⟨doc, cached, -⟩ := synced.snapshot (by rw [sent]; rfl)
      rw [missing] at cached
      cases cached

/-- What `SnapshotForNewClient` leaves and answers. -/
theorem Synced.snapshotForNewClient (synced : s.Synced feed) (rewrite : Option (SourceFile V)) :
    (s.snapshotForNewClient feed rewrite).1.Synced feed ∧
      (s.snapshotForNewClient feed rewrite).1.clients = s.clients ∧
      (s.snapshotForNewClient feed rewrite).1.lastBroadcastAt = s.lastBroadcastAt ∧
      (s.lastBroadcastAt.isSome = true → ∃ doc,
        (s.snapshotForNewClient feed rewrite).2 = some doc ∧
          Agree feed.differs (feed.tableOf doc)
            (s.snapshotForNewClient feed rewrite).1.lastByKey) := by
  have rewritten := sameTables_rewrite s rewrite
  have moved := synced.of_same rewritten
  unfold Channel.snapshotForNewClient
  split
  case h_1 doc cached =>
    refine ⟨synced, rfl, rfl, fun warm => ⟨doc, rfl, ?_⟩⟩
    obtain ⟨doc', cached', agree⟩ := synced.snapshot warm
    rw [cached] at cached'
    cases cached'
    exact agree
  case h_2 missing =>
    have cold : s.lastBroadcastAt = none := synced.cold_of_missing missing
    have notWarm : ¬s.lastBroadcastAt.isSome = true := by
      rw [cold]
      exact Bool.false_ne_true
    split
    · exact ⟨synced, rfl, rfl, fun warm => absurd warm notWarm⟩
    · refine ⟨⟨moved.base, moved.silent, fun warm => ?_, moved.clients⟩, rewritten.clients,
        rewritten.lastBroadcastAt, fun warm => absurd warm notWarm⟩
      exact absurd (rewritten.lastBroadcastAt ▸ warm) notWarm

/-- What a client of a broadcast becomes. -/
theorem mem_broadcast {frame : Frame V} {c : Client V} (member : c ∈ (s.broadcast frame).clients) :
    ∃ c₀ ∈ s.clients, c = if c₀.inHub then c₀.receive frame else c₀ := by
  obtain ⟨c₀, old, same⟩ := List.mem_map.mp member
  exact ⟨c₀, old, same.symm⟩

/-- The table a client will hold after a settled send. -/
theorem expected_of_send (synced : s.Synced feed) (settled : s.Settled feed doc)
    {c : Client V} (member : c ∈ s.clients) (info : Option (List (Option V))) :
    ∀ t ∈ (if c.inHub then c.receive (feed.diffFrame s.lastByKey (feed.byKey doc.rows) info)
      else c).expected feed, Agree feed.differs t (feed.byKey doc.rows) := by
  obtain ⟨phase, frames⟩ := c
  have after : ∀ t : Store String (Row V), (s.lastBroadcastAt.isSome = true →
        Agree feed.differs t s.lastByKey) →
      (s.lastBroadcastAt = none → ∀ k ∈ t, k ∈ feed.byKey doc.rows) →
      Agree feed.differs
        (feed.applyFrame t (feed.diffFrame s.lastByKey (feed.byKey doc.rows) info))
        (feed.byKey doc.rows) := by
    intro t warm cold
    rw [Feed.applyFrame_diffFrame]
    cases sent : s.lastBroadcastAt with
    | none =>
        rw [synced.base sent]
        exact agree_apply_diff_empty feed.equivalence (cold sent)
    | some at_ => exact agree_apply_diff feed.equivalence (warm (by rw [sent]; rfl))
  intro t expects
  cases phase with
  | registered => cases expects
  | gone => cases expects
  | live =>
      cases expects
      have here : (⟨.live, frames⟩ : Client V).inHub = true := rfl
      rw [if_pos here, table_receive]
      exact after _ (fun warm => synced.clients warm _ member _ rfl)
        fun cold k known => settled.covered cold _ member rfl k (AList.mem_keys.mp known)
  | holding snap =>
      cases snap with
      | some old =>
          cases expects
          exact of_decide_eq_true (settled.shown _ member)
      | none =>
          cases expects
          have here : (⟨.holding none, frames⟩ : Client V).inHub = true := rfl
          rw [if_pos here, table_receive]
          refine after _ (fun warm => synced.clients warm _ member _ rfl) fun cold k known => ?_
          have empty : frames = [] := synced.silent cold _ member (.holding frames)
          rw [empty] at known
          cases known

theorem Synced.send [DecidableEq V] (synced : s.Synced feed) (settled : s.Settled feed doc) :
    (s.send feed doc now).Synced feed := by
  have shows : Agree feed.differs (feed.tableOf doc) (feed.byKey doc.rows) := by
    rw [Feed.tableOf_eq_byKey settled.alike]
    exact Agree.refl feed.equivalence _
  refine ⟨fun cold => ?_, fun cold => ?_, fun _ => ⟨doc, rfl, shows⟩, fun _ c member => ?_⟩
  · cases cold
  · cases cold
  · unfold Channel.send at member
    obtain ⟨c₀, old, rfl⟩ := mem_broadcast member
    exact expected_of_send synced settled old _

theorem synced_preserved [DecidableEq V] :
    Preserves (step feed) (SendsSettled feed) fun s => s.Synced feed := by
  intro s a s' synced settled stepped
  cases a with
  | write file =>
      cases stepped
      exact synced.of_same ⟨rfl, rfl, rfl, rfl, rfl⟩
  | register =>
      cases stepped
      exact synced.register
  | snapshot i rewrite =>
      obtain ⟨kept, clients, sent, answer⟩ := synced.snapshotForNewClient rewrite
      simp only [step] at stepped
      split at stepped
      case h_1 frames found =>
        cases stepped
        have member := List.mem_of_getElem? found
        refine kept.setClient (fun cold unserved => ?_) fun warm t expects => ?_
        · have empty : frames = [] :=
            synced.silent (sent ▸ cold) ⟨.registered, frames⟩ member (.registered frames)
          exact empty
        · obtain ⟨doc, snap, agree⟩ := answer (sent ▸ warm)
          rw [snap] at expects
          cases expects
          exact agree
      case h_2 => cases stepped
  | reply i =>
      simp only [step] at stepped
      split at stepped
      case h_1 snap frames found =>
        cases stepped
        have member := List.mem_of_getElem? found
        refine synced.setClient (fun _ unserved => ?_) fun warm => ?_
        · cases unserved
        · rw [expected_reply]
          exact synced.clients warm _ member
      case h_2 => cases stepped
  | disconnect i =>
      simp only [step] at stepped
      split at stepped
      case h_1 frames found =>
        cases stepped
        refine synced.setClient (fun _ unserved => ?_) fun _ t expects => ?_
        · cases unserved
        · cases expects
      case h_2 => cases stepped
  | tick now rewrite =>
      have same := sameTables_readFile feed s rewrite
      simp only [step] at stepped
      split at stepped
      · cases stepped
      · split at stepped
        · cases stepped
          exact synced
        · split at stepped
          case h_1 read =>
            cases stepped
            rw [read] at same
            exact synced.of_same ⟨same.1, same.2, same.3, same.4, same.5⟩
          case h_2 read =>
            cases stepped
            rw [read] at same
            exact synced.of_same ⟨same.1, same.2, same.3, same.4, same.5⟩
  | commit now =>
      simp only [step] at stepped
      split at stepped
      · cases stepped
      case h_2 r reading =>
        have taken : Synced feed { s with reading := none } :=
          synced.of_same ⟨rfl, rfl, rfl, rfl, rfl⟩
        have committed : (commit feed { s with reading := none } r.doc now).Synced feed := by
          unfold commit
          split
          · exact taken
          case isFalse unguarded =>
            split
            · exact taken
            case isFalse changed =>
              have ready := settled r reading (Bool.eq_false_iff.mpr unguarded)
                (Bool.eq_false_iff.mpr changed)
              exact taken.send ⟨ready.alike, ready.shown, ready.covered⟩
        cases stepped
        split
        · exact committed.of_same ⟨rfl, rfl, rfl, rfl, rfl⟩
        · exact committed

theorem synced_initial (feed : Feed V) : feed.initial.Synced feed := by
  refine ⟨fun _ => rfl, fun _ c member => ?_, fun warm => ?_, fun warm => ?_⟩
  · cases member
  · cases warm
  · cases warm

end Channel

end Avalant
