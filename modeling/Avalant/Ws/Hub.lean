import Mathlib.Logic.Function.Basic
import Avalant.Lib.Run

/-!
The hub of a channel: its clients, the goroutines of each, and the broadcasts
that are under way.

`Broadcast` takes the clients under the lock and offers them the message
without it, so a client may leave the hub while a broadcast still holds it. A
client whose outbox is full is left to a goroutine that deregisters it, and the
reader, the writer and any number of such goroutines may call `deregister` of
one client at once. Everything between two of these steps may interleave.

`offers` and `written` are for the statements: what broadcasts have offered to a
client and whether there was room, and what went out on its connection.
-/

namespace Avalant

open Transition

namespace Hub

/-! ## Clients -/

inductive Frame (M : Type)
  /-- What the handler or the reader answers. -/
  | reply (m : M)
  | broadcast (m : M)
  deriving DecidableEq, Repr

/-- Where a call of `deregister` is: before its lock, before `close(c.done)`, or before
`c.conn.Close()`. -/
inductive Place
  | entered
  | deleted
  | closed
  deriving DecidableEq, Repr

inductive Writer (M : Type)
  | unborn
  | waiting
  | writing (frame : Frame M)
  | ended
  deriving DecidableEq, Repr

inductive Reader
  | unborn
  | reading
  | ended
  deriving DecidableEq, Repr

structure Client (M : Type) where
  inHub : Bool := true
  /-- How often `c.done` has been closed. A second time is a panic. -/
  doneCloses : Nat := 0
  connOpen : Bool := true
  outbox : List (Frame M) := []
  writer : Writer M := .unborn
  reader : Reader := .unborn
  /-- How many calls of `deregister` are at each place. -/
  calls : Place → Nat := fun _ => 0
  /-- How many broadcasts there had been when it registered. -/
  since : Nat
  offers : List (M × Bool) := []
  written : List (Frame M) := []

def clientOutboxSize : Nat := 128

namespace Client

variable {M : Type}

def hasRoom (c : Client M) : Bool := decide (c.outbox.length < clientOutboxSize)

/-- `select { case c.outbox <- msg: default: }`. -/
def queue (c : Client M) (frame : Frame M) : Client M :=
  if c.hasRoom then { c with outbox := c.outbox ++ [frame] } else c

/-- `go h.deregister(c)`, or a deferred one. -/
def enter (c : Client M) : Client M :=
  { c with calls := Function.update c.calls .entered (c.calls .entered + 1) }

/-- A call of `deregister` goes on to another place. -/
def moved (c : Client M) (from_ to_ : Place) : Place → Nat :=
  Function.update (Function.update c.calls from_ (c.calls from_ - 1)) to_ (c.calls to_ + 1)

/-- A call of `deregister` returns. -/
def returned (c : Client M) (from_ : Place) : Place → Nat :=
  Function.update c.calls from_ (c.calls from_ - 1)

/-- What a broadcast does with one client. -/
def offer (c : Client M) (m : M) : Client M :=
  if c.hasRoom then
    { c with outbox := c.outbox ++ [.broadcast m], offers := c.offers ++ [(m, true)] }
  else { c.enter with offers := c.offers ++ [(m, false)] }

/-- The next step of a call of `deregister`. -/
def deregister (c : Client M) (place : Place) : Option (Client M) :=
  if c.calls place = 0 then none
  else
    match place with
    | .entered =>
        if c.inHub then some { c with inHub := false, calls := c.moved .entered .deleted }
        else some { c with calls := c.returned .entered }
    | .deleted =>
        some { c with doneCloses := c.doneCloses + 1, calls := c.moved .deleted .closed }
    | .closed => some { c with connOpen := false, calls := c.returned .closed }

/-- `runWriter` returns. -/
def endWriter (c : Client M) : Client M :=
  { c.enter with writer := .ended }

/-- `runReader` returns. -/
def endReader (c : Client M) : Client M :=
  { c.enter with reader := .ended }

end Client

/-- What the goroutines of one client do. -/
inductive ClientAct (M : Type)
  /-- The handler answers with a snapshot, before it starts the goroutines. -/
  | snapshot (m : M)
  | start
  | take
  | write (succeeds : Bool)
  /-- The writer sees `c.done` closed, or a ping of its own fails. -/
  | quit (pingFails : Bool)
  | answerPing (pong : M)
  | readError
  | deregister (place : Place)

namespace Client

variable {M : Type}

def act (c : Client M) : ClientAct M → Option (Client M)
  | .snapshot m =>
      match c.writer with
      | .unborn => some (c.queue (.reply m))
      | _ => none
  | .start =>
      match c.writer with
      | .unborn => some { c with writer := .waiting, reader := .reading }
      | _ => none
  | .take =>
      match c.writer, c.outbox with
      | .waiting, frame :: rest => some { c with writer := .writing frame, outbox := rest }
      | _, _ => none
  | .write succeeds =>
      match c.writer with
      | .writing frame =>
          if succeeds ∧ c.connOpen then
            some { c with writer := .waiting, written := c.written ++ [frame] }
          else some c.endWriter
      | _ => none
  | .quit pingFails =>
      match c.writer with
      | .waiting => if 0 < c.doneCloses ∨ pingFails then some c.endWriter else none
      | _ => none
  | .answerPing pong =>
      match c.reader with
      | .reading => some (c.queue (.reply pong))
      | _ => none
  | .readError =>
      match c.reader with
      | .reading => some c.endReader
      | _ => none
  | .deregister place => c.deregister place

end Client

/-! ## The hub -/

/-- A call of `Broadcast`, and the clients it has still to offer its message to. -/
structure Flight (M : Type) where
  msg : M
  rest : List Nat
  deriving DecidableEq, Repr

structure State (M : Type) where
  clients : List (Client M) := []
  flights : List (Flight M) := []
  /-- Every message given to `Broadcast`. -/
  log : List M := []

inductive Act (M : Type)
  | register
  /-- `Broadcast` takes the clients, in the order the map gives them. -/
  | broadcast (m : M) (order : List Nat)
  /-- A broadcast offers its message to the next client, or returns. -/
  | offer (k : Nat)
  | client (i : Nat) (a : ClientAct M)

namespace State

variable {M : Type}

/-- The keys of `h.clients`. -/
def members (s : State M) : List Nat :=
  (List.range s.clients.length).filter fun i => (s.clients[i]?).any Client.inHub

def step (s : State M) : Act M → Option (State M)
  | .register => some { s with clients := s.clients ++ [{ since := s.log.length }] }
  | .broadcast m order =>
      if order.Perm s.members then
        some { s with flights := s.flights ++ [⟨m, order⟩], log := s.log ++ [m] }
      else none
  | .offer k =>
      s.flights[k]?.map fun flight =>
        match flight.rest with
        | [] => { s with flights := s.flights.eraseIdx k }
        | i :: rest =>
            { s with
              clients := s.clients.modify i fun c => c.offer flight.msg
              flights := s.flights.set k { flight with rest := rest } }
  | .client i a =>
      (s.clients[i]?).bind fun c => (c.act a).map fun c => { s with clients := s.clients.set i c }

theorem mem_members {s : State M} {i : Nat} :
    i ∈ s.members ↔ ∃ c, s.clients[i]? = some c ∧ c.inHub = true := by
  unfold members
  rw [List.mem_filter, List.mem_range]
  constructor
  · intro given
    obtain ⟨-, present⟩ := given
    cases here : s.clients[i]? with
    | none =>
        rw [here] at present
        cases present
    | some c =>
        rw [here] at present
        exact ⟨c, rfl, present⟩
  · intro given
    obtain ⟨c, here, inHub⟩ := given
    obtain ⟨bound, -⟩ := List.getElem?_eq_some_iff.mp here
    refine ⟨bound, ?_⟩
    rw [here]
    exact inHub

theorem nodup_members (s : State M) : s.members.Nodup :=
  List.nodup_range.filter _

end State

/-! ## What each client keeps -/

namespace Client

variable {M : Type}

/-- A broadcast had no room, or one of the goroutines has returned. -/
def Failing (c : Client M) : Prop :=
  (∃ o ∈ c.offers, o.2 = false) ∨ c.writer = .ended ∨ c.reader = .ended

/-- Of the calls of `deregister` one deletes the client, and that one closes `done`. -/
structure Sound (c : Client M) : Prop where
  once : c.calls .deleted + c.doneCloses + (if c.inHub then 1 else 0) = 1
  reaped : c.inHub = true → c.Failing → 0 < c.calls .entered
  closing : c.calls .closed + (if c.connOpen then 0 else 1) = c.doneCloses
  size : c.outbox.length ≤ clientOutboxSize

theorem sound_register (since : Nat) : Sound ({ since := since } : Client M) := by
  constructor
  · rfl
  · intro _ failing
    rcases failing with ⟨o, member, -⟩ | ended | ended
    · cases member
    · cases ended
    · cases ended
  · rfl
  · exact Nat.zero_le _

@[simp] theorem calls_enter (c : Client M) (place : Place) :
    c.enter.calls place = if place = .entered then c.calls .entered + 1 else c.calls place :=
  Function.update_apply c.calls _ _ _

@[simp] theorem calls_moved (c : Client M) (from_ to_ place : Place) :
    c.moved from_ to_ place =
      if place = to_ then c.calls to_ + 1
      else if place = from_ then c.calls from_ - 1 else c.calls place := by
  unfold moved
  rw [Function.update_apply, Function.update_apply]

@[simp] theorem calls_returned (c : Client M) (from_ place : Place) :
    c.returned from_ place = if place = from_ then c.calls from_ - 1 else c.calls place := by
  unfold returned
  rw [Function.update_apply]

/-- An answer changes only the outbox. -/
theorem Sound.queue {c : Client M} (sound : c.Sound) (frame : Frame M) :
    (c.queue frame).Sound := by
  unfold Client.queue
  split
  case isTrue room =>
    refine ⟨sound.once, sound.reaped, sound.closing, ?_⟩
    rw [List.length_append]
    exact of_decide_eq_true room
  case isFalse => exact sound

/-- Whoever calls `deregister` may have failed. -/
theorem Sound.enter {c c' : Client M} (sound : c.Sound) (inHub : c'.inHub = c.inHub)
    (closes : c'.doneCloses = c.doneCloses) (conn : c'.connOpen = c.connOpen)
    (outbox : c'.outbox = c.outbox) (calls : c'.calls = c.enter.calls) : c'.Sound := by
  obtain ⟨once, -, closing, size⟩ := sound
  refine ⟨?_, fun _ _ => ?_, ?_, outbox ▸ size⟩
  · rw [calls, calls_enter, if_neg Place.noConfusion, closes, inHub]
    exact once
  · rw [calls, calls_enter, if_pos rfl]
    exact Nat.succ_pos _
  · rw [calls, calls_enter, if_neg Place.noConfusion, closes, conn]
    exact closing

theorem Sound.offer {c : Client M} (sound : c.Sound) (m : M) : (c.offer m).Sound := by
  unfold Client.offer
  split
  case isTrue room =>
    refine ⟨sound.once, fun inHub failing => sound.reaped inHub ?_, sound.closing, ?_⟩
    · rcases failing with ⟨o, member, refused⟩ | ended
      · rcases List.mem_append.mp member with old | new
        · exact .inl ⟨o, old, refused⟩
        · rw [List.mem_singleton.mp new] at refused
          cases refused
      · exact .inr ended
    · rw [List.length_append]
      exact of_decide_eq_true room
  case isFalse => exact sound.enter rfl rfl rfl rfl rfl

theorem Sound.deregister {c c' : Client M} {place : Place} (sound : c.Sound)
    (stepped : c.deregister place = some c') : c'.Sound := by
  obtain ⟨once, reaped, closing, size⟩ := sound
  unfold Client.deregister at stepped
  split at stepped
  case isTrue => cases stepped
  case isFalse waiting =>
    cases place with
    | entered =>
        cases present : c.inHub with
        | true =>
            simp only [present, if_true] at stepped once
            cases stepped
            refine ⟨?_, fun gone => ?_, ?_, size⟩
            · simp
              omega
            · cases gone
            · simpa using closing
        | false =>
            simp only [present, Bool.false_eq_true, if_false] at stepped once
            cases stepped
            refine ⟨?_, fun here => ?_, ?_, size⟩
            · simpa [present] using once
            · cases here
            · simpa using closing
    | deleted =>
        cases stepped
        have gone : c.inHub = false := by
          cases present : c.inHub with
          | false => rfl
          | true =>
              rw [present, if_pos rfl] at once
              omega
        rw [gone] at once
        refine ⟨?_, fun here => ?_, ?_, size⟩
        · simp [gone] at once ⊢
          omega
        · rw [gone] at here
          cases here
        · simp
          omega
    | closed =>
        cases stepped
        have stillOpen : c.connOpen = true := by
          cases opened : c.connOpen with
          | true => rfl
          | false =>
              rw [opened] at closing
              simp at closing
              omega
        rw [stillOpen] at closing
        refine ⟨?_, fun here failing => ?_, ?_, size⟩
        · simpa using once
        · simpa using reaped here failing
        · simp at closing ⊢
          omega

theorem Sound.act {c c' : Client M} {a : ClientAct M} (sound : c.Sound)
    (stepped : c.act a = some c') : c'.Sound := by
  cases a with
  | snapshot m =>
      simp only [Client.act] at stepped
      split at stepped
      · cases stepped
        exact sound.queue _
      · cases stepped
  | start =>
      simp only [Client.act] at stepped
      split at stepped
      · cases stepped
        refine ⟨sound.once, fun inHub failing => sound.reaped inHub ?_, sound.closing, sound.size⟩
        rcases failing with refused | ended | ended
        · exact .inl refused
        · cases ended
        · cases ended
      · cases stepped
  | take =>
      simp only [Client.act] at stepped
      split at stepped
      case h_1 frame rest waiting queued =>
        cases stepped
        refine ⟨sound.once, fun inHub failing => sound.reaped inHub ?_, sound.closing, ?_⟩
        · rcases failing with refused | ended | ended
          · exact .inl refused
          · cases ended
          · exact .inr (.inr ended)
        · have := sound.size
          rw [queued, List.length_cons] at this
          exact Nat.le_of_succ_le this
      case h_2 => cases stepped
  | write succeeds =>
      simp only [Client.act] at stepped
      split at stepped
      case h_1 frame writing =>
        split at stepped
        · cases stepped
          refine ⟨sound.once, fun inHub failing => sound.reaped inHub ?_, sound.closing, sound.size⟩
          rcases failing with refused | ended | ended
          · exact .inl refused
          · cases ended
          · exact .inr (.inr ended)
        · cases stepped
          exact sound.enter rfl rfl rfl rfl rfl
      case h_2 => cases stepped
  | quit pingFails =>
      simp only [Client.act] at stepped
      split at stepped
      · split at stepped
        · cases stepped
          exact sound.enter rfl rfl rfl rfl rfl
        · cases stepped
      · cases stepped
  | answerPing pong =>
      simp only [Client.act] at stepped
      split at stepped
      · cases stepped
        exact sound.queue _
      · cases stepped
  | readError =>
      simp only [Client.act] at stepped
      split at stepped
      · cases stepped
        exact sound.enter rfl rfl rfl rfl rfl
      · cases stepped
  | deregister place => exact sound.deregister stepped

end Client

/-! ## Every client of every run -/

namespace State

variable {M : Type} {s s' : State M}

/-- What an action does to the clients. -/
theorem clients_of_step {a : Act M} (stepped : s.step a = some s') {c' : Client M}
    (member : c' ∈ s'.clients) :
    c' ∈ s.clients ∨ c' = { since := s.log.length } ∨
      (∃ c ∈ s.clients, ∃ m, c' = c.offer m) ∨ ∃ c ∈ s.clients, ∃ b, c.act b = some c' := by
  cases a with
  | register =>
      cases stepped
      rcases List.mem_append.mp member with old | new
      · exact .inl old
      · exact .inr (.inl (List.mem_singleton.mp new))
  | broadcast m order =>
      simp only [step] at stepped
      split at stepped
      · cases stepped
        exact .inl member
      · cases stepped
  | offer k =>
      obtain ⟨flight, -, rfl⟩ := Option.map_eq_some_iff.mp stepped
      split at member
      · exact .inl member
      case h_2 i rest pending =>
        obtain ⟨j, here⟩ := List.mem_iff_getElem?.mp member
        rw [List.getElem?_modify] at here
        obtain ⟨c, before, rfl⟩ := Option.map_eq_some_iff.mp here
        have old := List.mem_of_getElem? before
        split
        · exact .inr (.inr (.inl ⟨c, old, flight.msg, rfl⟩))
        · exact .inl old
  | client i b =>
      obtain ⟨c, here, acted⟩ := Option.bind_eq_some_iff.mp stepped
      obtain ⟨c₁, act, rfl⟩ := Option.map_eq_some_iff.mp acted
      rcases List.mem_or_eq_of_mem_set member with old | rfl
      · exact .inl old
      · exact .inr (.inr (.inr ⟨c, List.mem_of_getElem? here, b, act⟩))

theorem sound_preserved :
    Preserves (step (M := M)) (fun _ _ => True) fun s => ∀ c ∈ s.clients, c.Sound := by
  intro s a s' sound _ stepped c' member
  rcases clients_of_step stepped member with old | rfl | given | given
  · exact sound c' old
  · exact Client.sound_register _
  · obtain ⟨c, old, m, rfl⟩ := given
    exact (sound c old).offer m
  · obtain ⟨c, old, b, acted⟩ := given
    exact (sound c old).act acted

/-! ## Who is reaped, and how -/

/-- `done` is closed once, and only by the call that has taken the client out of the hub; and a
client that a broadcast had no room for, or that one of its goroutines has left, is on its way
out. -/
structure Reaped (c : Client M) : Prop where
  doneOnce : c.doneCloses ≤ 1
  staysOpen : c.inHub = true → c.doneCloses = 0 ∧ c.connOpen = true
  onItsWay : c.inHub = true → c.Failing → 0 < c.calls .entered
  leaves : c.inHub = false → c.doneCloses = 1 ∨ c.calls .deleted = 1
  hangsUp : c.doneCloses = 1 → c.connOpen = false ∨ c.calls .closed = 1

theorem reaped_of_sound {c : Client M} (sound : c.Sound) : Reaped c := by
  obtain ⟨once, reaped, closing, -⟩ := sound
  refine ⟨by omega, fun here => ?_, reaped, fun gone => ?_, fun closed => ?_⟩
  · rw [here, if_pos rfl] at once
    have none : c.doneCloses = 0 := by omega
    refine ⟨none, ?_⟩
    cases conn : c.connOpen with
    | true => rfl
    | false =>
        rw [conn, none] at closing
        simp at closing
  · rw [gone] at once
    simp at once
    omega
  · cases conn : c.connOpen with
    | false => exact .inl rfl
    | true =>
        rw [conn, closed] at closing
        exact .inr (by simpa using closing)

/-- However registrations, broadcasts, writers, readers and calls of `deregister` interleave. -/
theorem clients_reaped (run : Run (step (M := M)) (fun _ _ => True) {} s) {c : Client M}
    (member : c ∈ s.clients) : Reaped c ∧ c.outbox.length ≤ clientOutboxSize := by
  have sound := run.invariant sound_preserved (fun c none => nomatch none) c member
  exact ⟨reaped_of_sound sound, sound.size⟩

/-- One client whose writer never runs, and a broadcast more than its outbox holds. -/
def fullOutbox : List (Act Nat) :=
  [.register, .client 0 .start] ++
    (List.range (clientOutboxSize + 1)).flatMap fun m => [.broadcast m [0], .offer 0, .offer 0]

theorem clients_reaped_full : ∃ (s : State Nat) (c : Client Nat),
    exec step {} fullOutbox = some s ∧ c ∈ s.clients ∧ c.inHub = true ∧ c.calls .entered = 1 ∧
      Reaped c ∧ c.outbox.length ≤ clientOutboxSize := by
  have ran : (exec step {} fullOutbox).map
      (fun s => s.clients.map fun c => (c.inHub, c.calls .entered)) = some [(true, 1)] := by
    decide +kernel
  obtain ⟨s, executed, view⟩ := Option.map_eq_some_iff.mp ran
  have shown : (true, 1) ∈ s.clients.map fun c => (c.inHub, c.calls .entered) := by
    rw [view]
    exact List.mem_singleton_self _
  obtain ⟨c, member, same⟩ := List.mem_map.mp shown
  obtain ⟨inHub, entered⟩ := Prod.mk.inj same
  exact ⟨s, c, executed, member, inHub, entered, clients_reaped (Run.of_exec executed) member⟩

end State

end Hub

end Avalant
