import Avalant.Lib.Run
import Mathlib.Data.Finset.Card
import Mathlib.Data.Finset.Dedup
import Mathlib.Data.Finset.Lattice.Basic
import Mathlib.Data.Finset.Sort
import Mathlib.Data.Finset.Union

/-!
The connection of an exchange and its subscriptions.

`SetSymbols` sends its frames from goroutines that record the subscription when
the last frame is out. They outlive the next `SetSymbols` and the connection they
were started for. A frame is the list of the symbols in it, and the server applies
the frames of a connection in the order in which they are sent.
-/

namespace Avalant

namespace Exchange

open Transition

/-- What the runner asks of an adapter. Frames name the symbols they are built for. -/
structure Adapter where
  /-- 0 is no bound. -/
  maxSymbols : Nat
  buildSubscribe : List String → List (List String)
  /-- Of an `Unsubscriber`. -/
  buildUnsubscribe : Option (List String → List (List String))
  subscribes : ∀ syms sym, sym ∈ (buildSubscribe syms).flatten ↔ sym ∈ syms
  unsubscribes : ∀ build ∈ buildUnsubscribe, ∀ syms sym, sym ∈ (build syms).flatten ↔ sym ∈ syms

inductive Kind
  | subscribe
  | unsubscribe
  deriving DecidableEq

/-- Frames on their way to a connection, and the symbols that are recorded after the last one.
Without a connection there is only the record. -/
structure Send where
  kind : Kind
  conn : Option Nat
  syms : List String
  frames : List (List String)
  /-- The session sends it itself, before it reads. -/
  first : Bool
  deriving DecidableEq

/-- A connection, and what the server at its other end is subscribed to. -/
structure Conn where
  id : Nat
  opened : Bool
  subs : Finset String
  deriving DecidableEq

structure Runner where
  /-- Wanted. -/
  symbols : Finset String
  subscribed : Finset String
  conn : Option Conn
  /-- How many connections there have been. -/
  opens : Nat
  sends : List Send
  /-- Connections that a `SetSymbols` is about to close. -/
  closes : List Nat

inductive RunnerAct
  /-- `removed` is in the order of a map. -/
  | setSymbols (syms removed : List String)
  /-- The next frame of a goroutine. -/
  | send (t : Send)
  /-- The end of a goroutine. -/
  | record (t : Send)
  | close (id : Nat)
  /-- The connection is lost, or closed by the watchdog or the session. -/
  | lose
  | endSession
  /-- `wantedSnap` is in the order of a map. -/
  | openSession (wantedSnap : List String)

/-- The symbols that `subscribe` takes. -/
def Adapter.cut (a : Adapter) (syms : List String) : List String :=
  if 0 < a.maxSymbols ∧ a.maxSymbols < syms.length then syms.take a.maxSymbols else syms

def Adapter.subscribe (a : Adapter) (id : Nat) (syms : List String) (first : Bool) : Send :=
  ⟨.subscribe, some id, a.cut syms, a.buildSubscribe (a.cut syms), first⟩

/-- What the server makes of a frame. -/
def Conn.apply (k : Conn) (kind : Kind) (frame : List String) : Conn :=
  match kind with
  | .subscribe => { k with subs := k.subs ∪ frame.toFinset }
  | .unsubscribe => { k with subs := k.subs \ frame.toFinset }

/-- What a goroutine makes of `subscribed`. -/
def Send.recorded (t : Send) (subscribed : Finset String) : Finset String :=
  match t.kind with
  | .subscribe => subscribed ∪ t.syms.toFinset
  | .unsubscribe => subscribed \ t.syms.toFinset

namespace Runner

def initial : Runner := ⟨∅, ∅, none, 0, [], []⟩

/-- The wanted symbols that are not recorded, in the order of the call. -/
def added (s : Runner) (syms : List String) : List String :=
  syms.filter fun sym => sym ∉ s.subscribed

/-- The last part of `SetSymbols`. -/
def subscribeAdded (a : Adapter) (s : Runner) (added : List String) : Runner :=
  match s.conn with
  | none => s
  | some k =>
      if added = [] then s else { s with sends := s.sends ++ [a.subscribe k.id added false] }

/-- `SetSymbols`. -/
def setSymbols (a : Adapter) (s : Runner) (syms removed : List String) : Runner :=
  let wanted := { s with symbols := syms.toFinset }
  if removed = [] then wanted.subscribeAdded a (s.added syms)
  else
    match a.buildUnsubscribe with
    | some build =>
        let frames := if s.conn.isSome then build removed else []
        let leave : Send := ⟨.unsubscribe, s.conn.map Conn.id, removed, frames, false⟩
        let leaving : Runner := { wanted with sends := s.sends ++ [leave] }
        leaving.subscribeAdded a (s.added syms)
    | none =>
        match s.conn with
        | some k => { wanted with closes := s.closes ++ [k.id] }
        | none => wanted

/-- Closes the connection with an id, if it is the current one. -/
def shut (s : Runner) (id : Nat) : Runner :=
  { s with conn := s.conn.map fun k => if k.id = id then { k with opened := false } else k }

/-- The frame goes out on an open connection; otherwise `safeSend` fails and the goroutine ends. -/
def deliver (s : Runner) (t : Send) (frame : List String) (rest : List (List String)) : Runner :=
  match s.conn with
  | none => { s with sends := s.sends.erase t }
  | some k =>
      if t.conn = some k.id ∧ k.opened then
        { s with
          conn := some (k.apply t.kind frame)
          sends := { t with frames := rest } :: s.sends.erase t }
      else { s with sends := s.sends.erase t }

def step (a : Adapter) (s : Runner) : RunnerAct → Option Runner
  | .setSymbols syms removed =>
      if syms.Nodup ∧ removed.Nodup ∧ removed.toFinset = s.symbols \ syms.toFinset then
        some (s.setSymbols a syms removed)
      else none
  | .send t =>
      match t.frames with
      | [] => none
      | frame :: rest => if t ∈ s.sends then some (s.deliver t frame rest) else none
  | .record t =>
      if t ∈ s.sends ∧ t.frames = [] then
        some { s with subscribed := t.recorded s.subscribed, sends := s.sends.erase t }
      else none
  | .close id =>
      if id ∈ s.closes then some { s.shut id with closes := s.closes.erase id } else none
  | .lose => s.conn.map fun k => s.shut k.id
  | .endSession => do
      let k ← s.conn
      if k.opened ∨ ∃ t ∈ s.sends, t.first ∧ t.conn = some k.id then none
      else some { s with conn := none }
  | .openSession wantedSnap =>
      if s.conn = none ∧ wantedSnap.Nodup ∧ wantedSnap.toFinset = s.symbols then
        some { s with
          subscribed := ∅
          conn := some ⟨s.opens, true, ∅⟩
          opens := s.opens + 1
          sends := if wantedSnap = [] then s.sends
            else s.sends ++ [a.subscribe s.opens wantedSnap true] }
      else none

/-- A send that is enabled has a frame left, and delivers it. -/
theorem step_send {a : Adapter} {s s' : Runner} {t : Send}
    (stepped : s.step a (.send t) = some s') :
    ∃ frame rest, t.frames = frame :: rest ∧ t ∈ s.sends ∧ s' = s.deliver t frame rest := by
  simp only [step] at stepped
  split at stepped
  · cases stepped
  case h_2 frame rest frames =>
    obtain ⟨running, changed⟩ := Option.ite_none_right_eq_some.mp stepped
    exact ⟨frame, rest, frames, running, (Option.some.inj changed).symm⟩

end Runner

end Exchange

end Avalant
