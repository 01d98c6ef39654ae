import Avalant.Lib.Run
import Avalant.Ws.Feed

/-!
A screener channel and its clients, step by step.

A client registers with the hub, takes its snapshot under the lock of the
channel, and puts it in its outbox after the lock is released; what it reads
from its outbox it applies in order. A tick reads the file before it takes the
lock, and commits under it. Between any two of these steps the file may be
written, and also between the `Stat` and the `ReadFile` of one read.

`ticks` is for the statements: it tells for how long ticks that began after the
last write have been going on.
-/

namespace Avalant

open Replica Transition

/-! ## State -/

structure SourceFile (V : Type) where
  mtime : Int
  /-- The decoded content, unless it is not a JSON object. -/
  doc : Option (Doc V)

inductive Phase (V : Type)
  | registered
  /-- `SnapshotForNewClient` has returned. -/
  | holding (snap : Option (Doc V))
  | live
  | gone

structure Client (V : Type) where
  phase : Phase V := .registered
  /-- What was put in its outbox, oldest first. -/
  frames : List (Frame V) := []

/-- What a tick has read, and whether the file has been left alone since. -/
structure Reading (V : Type) where
  doc : Doc V
  fresh : Bool

/-- The first and the last of some ticks. -/
structure Ticks where
  first : Time
  last : Time
  deriving DecidableEq, Repr

structure Channel (V : Type) where
  file : Option (SourceFile V) := none
  lastByKey : Store String (Row V) := ∅
  lastInfo : List (Option V)
  lastBroadcastAt : Option Time := none
  lastSnapshot : Option (Doc V) := none
  lastFileMtime : Int := 0
  clients : List (Client V) := []
  reading : Option (Reading V) := none
  ticks : Option Ticks := none

inductive ChannelAct (V : Type)
  | write (file : Option (SourceFile V))
  | register
  /-- `SnapshotForNewClient`, with a write before its `Stat`. -/
  | snapshot (client : Nat) (rewrite : Option (SourceFile V))
  /-- The handler puts the snapshot in the outbox. -/
  | reply (client : Nat)
  | disconnect (client : Nat)
  /-- The read of a tick, with a write before its `ReadFile`. -/
  | tick (now : Time) (rewrite : Option (SourceFile V))
  | commit (now : Time)

variable {V : Type}

/-- The channel at the start of the process. -/
def Feed.initial (feed : Feed V) : Channel V :=
  { lastInfo := feed.info fun _ => none }

/-! ## The hub -/

def Client.inHub (c : Client V) : Bool :=
  match c.phase with
  | .gone => false
  | _ => true

/-- Whether its reply has been queued. -/
def Client.isLive (c : Client V) : Bool :=
  match c.phase with
  | .live => true
  | _ => false

def Client.receive (c : Client V) (frame : Frame V) : Client V :=
  { c with frames := c.frames ++ [frame] }

/-- What a client has built from its frames. -/
def Client.table (feed : Feed V) (c : Client V) : Store String (Row V) :=
  c.frames.foldl feed.applyFrame ∅

namespace Channel

/-- `hub.Count`. -/
def count (s : Channel V) : Nat :=
  (s.clients.filter Client.inHub).length

/-- `hub.Broadcast`. -/
def broadcast (s : Channel V) (frame : Frame V) : Channel V :=
  { s with clients := s.clients.map fun c => if c.inHub then c.receive frame else c }

def setClient (s : Channel V) (i : Nat) (c : Client V) : Channel V :=
  { s with clients := s.clients.set i c }

/-! ## The file -/

def write (s : Channel V) (file : Option (SourceFile V)) : Channel V :=
  { s with
    file := file
    reading := s.reading.map fun r => { r with fresh := false }
    ticks := none }

/-- A write that may fall inside a read. -/
def rewrite (s : Channel V) : Option (SourceFile V) → Channel V
  | none => s
  | some file => s.write (some file)

def content (s : Channel V) : Option (Doc V) :=
  s.file.bind SourceFile.doc

variable (feed : Feed V)

/-- `readFile`: the content, unless the time is the remembered one. -/
def readFile (s : Channel V) (rewrite : Option (SourceFile V)) : Channel V × Option (Doc V) :=
  match s.file with
  | none => (s, none)
  | some file =>
      if feed.remembersFile ∧ file.mtime ≠ 0 ∧ file.mtime = s.lastFileMtime then (s, none)
      else
        let s := s.rewrite rewrite
        match s.content with
        | none => (s, none)
        | some doc =>
            ({ s with lastFileMtime := if feed.remembersFile then file.mtime else s.lastFileMtime },
              some doc)

/-- `SnapshotForNewClient`: the last snapshot or, before there is one, the file. -/
def snapshotForNewClient (s : Channel V) (rewrite : Option (SourceFile V)) :
    Channel V × Option (Doc V) :=
  match s.lastSnapshot with
  | some doc => (s, some doc)
  | none =>
      match s.content with
      | none => (s, none)
      | some doc =>
          let s := s.rewrite rewrite
          ({ s with
              lastFileMtime := if feed.remembersFile then (s.file.map SourceFile.mtime).getD 0
                else s.lastFileMtime
              lastSnapshot := if feed.remembersFile then some doc else none },
            some doc)

/-! ## Ticks -/

/-- The guard against a table that has suddenly lost most of its rows. -/
def guarded (s : Channel V) (doc : Doc V) (now : Time) : Bool :=
  let prevCount := s.lastByKey.keys.length
  let newCount := (feed.byKey doc.rows).keys.length
  decide (feed.unguarded < prevCount ∧ newCount < prevCount / 2) &&
    match feed.window with
    | none => true
    | some window => s.lastBroadcastAt.any fun last => now - last < window

/-- Whether there is nothing to send. -/
def unchanged [DecidableEq V] (s : Channel V) (doc : Doc V) : Bool :=
  (diff feed.differs s.lastByKey (feed.byKey doc.rows)).isEmpty &&
    decide (feed.info doc.fields = s.lastInfo)

/-- The broadcast of a diff, and what the channel remembers of it. -/
def send [DecidableEq V] (s : Channel V) (doc : Doc V) (now : Time) : Channel V :=
  let info := if feed.info doc.fields = s.lastInfo then none else some (feed.info doc.fields)
  { s.broadcast (feed.diffFrame s.lastByKey (feed.byKey doc.rows) info) with
    lastByKey := feed.byKey doc.rows
    lastInfo := feed.info doc.fields
    lastBroadcastAt := some now
    lastSnapshot := some doc }

/-- What a tick does with what it has read. -/
def commit [DecidableEq V] (s : Channel V) (doc : Doc V) (now : Time) : Channel V :=
  if s.guarded feed doc now then s
  else if s.unchanged feed doc then s
  else s.send feed doc now

/-- A tick has ended. -/
def noteTick (s : Channel V) (now : Time) : Channel V :=
  { s with ticks := some ⟨(s.ticks.map Ticks.first).getD now, now⟩ }

/-! ## Steps -/

def step [DecidableEq V] (s : Channel V) : ChannelAct V → Option (Channel V)
  | .write file => some (s.write file)
  | .register => some { s with clients := s.clients ++ [{}] }
  | .snapshot i rewrite =>
      match s.clients[i]? with
      | some ⟨.registered, frames⟩ =>
          let (s, snap) := s.snapshotForNewClient feed rewrite
          some (s.setClient i ⟨.holding snap, frames⟩)
      | _ => none
  | .reply i =>
      match s.clients[i]? with
      | some ⟨.holding snap, frames⟩ =>
          some (s.setClient i ⟨.live, frames ++ (snap.map Frame.snapshot).toList⟩)
      | _ => none
  | .disconnect i =>
      match s.clients[i]? with
      | some ⟨.live, frames⟩ => some (s.setClient i ⟨.gone, frames⟩)
      | _ => none
  | .tick now rewrite =>
      match s.reading with
      | some _ => none
      | none =>
          if s.count = 0 then some s
          else
            match s.readFile feed rewrite with
            | (s, none) => some (s.noteTick now)
            | (s, some doc) => some { s with reading := some ⟨doc, true⟩ }
  | .commit now =>
      match s.reading with
      | none => none
      | some r =>
          let s := commit feed { s with reading := none } r.doc now
          some (if r.fresh then s.noteTick now else s)

end Channel

end Avalant
