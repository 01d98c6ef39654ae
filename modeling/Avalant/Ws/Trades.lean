import Avalant.Cache.Store
import Avalant.Lib.Replica
import Avalant.Lib.Run

/-!
The trades channel: a ring for the backfill of new subscriptions, and a batch for the next flush.

A tick is pushed to the ring under one lock and appended to the batch under another; the flush
takes the batches, then the clients, and then sends; a subscription takes effect under a third
lock, reads the ring, and then puts its backfill. What happens under one lock is one step here.
The ticks of a pair come from one adapter, one after the other. No outbox is full, and a request
names pairs that have been normalised.
-/

namespace Avalant

open Replica Transition

/-- A tick; `seq` is its place in the order of arrival. -/
structure TradeTick where
  pair : Pair
  seq : Nat
  deriving DecidableEq

abbrev TradeLists := Store Pair (List TradeTick)

/-- The list of a pair, empty when there is none. -/
def ticksOf (m : TradeLists) (pair : Pair) : List TradeTick :=
  (m.lookup pair).getD []

def tradesMaxPairsPerClient : Nat := 100

def tradesFlushBatchMax : Nat := 200

def ringCap : Nat := 50

/-- `Ring.Push`. -/
def ringPush (buf : List TradeTick) (tick : TradeTick) : List TradeTick :=
  if ringCap ≤ buf.length then buf.drop 1 ++ [tick] else buf ++ [tick]

/-- `Ring.Recent`. -/
def ringRecent (buf : List TradeTick) (n : Nat) : List TradeTick :=
  buf.drop (buf.length - n)

/-- `OnTick` at the batch: the oldest are dropped when there are too many. -/
def pendAppend (buf : List TradeTick) (tick : TradeTick) : List TradeTick :=
  if tradesFlushBatchMax ≤ buf.length then buf.drop (buf.length - tradesFlushBatchMax + 1) ++ [tick]
  else buf ++ [tick]

/-! ## Clients -/

/-- A subscription whose backfill is not put yet: the pairs to be read, and what was read. -/
structure Backfilling where
  rest : List Pair
  backfill : List TradeTick

structure TradesClient where
  /-- The subscribed pairs, each with the number of ticks that had arrived before. -/
  set : Store Pair Nat := ∅
  job : Option Backfilling := none
  /-- The frames that were put to the outbox. -/
  frames : List (List TradeTick) := []

namespace TradesClient

/-- What the client has been sent of a pair. -/
def received (c : TradesClient) (pair : Pair) : List TradeTick :=
  c.frames.flatten.filter (·.pair = pair)

/-- The pairs whose backfill is not read yet. -/
def rest (c : TradesClient) : List Pair :=
  (c.job.map Backfilling.rest).getD []

/-- What was read of a pair for the backfill that is not put yet. -/
def collected (c : TradesClient) (pair : Pair) : List TradeTick :=
  ((c.job.map Backfilling.backfill).getD []).filter (·.pair = pair)

def send (c : TradesClient) (frame : List TradeTick) : TradesClient :=
  { c with frames := c.frames ++ [frame] }

/-- The pairs of a request that are new, in its order. -/
def subscribePairs (arrived : Nat) (set : Store Pair Nat) : List Pair → Store Pair Nat × List Pair
  | [] => (set, [])
  | pair :: pairs =>
      if (set.lookup pair).isSome then subscribePairs arrived set pairs
      else
        let (set, added) := subscribePairs arrived (set.insert pair arrived) pairs
        (set, pair :: added)

/-- `handleSubscribe` under the lock. -/
def subscribe (c : TradesClient) (arrived : Nat) (pairs : List Pair) : TradesClient :=
  let free := tradesMaxPairsPerClient - c.set.keys.length
  let (set, added) := subscribePairs arrived c.set (pairs.take free)
  { c with set, job := if added = [] then none else some ⟨added, []⟩ }

end TradesClient

/-! ## The channel -/

/-- Where the flush is. -/
inductive TradesFlush
  | idle
  /-- The batches have been taken. -/
  | took (batches : TradeLists)
  /-- They are to be sent to these clients. -/
  | sending (batches : TradeLists) (todo : List (Pair × Nat))

structure TradesChannel where
  ring : TradeLists := ∅
  pending : TradeLists := ∅
  /-- The tick of a pair that is in the ring and not in its batch yet. -/
  held : Store Pair TradeTick := ∅
  clients : List TradesClient := []
  flush : TradesFlush := .idle
  /-- All ticks, in the order of arrival. -/
  arrived : List TradeTick := []

inductive TradesAct
  | register
  /-- `OnTick` pushes a tick to the ring. -/
  | push (pair : Pair)
  | pend (pair : Pair)
  | subscribe (client : Nat) (pairs : List Pair)
  | recent (client : Nat)
  | putBackfill (client : Nat)
  | take
  | snapSubs
  | send (pair : Pair) (client : Nat)
  | endFlush

namespace TradesChannel

def setClient (s : TradesChannel) (i : Nat) (c : TradesClient) : TradesChannel :=
  { s with clients := s.clients.set i c }

/-- The pairs and clients of a flush. -/
def snapshot (s : TradesChannel) (batches : TradeLists) : List (Pair × Nat) :=
  batches.keys.product (List.range s.clients.length)

/-- One frame of a batch to one client, if it has the pair. -/
def sendBatch (s : TradesChannel) (batches : TradeLists) (pair : Pair) (i : Nat) : TradesChannel :=
  match s.clients[i]? with
  | none => s
  | some c =>
      if ticksOf batches pair ≠ [] ∧ (c.set.lookup pair).isSome then
        s.setClient i (c.send (ticksOf batches pair))
      else s

def step (s : TradesChannel) : TradesAct → Option TradesChannel
  | .register => some { s with clients := s.clients ++ [{}] }
  | .push pair =>
      match s.held.lookup pair with
      | some _ => none
      | none =>
          let tick := ⟨pair, s.arrived.length⟩
          some { s with
            ring := s.ring.insert pair (ringPush (ticksOf s.ring pair) tick)
            held := s.held.insert pair tick
            arrived := s.arrived ++ [tick] }
  | .pend pair =>
      (s.held.lookup pair).map fun tick =>
        { s with
          pending := s.pending.insert pair (pendAppend (ticksOf s.pending pair) tick)
          held := s.held.erase pair }
  | .subscribe i pairs =>
      match s.clients[i]? with
      | some c =>
          if c.job.isNone then some (s.setClient i (c.subscribe s.arrived.length pairs)) else none
      | none => none
  | .recent i =>
      match s.clients[i]? with
      | some c =>
          match c.job with
          | some ⟨pair :: rest, backfill⟩ =>
              some (s.setClient i { c with
                job := some ⟨rest, backfill ++ ringRecent (ticksOf s.ring pair) 50⟩ })
          | _ => none
      | none => none
  | .putBackfill i =>
      match s.clients[i]? with
      | some c =>
          match c.job with
          | some ⟨[], backfill⟩ =>
              let c := { c with job := none }
              some (s.setClient i (if backfill = [] then c else c.send backfill))
          | _ => none
      | none => none
  | .take =>
      match s.flush with
      | .idle => some { s with pending := ∅, flush := .took s.pending }
      | _ => none
  | .snapSubs =>
      match s.flush with
      | .took batches =>
          some { s with flush := .sending batches (s.snapshot batches) }
      | _ => none
  | .send pair i =>
      match s.flush with
      | .sending batches todo =>
          if (pair, i) ∈ todo then
            some { s.sendBatch batches pair i with
              flush := .sending batches (todo.filter (· ≠ (pair, i))) }
          else none
      | _ => none
  | .endFlush =>
      match s.flush with
      | .sending _ [] => some { s with flush := .idle }
      | _ => none

/-! ## Exactly once and in order -/

/-- Nothing is on its way. -/
def Settled (s : TradesChannel) : Prop :=
  (∀ pair, s.held.lookup pair = none ∧ ticksOf s.pending pair = []) ∧ s.flush = .idle ∧
    ∀ c ∈ s.clients, c.job.isNone

/-- A client receives the ticks of a pair in the order of arrival, none of them twice, and, when
nothing is on its way, all that have arrived since it subscribed. -/
def DeliversOnce (s : TradesChannel) : Prop :=
  ∀ c ∈ s.clients, ∀ pair since, c.set.lookup pair = some since →
    (c.received pair).Pairwise (fun t t' => t.seq < t'.seq) ∧
      (s.Settled → ∀ t ∈ s.arrived, t.pair = pair → since ≤ t.seq → t ∈ c.received pair)

/-- In every state of the runs under a condition. -/
def AlwaysDeliversOnce (ok : TradesChannel → TradesAct → Prop) : Prop :=
  ∀ s, Run step ok {} s → s.DeliversOnce

/-- Fewer than `tradesFlushBatchMax` ticks of a pair between two flushes. -/
def Light (s : TradesChannel) : TradesAct → Prop
  | .pend pair => (ticksOf s.pending pair).length < tradesFlushBatchMax
  | _ => True

/-- The batch of a pair that the running flush has not sent to a client yet. -/
def unsent (s : TradesChannel) (i : Nat) (pair : Pair) : List TradeTick :=
  match s.flush with
  | .idle => []
  | .took batches => ticksOf batches pair
  | .sending batches todo => if (pair, i) ∈ todo then ticksOf batches pair else []

/-- The ticks of a pair that are still to be sent to a client. -/
def queue (s : TradesChannel) (i : Nat) (pair : Pair) : List TradeTick :=
  s.unsent i pair ++ ticksOf s.pending pair ++ (s.held.lookup pair).toList

/-- A backfill is read when no tick of its pair is on its way to the client, and no batch of a
pair is sent to a client whose backfill of it is not put yet. -/
def Spared (s : TradesChannel) : TradesAct → Prop
  | .recent i => ∀ c ∈ s.clients[i]?, ∀ pair ∈ c.rest.head?, s.queue i pair = []
  | .send pair i => ∀ c ∈ s.clients[i]?, pair ∉ c.rest ∧ c.collected pair = []
  | _ => True

end TradesChannel

end Avalant
