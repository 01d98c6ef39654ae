import Avalant.Cache.Store
import Avalant.Lib.Run
import Mathlib.Data.List.Dedup

/-!
The book channel: three senders and the snapshot of a new subscription.

A book that the cache has stored is stamped by the hook of the cache, which
either pushes it to the subscribers, when the symbol is hot, or leaves it in the
buffer of pending books. The loop of the channel flushes the buffer, and its
slower tick reads the mirror of the books. A new subscription is answered from
the cache. Each of these goes through several locks, and what happens under one
lock is one step here.

`Sub.frames` is for the statements: what a client has been sent of a pair since
it subscribed.
-/

namespace Avalant

open Transition

/-- One book of a pair, as it is sent: `bookPending`. -/
structure BookFrame where
  /-- Milliseconds. -/
  ts : Nat
  depth : Depth
  deriving DecidableEq

/-- `bookBroadcastLevels`. -/
def bookBroadcastLevels : Nat := 20

/-- `bookMaxPairsPerClient`. -/
def bookMaxPairsPerClient : Nat := 100

/-- `hotPairFloor`, 10 ms. -/
def hotPairFloor : Nat := 10000000

/-- The levels that are sent. -/
def Depth.trim (depth : Depth) : Depth :=
  ⟨depth.bids.take bookBroadcastLevels, depth.asks.take bookBroadcastLevels⟩

/-! ## State -/

structure Sub where
  /-- The last `ts` sent. -/
  last : Nat := 0
  frames : List BookFrame := []

structure BookClient where
  /-- None when `b.subs` does not have the client. -/
  subs : AList fun _ : Pair => Sub
  isOpen : Bool := true

/-- How far the hook of one update has come. -/
inductive HookPhase
  | called
  | stamped (at_ : Instant)
  /-- The symbol is hot. -/
  | hot (at_ : Instant)
  /-- On its way to the buffer. -/
  | late (at_ : Instant)
  /-- On its way to the subscribers. -/
  | bypass (at_ : Instant)

structure Hook where
  pair : Pair
  depth : Depth
  phase : HookPhase := .called

/-- How far the snapshot for a new subscription has come. -/
inductive InitialPhase
  | due
  | read (frame : BookFrame)
  /-- Its `ts` is the last one of the client. -/
  | marked (frame : BookFrame)

structure Initial where
  client : Nat
  pair : Pair
  phase : InitialPhase := .due

abbrev Frames := AList fun _ : Pair => BookFrame

/-- Where the loop of the channel is. -/
inductive BookLoop
  | idle
  /-- The buffer has been taken. -/
  | took (pending : Frames) (ticks : Bool)
  | sending (rest : Frames) (ticks : Bool)
  | collecting
  /-- The pairs and clients of a tick are known. -/
  | reading (clients : List Nat)
  | visiting (entries : Frames) (clients : List Nat)
  /-- The payload of one client, whose `ts` are the last ones of the client. -/
  | posting (client : Nat) (payload entries : Frames) (clients : List Nat)

structure BookChannel where
  clock : Instant
  store : Cache.Store := Cache.Store.empty
  clients : List BookClient := []
  pending : Frames := ∅
  alertHot : List String := []
  hotSubsRefcnt : String → Nat := fun _ => 0
  lastHotPushAt : AList fun _ : Pair => Instant
  hooks : List Hook := []
  initials : List Initial := []
  loop : BookLoop := .idle

inductive BookAct
  | wait (now : Instant)
  | register
  | deregister (client : Nat)
  | subscribe (client : Nat) (pairs : List Pair)
  | unsubscribe (client : Nat) (pairs : List Pair)
  | replaceAlertHot (symbols : List String)
  | store (pair : Pair) (depth : Depth) (source : String)
  | prune (idle : Nat)
  | evictStale (staleAfter : Nat)
  | stamp (hook : Nat)
  | heat (hook : Nat)
  | route (hook : Nat)
  /-- To the buffer or the subscribers, some of which have no room. -/
  | deliver (hook : Nat) (full : List Nat)
  | readInitial (initial : Nat)
  | markInitial (initial : Nat)
  | putInitial (initial : Nat) (full : Bool)
  | flush (ticks : Bool)
  | snapSubs
  | send (pair : Pair) (full : List Nat)
  | endFlush
  | collect
  /-- The answer of the mirror. -/
  | read (entries : Frames)
  | visit (client : Nat)
  | put (full : Bool)
  | endTick

/-! ## Subscriptions -/

namespace Sub

def mark (sub : Sub) (ts : Nat) : Sub := { sub with last := ts }

/-- `select` on the outbox: a full one drops the frame. -/
def put (sub : Sub) (frame : BookFrame) (full : Bool) : Sub :=
  if full then sub else { sub with frames := sub.frames ++ [frame] }

end Sub

namespace BookClient

def wants (c : BookClient) (pair : Pair) : Bool :=
  c.isOpen && (c.subs.lookup pair).isSome

/-- Change a subscription, if there is one. -/
def update (c : BookClient) (pair : Pair) (f : Sub → Sub) : BookClient :=
  match c.subs.lookup pair with
  | none => c
  | some sub => { c with subs := c.subs.insert pair (f sub) }

/-- `set[pairKey] = ts` and the frame. -/
def push (c : BookClient) (pair : Pair) (frame : BookFrame) (full : Bool) : BookClient :=
  if c.isOpen then c.update pair fun sub => (sub.mark frame.ts).put frame full else c

/-- A whole payload is marked, or put. -/
def updateAll (c : BookClient) (payload : Frames) (f : BookFrame → Sub → Sub) : BookClient :=
  payload.entries.foldl (fun c frame => c.update frame.1 (f frame.2)) c

/-- New pairs get a subscription without a last `ts`. -/
def add (c : BookClient) (pairs : List Pair) : BookClient :=
  { c with subs := pairs.foldl (fun subs pair => subs.insert pair {}) c.subs }

def remove (c : BookClient) (pairs : List Pair) : BookClient :=
  { c with subs := pairs.foldl (fun subs pair => subs.erase pair) c.subs }

/-- The pairs that a request adds: those in its first places that are free, and not known. -/
def added (c : BookClient) (pairs : List Pair) : List Pair :=
  ((pairs.take (bookMaxPairsPerClient - c.subs.keys.length)).filter fun pair =>
    (c.subs.lookup pair).isNone).dedup

end BookClient

namespace BookChannel

variable (s : BookChannel)

def setClient (i : Nat) (c : BookClient) : BookChannel :=
  { s with clients := s.clients.set i c }

/-- One frame to every subscriber. -/
def push (pair : Pair) (frame : BookFrame) (full : List Nat) : BookChannel :=
  { s with clients := s.clients.mapIdx fun i c => c.push pair frame (i ∈ full) }

/-- The reader of a client handles one message after the other. -/
def busy (i : Nat) : Bool :=
  s.initials.any (·.client = i)

/-! ## Hot symbols -/

/-- `isHot`, when freshness is tiered. -/
def isHot (symbol : String) : Bool :=
  symbol ∈ s.alertHot || decide (0 < s.hotSubsRefcnt symbol)

/-- The subscriptions of a symbol are counted. -/
def countHot (tiered : Bool) (pairs : List Pair) : String → Nat :=
  if tiered then fun symbol => s.hotSubsRefcnt symbol + pairs.countP (·.symbol = symbol)
  else s.hotSubsRefcnt

def uncountHot (tiered : Bool) (pairs : List Pair) : String → Nat :=
  if tiered then fun symbol => s.hotSubsRefcnt symbol - pairs.countP (·.symbol = symbol)
  else s.hotSubsRefcnt

/-- Whether a push comes too early after the last one. -/
def belowFloor (pair : Pair) (now : Instant) : Bool :=
  (s.lastHotPushAt.lookup pair).any fun last => decide (now < last + hotPairFloor)

/-! ## The tick -/

/-- What the tick finds of a pair: in the mirror, or in the cache with the time of the tick. -/
def entryFor (entries : Frames) (pair : Pair) : Option BookFrame :=
  (entries.lookup pair).or
    ((s.store.get pair).map fun e => ⟨unixMilli s.clock, e.depth⟩)

/-- The pairs of a client that have advanced. -/
def payload (entries : Frames) (c : BookClient) : Frames :=
  c.subs.entries.foldl (fun payload sub =>
    match s.entryFor entries sub.1 with
    | none => payload
    | some frame => if frame.ts ≤ sub.2.last then payload else payload.insert sub.1 frame) ∅

/-! ## Steps -/

def setHook (k : Nat) (h : Hook) : BookChannel :=
  { s with hooks := s.hooks.set k h }

def dropHook (k : Nat) : BookChannel :=
  { s with hooks := s.hooks.eraseIdx k }

def setInitial (k : Nat) (n : Initial) : BookChannel :=
  { s with initials := s.initials.set k n }

def dropInitial (k : Nat) : BookChannel :=
  { s with initials := s.initials.eraseIdx k }

/-- `sendInitialSnapshot`, up to the mark. -/
def initialFrame (pair : Pair) : Option BookFrame :=
  match s.store.get pair with
  | none => none
  | some e =>
      if e.depth.bids = [] ∧ e.depth.asks = [] then none
      else some ⟨unixMilli (e.updatedAt.getD 0), e.depth.trim⟩

/-- `OnBookUpdate`, after the route is known. -/
def deliver (k : Nat) (full : List Nat) : Option BookChannel :=
  match s.hooks[k]? with
  | some ⟨pair, depth, .late at_⟩ =>
      some { s.dropHook k with pending := s.pending.insert pair ⟨unixMilli at_, depth.trim⟩ }
  | some ⟨pair, depth, .bypass at_⟩ =>
      some ((s.dropHook k).push pair ⟨unixMilli at_, depth.trim⟩ full)
  | _ => none

def afterFlush (ticks : Bool) : BookLoop :=
  if ticks then .collecting else .idle

/-- `tiered` is `AVALANT_TIERED_FRESHNESS`. -/
def step (tiered : Bool) (s : BookChannel) : BookAct → Option BookChannel
  | .wait now => if s.clock ≤ now then some { s with clock := now } else none
  | .register => some { s with clients := s.clients ++ [{ subs := ∅ }] }
  | .deregister i =>
      match s.clients[i]? with
      | none => none
      | some c =>
          if s.busy i then none
          else
            some { s.setClient i { subs := ∅, isOpen := false } with
              hotSubsRefcnt := s.uncountHot tiered c.subs.keys }
  | .subscribe i pairs =>
      match s.clients[i]? with
      | none => none
      | some c =>
          if c.isOpen && !s.busy i then
            let added := c.added pairs
            some { s.setClient i (c.add added) with
              hotSubsRefcnt := s.countHot tiered added
              initials := s.initials ++ added.map fun pair => { client := i, pair } }
          else none
  | .unsubscribe i pairs =>
      match s.clients[i]? with
      | none => none
      | some c =>
          if c.isOpen && !s.busy i then
            let removed := (pairs.filter fun pair => (c.subs.lookup pair).isSome).dedup
            some { s.setClient i (c.remove removed) with
              hotSubsRefcnt := s.uncountHot tiered removed }
          else none
  | .replaceAlertHot symbols => some (if tiered then { s with alertHot := symbols } else s)
  | .store pair depth source =>
      some { s with
        store := s.store.store pair depth source s.clock
        hooks := s.hooks ++ [{ pair, depth }] }
  | .prune idle => some { s with store := s.store.prune idle s.clock }
  | .evictStale staleAfter => some { s with store := s.store.evictStale staleAfter s.clock }
  | .stamp k =>
      match s.hooks[k]? with
      | some ⟨pair, depth, .called⟩ => some (s.setHook k ⟨pair, depth, .stamped s.clock⟩)
      | _ => none
  | .heat k =>
      match s.hooks[k]? with
      | some ⟨pair, depth, .stamped at_⟩ =>
          some (s.setHook k
            ⟨pair, depth, if tiered && s.isHot pair.symbol then .hot at_ else .late at_⟩)
      | _ => none
  | .route k =>
      match s.hooks[k]? with
      | some ⟨pair, depth, .hot at_⟩ =>
          some (if s.belowFloor pair at_ then s.setHook k ⟨pair, depth, .late at_⟩
            else { s.setHook k ⟨pair, depth, .bypass at_⟩ with
              lastHotPushAt := s.lastHotPushAt.insert pair at_ })
      | _ => none
  | .deliver k full => s.deliver k full
  | .readInitial k =>
      match s.initials[k]? with
      | some ⟨i, pair, .due⟩ =>
          match s.initialFrame pair with
          | none => some (s.dropInitial k)
          | some frame => some (s.setInitial k ⟨i, pair, .read frame⟩)
      | _ => none
  | .markInitial k =>
      match s.initials[k]? with
      | some ⟨i, pair, .read frame⟩ =>
          let s := s.setInitial k ⟨i, pair, .marked frame⟩
          match s.clients[i]? with
          | none => none
          | some c =>
              some (s.setClient i (c.update pair (·.mark frame.ts)))
      | _ => none
  | .putInitial k full =>
      match s.initials[k]? with
      | some ⟨i, pair, .marked frame⟩ =>
          match s.clients[i]? with
          | none => none
          | some c => some ((s.dropInitial k).setClient i (c.update pair (·.put frame full)))
      | _ => none
  | .flush ticks =>
      match s.loop with
      | .idle =>
          if s.pending.entries = [] then some { s with loop := afterFlush ticks }
          else some { s with pending := ∅, loop := .took s.pending ticks }
      | _ => none
  | .snapSubs =>
      match s.loop with
      | .took pending ticks =>
          some { s with
            loop := .sending ⟨pending.entries.filter fun frame => s.clients.any (·.wants frame.1),
              pending.nodupKeys.sublist List.filter_sublist⟩ ticks }
      | _ => none
  | .send pair full =>
      match s.loop with
      | .sending rest ticks =>
          match rest.lookup pair with
          | none => none
          | some frame => some ({ s with loop := .sending (rest.erase pair) ticks }.push pair frame full)
      | _ => none
  | .endFlush =>
      match s.loop with
      | .sending rest ticks =>
          if rest.entries = [] then some { s with loop := afterFlush ticks } else none
      | _ => none
  | .collect =>
      match s.loop with
      | .collecting =>
          let clients := (List.range s.clients.length).filter fun i =>
            (s.clients[i]?).any BookClient.isOpen
          some { s with loop := if clients = [] then .idle else .reading clients }
      | _ => none
  | .read entries =>
      match s.loop with
      | .reading clients => some { s with loop := .visiting entries clients }
      | _ => none
  | .visit i =>
      match s.loop with
      | .visiting entries clients =>
          if i ∈ clients then
            match s.clients[i]? with
            | none => none
            | some c =>
                let rest := clients.erase i
                if c.isOpen then
                  let payload := s.payload entries c
                  some { s.setClient i (c.updateAll payload fun frame sub => sub.mark frame.ts) with
                    loop := if payload.entries = [] then .visiting entries rest
                      else .posting i payload entries rest }
                else some { s with loop := .visiting entries rest }
          else none
      | _ => none
  | .put full =>
      match s.loop with
      | .posting i payload entries clients =>
          match s.clients[i]? with
          | none => none
          | some c =>
              some { s.setClient i (c.updateAll payload fun frame sub => sub.put frame full) with
                loop := .visiting entries clients }
      | _ => none
  | .endTick =>
      match s.loop with
      | .visiting _ clients => if clients = [] then some { s with loop := .idle } else none
      | _ => none

end BookChannel

/-- The channel at the start of the process. -/
def BookChannel.initial (now : Instant) : BookChannel :=
  { clock := now, lastHotPushAt := ∅ }

end Avalant
