import Avalant.Ws.Book

/-!
The timestamps of the book frames of a client.

A book that has been stamped is in flight until its frame is in the outboxes:
in a hook, in the buffer or in a flush of it, in a snapshot for a new
subscription, or in the payload of a tick. Only the tick compares what it sends
with what the client has had, so an older book that is in flight while a newer
one is sent arrives after it.
-/

namespace Avalant

open Transition

/-! ## What is in flight -/

def HookPhase.stampedAt : HookPhase → Option Instant
  | .called => none
  | .stamped t | .hot t | .late t | .bypass t => some t

/-- The timestamps of a hook that are on their way to the subscribers of a pair. -/
def Hook.waits (h : Hook) (pair : Pair) : List Nat :=
  if h.pair = pair then (h.phase.stampedAt.map unixMilli).toList else []

/-- What a hook pushes. -/
def Hook.pushed (h : Hook) : Option BookFrame :=
  match h.phase with
  | .bypass t => some ⟨unixMilli t, h.depth.trim⟩
  | _ => none

def InitialPhase.frame : InitialPhase → Option BookFrame
  | .due => none
  | .read frame | .marked frame => some frame

def InitialPhase.markedFrame : InitialPhase → Option BookFrame
  | .marked frame => some frame
  | _ => none

def Initial.waits (n : Initial) (i : Nat) (pair : Pair) : List Nat :=
  if n.client = i ∧ n.pair = pair then (n.phase.frame.map BookFrame.ts).toList else []

def Initial.marked (n : Initial) (i : Nat) (pair : Pair) : List Nat :=
  if n.client = i ∧ n.pair = pair then (n.phase.markedFrame.map BookFrame.ts).toList else []

namespace BookLoop

/-- The books of a flush. -/
def flushed : BookLoop → Frames
  | .took pending _ => pending
  | .sending rest _ => rest
  | _ => ∅

/-- What a tick has marked for a client, and not yet put. -/
def posted (i : Nat) : BookLoop → Frames
  | .posting client payload _ _ => if client = i then payload else ∅
  | _ => ∅

/-- What the mirror has answered. -/
def entries : BookLoop → Frames
  | .visiting entries _ => entries
  | .posting _ _ entries _ => entries
  | _ => ∅

end BookLoop

/-- The timestamp of a pair. -/
def Frames.ts (frames : Frames) (pair : Pair) : List Nat :=
  ((frames.lookup pair).map BookFrame.ts).toList

namespace BookChannel

/-- The timestamps of a pair that may still be put in the outbox of a client. -/
def inFlight (s : BookChannel) (i : Nat) (pair : Pair) : List Nat :=
  s.hooks.flatMap (·.waits pair) ++ (s.pending.ts pair ++ (s.loop.flushed.ts pair ++
    ((s.loop.posted i).ts pair ++ s.initials.flatMap (·.waits i pair))))

/-- Those of them that are the last `ts` of the client already. -/
def marked (s : BookChannel) (i : Nat) (pair : Pair) : List Nat :=
  (s.loop.posted i).ts pair ++ s.initials.flatMap (·.marked i pair)

/-! ## The condition -/

/-- Nothing older is in flight. -/
def Earliest (s : BookChannel) (i : Nat) (pair : Pair) (ts : Nat) : Prop :=
  ∀ x ∈ s.inFlight i pair, ts ≤ x

/-- Nothing older is in flight to any subscriber. -/
def EarliestForAll (s : BookChannel) (pair : Pair) (ts : Nat) : Prop :=
  ∀ i ∈ List.range s.clients.length, (s.clients[i]?).any (·.wants pair) = true →
    s.Earliest i pair ts

/-- Books are sent in the order of their stamps, a snapshot for a new subscription is read before
anything newer has been sent, and no payload is on its way when a client subscribes. -/
def InTurn (s : BookChannel) : BookAct → Prop
  | .deliver k _ => ∀ h ∈ s.hooks[k]?, ∀ frame ∈ h.pushed, s.EarliestForAll h.pair frame.ts
  | .send pair _ => ∀ frame ∈ s.loop.flushed.lookup pair, s.EarliestForAll pair frame.ts
  | .visit i => ∀ c ∈ s.clients[i]?, ∀ frame ∈ (s.payload s.loop.entries c).entries,
      s.Earliest i frame.1 frame.2.ts
  | .readInitial k => ∀ n ∈ s.initials[k]?, ∀ frame ∈ s.initialFrame n.pair,
      ∀ c ∈ s.clients[n.client]?, ∀ sub ∈ c.subs.lookup n.pair, sub.last ≤ frame.ts
  | .markInitial k => ∀ n ∈ s.initials[k]?, ∀ frame ∈ n.phase.frame,
      s.Earliest n.client n.pair frame.ts
  | .subscribe i pairs => ∀ pair ∈ pairs, (s.loop.posted i).ts pair = []
  | _ => True

/-- The mirror is written by the same clock. -/
def Mirrored (s : BookChannel) : BookAct → Prop
  | .read entries => ∀ frame ∈ entries.entries, frame.2.ts ≤ unixMilli s.clock
  | _ => True

section

variable (s : BookChannel)

instance (i : Nat) (pair : Pair) (ts : Nat) : Decidable (s.Earliest i pair ts) :=
  inferInstanceAs (Decidable (∀ _ ∈ _, _))

instance (pair : Pair) (ts : Nat) : Decidable (s.EarliestForAll pair ts) :=
  inferInstanceAs (Decidable (∀ _ ∈ _, _ → _))

instance : (a : BookAct) → Decidable (s.InTurn a)
  | .deliver _ _ | .send _ _ | .visit _ | .readInitial _ | .markInitial _ | .subscribe _ _ =>
      inferInstanceAs (Decidable (∀ _ ∈ _, _))
  | .wait _ | .register | .deregister _ | .unsubscribe _ _ | .replaceAlertHot _ | .store _ _ _
  | .prune _ | .evictStale _ | .stamp _ | .heat _ | .route _ | .putInitial _ _ | .flush _
  | .snapSubs | .endFlush | .collect | .read _ | .put _ | .endTick =>
      inferInstanceAs (Decidable True)

end

instance (s : BookChannel) : (a : BookAct) → Decidable (s.Mirrored a)
  | .read _ => inferInstanceAs (Decidable (∀ _ ∈ _, _))
  | .wait _ | .register | .deregister _ | .subscribe _ _ | .unsubscribe _ _ | .replaceAlertHot _
  | .store _ _ _ | .prune _ | .evictStale _ | .stamp _ | .heat _ | .route _ | .deliver _ _
  | .readInitial _ | .markInitial _ | .putInitial _ _ | .flush _ | .snapSubs | .send _ _
  | .endFlush | .collect | .visit _ | .put _ | .endTick => inferInstanceAs (Decidable True)

/-- The frames that a client has been sent of a pair never go back in time. -/
def Forward (s : BookChannel) : Prop :=
  ∀ c ∈ s.clients, ∀ pair sub, c.subs.lookup pair = some sub →
    sub.frames.Pairwise fun a b => a.ts ≤ b.ts

end BookChannel

/-! ## One subscription -/

/-- A subscription with these timestamps in flight, some of them marked. -/
structure Sub.Fine (now : Nat) (flying marked : List Nat) (sub : Sub) : Prop where
  sorted : sub.frames.Pairwise fun a b => a.ts ≤ b.ts
  below : ∀ f ∈ sub.frames, f.ts ≤ sub.last
  past : sub.last ≤ now
  ahead : ∀ x ∈ flying, sub.last ≤ x
  caught : ∀ x ∈ marked, x ≤ sub.last

namespace Sub.Fine

variable {now now' : Nat} {flying flying' marked marked' : List Nat} {sub : Sub} {frame : BookFrame}

theorem fresh : ({} : Sub).Fine now flying [] := by
  refine ⟨.nil, fun _ member => ?_, Nat.zero_le _, fun _ _ => Nat.zero_le _, fun _ member => ?_⟩
  · cases member
  · cases member

theorem mono (fine : sub.Fine now flying marked) (later : now ≤ now')
    (flies : ∀ x ∈ flying', x ∈ flying ∨ sub.last ≤ x) (marks : ∀ x ∈ marked', x ∈ marked) :
    sub.Fine now' flying' marked' := by
  refine ⟨fine.sorted, fine.below, Nat.le_trans fine.past later, fun x member => ?_, fun x member => ?_⟩
  · rcases flies x member with old | ahead
    · exact fine.ahead x old
    · exact ahead
  · exact fine.caught x (marks x member)

/-- A later `ts`, before everything in flight. -/
theorem mark (fine : sub.Fine now flying marked) {ts : Nat} (advances : sub.last ≤ ts)
    (past : ts ≤ now) (earliest : ∀ x ∈ flying, ts ≤ x) :
    (sub.mark ts).Fine now flying marked := by
  refine ⟨fine.sorted, fun f member => ?_, past, earliest, fun x member => ?_⟩
  · exact Nat.le_trans (fine.below f member) advances
  · exact Nat.le_trans (fine.caught x member) advances

/-- A frame with the last `ts`. -/
theorem put (fine : sub.Fine now flying marked) (last : frame.ts = sub.last) (full : Bool) :
    (sub.put frame full).Fine now flying marked := by
  unfold Sub.put
  split
  · exact fine
  · refine ⟨?_, fun f member => ?_, fine.past, fine.ahead, fine.caught⟩
    · refine List.pairwise_append.mpr ⟨fine.sorted, List.pairwise_singleton _ _, fun f member g new => ?_⟩
      rw [List.mem_singleton.mp new, last]
      exact fine.below f member
    · rcases List.mem_append.mp member with old | new
      · exact fine.below f old
      · rw [List.mem_singleton.mp new]
        exact Nat.le_of_eq last

end Sub.Fine

/-! ## The subscriptions of a client -/

namespace BookClient

variable {c : BookClient} {pair p : Pair} {f : Sub → Sub}

theorem lookup_update : (c.update pair f).subs.lookup p =
    if p = pair then (c.subs.lookup p).map f else c.subs.lookup p := by
  unfold update
  split
  case h_1 missing =>
    split
    case isTrue same =>
      subst same
      rw [missing]
      rfl
    case isFalse => rfl
  case h_2 sub found =>
    split
    case isTrue same =>
      subst same
      rw [found]
      exact AList.lookup_insert _
    case isFalse other => exact AList.lookup_insert_ne other

theorem lookup_push {frame : BookFrame} {full : Bool} (opened : c.isOpen = true) :
    (c.push pair frame full).subs.lookup p =
      if p = pair then (c.subs.lookup p).map fun sub => (sub.mark frame.ts).put frame full
      else c.subs.lookup p := by
  unfold push
  rw [if_pos opened]
  exact lookup_update

theorem push_of_closed {frame : BookFrame} {full : Bool} (closed : c.isOpen = false) :
    c.push pair frame full = c := by
  unfold push
  rw [closed]
  exact if_neg Bool.false_ne_true

/-- A payload changes the subscriptions of its pairs. -/
theorem lookup_updateAll {g : BookFrame → Sub → Sub} {payload : Frames} :
    (c.updateAll payload g).subs.lookup p =
      (c.subs.lookup p).map fun sub => ((payload.lookup p).map fun frame => g frame sub).getD sub := by
  unfold updateAll AList.lookup
  have nodup := payload.nodupKeys
  generalize payload.entries = entries at nodup ⊢
  induction entries generalizing c with
  | nil =>
      rw [List.foldl_nil]
      cases c.subs.entries.dlookup p with
      | none => rfl
      | some sub => rfl
  | cons frame entries ih =>
      obtain ⟨new, rest⟩ := List.nodupKeys_cons.mp nodup
      have step : (c.update frame.1 (g frame.2)).subs.lookup p =
          if p = frame.1 then (c.subs.lookup p).map (g frame.2) else c.subs.lookup p :=
        lookup_update
      unfold AList.lookup at step
      rw [List.foldl_cons, ih rest, step]
      by_cases here : p = frame.1
      · subst here
        rw [if_pos rfl, List.dlookup_eq_none.mpr new, List.dlookup_cons_eq, Option.map_map]
        rfl
      · rw [if_neg here, List.dlookup_cons_ne _ _ here]

/-- Pairs that are each looked up as the same after their own step are so after all steps. -/
theorem lookup_foldl {f : (AList fun _ : Pair => Sub) → Pair → AList fun _ : Pair => Sub}
    {v : Option Sub}
    (one : ∀ subs pair, (f subs pair).lookup p = if p = pair then v else subs.lookup p)
    (subs : AList fun _ : Pair => Sub) (pairs : List Pair) :
    (pairs.foldl f subs).lookup p = if p ∈ pairs then v else subs.lookup p := by
  induction pairs generalizing subs with
  | nil => rfl
  | cons pair pairs ih =>
      rw [List.foldl_cons, ih, one]
      by_cases later : p ∈ pairs
      · simp [later]
      · by_cases here : p = pair
        · simp [here]
        · simp [later, here]

theorem lookup_add {pairs : List Pair} : (c.add pairs).subs.lookup p =
    if p ∈ pairs then some {} else c.subs.lookup p := by
  refine lookup_foldl (fun subs pair => ?_) c.subs pairs
  by_cases here : p = pair
  · subst here
    rw [if_pos rfl, AList.lookup_insert]
  · rw [if_neg here, AList.lookup_insert_ne here]

theorem lookup_remove {pairs : List Pair} : (c.remove pairs).subs.lookup p =
    if p ∈ pairs then none else c.subs.lookup p := by
  refine lookup_foldl (fun subs pair => ?_) c.subs pairs
  by_cases here : p = pair
  · subst here
    rw [if_pos rfl, AList.lookup_erase]
  · rw [if_neg here, AList.lookup_erase_ne here]

end BookClient

/-! ## The invariant -/

namespace BookChannel

variable {s s' : BookChannel}

theorem mem_ts {frames : Frames} {p : Pair} {x : Nat} :
    x ∈ frames.ts p ↔ ∃ frame, frames.lookup p = some frame ∧ frame.ts = x := by
  unfold Frames.ts
  rw [Option.mem_toList, Option.map_eq_some_iff]

theorem mem_waits {h : Hook} {p : Pair} {x : Nat} :
    x ∈ h.waits p ↔ h.pair = p ∧ ∃ t, h.phase.stampedAt = some t ∧ unixMilli t = x := by
  unfold Hook.waits
  split
  case isTrue same => simp [same]
  case isFalse other => simp [other]

/-- A book in flight is in a hook, in the buffer, in the loop or in a snapshot. -/
theorem mem_inFlight {i x : Nat} {p : Pair} : x ∈ s.inFlight i p ↔
    (∃ h ∈ s.hooks, x ∈ h.waits p) ∨ x ∈ s.pending.ts p ∨ x ∈ s.loop.flushed.ts p ∨
      x ∈ (s.loop.posted i).ts p ∨ ∃ n ∈ s.initials, x ∈ n.waits i p := by
  simp only [inFlight, List.mem_append, List.mem_flatMap]

structure Ordered (s : BookChannel) : Prop where
  stored : ∀ p e t, s.store.get p = some e → e.updatedAt = some t → t ≤ s.clock
  mirrored : ∀ frame ∈ s.loop.entries.entries, frame.2.ts ≤ unixMilli s.clock
  flying : ∀ i p, ∀ x ∈ s.inFlight i p, x ≤ unixMilli s.clock
  subs : ∀ (i : Nat) (c : BookClient) (p : Pair) (sub : Sub), s.clients[i]? = some c →
    c.subs.lookup p = some sub → sub.Fine (unixMilli s.clock) (s.inFlight i p) (s.marked i p)

theorem Ordered.forward (ordered : s.Ordered) : s.Forward := by
  intro c member p sub found
  obtain ⟨i, here⟩ := List.mem_iff_getElem?.mp member
  exact (ordered.subs i c p sub here found).sorted

/-- A timestamp that may come into flight: neither from the future nor older than what was sent. -/
def Brings (s : BookChannel) (i : Nat) (p : Pair) (x : Nat) : Prop :=
  x ≤ unixMilli s.clock ∧
    ∀ (c : BookClient) (sub : Sub), s.clients[i]? = some c → c.subs.lookup p = some sub →
      sub.last ≤ x

theorem Ordered.brings_now (ordered : s.Ordered) (i : Nat) (p : Pair) :
    s.Brings i p (unixMilli s.clock) :=
  ⟨Nat.le_refl _, fun c sub here found => (ordered.subs i c p sub here found).past⟩

/-- A step that leaves the clients alone. -/
theorem Ordered.of_quiet (ordered : s.Ordered) (clients : s'.clients = s.clients)
    (clock : s.clock ≤ s'.clock)
    (stored : ∀ p e t, s'.store.get p = some e → e.updatedAt = some t → t ≤ s'.clock)
    (mirrored : ∀ frame ∈ s'.loop.entries.entries, frame.2.ts ≤ unixMilli s.clock)
    (flying : ∀ i p, ∀ x ∈ s'.inFlight i p, x ∈ s.inFlight i p ∨ s.Brings i p x)
    (marked : ∀ i p, ∀ x ∈ s'.marked i p, x ∈ s.marked i p) : s'.Ordered := by
  have later := unixMilli_le clock
  refine ⟨stored, fun frame member => ?_, fun i p x flies => ?_, fun i c p sub here found => ?_⟩
  · exact Nat.le_trans (mirrored frame member) later
  · rcases flying i p x flies with old | brings
    · exact Nat.le_trans (ordered.flying i p x old) later
    · exact Nat.le_trans brings.1 later
  · rw [clients] at here
    refine (ordered.subs i c p sub here found).mono later (fun x flies => ?_) (marked i p)
    rcases flying i p x flies with old | brings
    · exact .inl old
    · exact .inr (brings.2 c sub here found)

/-- A step that leaves the clients, the clock and the cache alone. -/
theorem Ordered.of_still (ordered : s.Ordered) (clients : s'.clients = s.clients)
    (clock : s'.clock = s.clock) (store : s'.store = s.store)
    (mirrored : ∀ frame ∈ s'.loop.entries.entries, frame.2.ts ≤ unixMilli s.clock)
    (flying : ∀ i p, ∀ x ∈ s'.inFlight i p, x ∈ s.inFlight i p ∨ s.Brings i p x)
    (marked : ∀ i p, ∀ x ∈ s'.marked i p, x ∈ s.marked i p) : s'.Ordered := by
  refine ordered.of_quiet clients (Nat.le_of_eq clock.symm) ?_ mirrored flying marked
  rw [store, clock]
  exact ordered.stored

end BookChannel

end Avalant
