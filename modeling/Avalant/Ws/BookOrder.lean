import Avalant.Ws.BookSenders

/-!
The book frames of a client never go back in time, when books are sent in the
order of their stamps.

The buffer breaks that order: a book that came too early after a push waits in
it while a newer one is pushed, and what a tick has read of the mirror may be
newer than what the buffer still holds.
-/

namespace Avalant

open Transition

namespace BookChannel

variable {s : BookChannel}

/-! ## The cache -/

theorem Ordered.wait (ordered : s.Ordered) {now : Instant} (later : s.clock ≤ now) :
    Ordered { s with clock := now } := by
  refine ordered.of_quiet rfl later (fun p e t stored updated => ?_) ordered.mirrored
    (fun _ _ _ flies => .inl flies) fun _ _ _ => id
  exact Nat.le_trans (ordered.stored p e t stored updated) later

/-- A book is stored, and its hook is called. -/
theorem Ordered.store (ordered : s.Ordered) (pair : Pair) (depth : Depth) (source : String) :
    Ordered { s with
      store := s.store.store pair depth source s.clock
      hooks := s.hooks ++ [{ pair, depth }] } := by
  refine ordered.of_quiet rfl (Nat.le_refl _) (fun p e t stored updated => ?_) ordered.mirrored
    (fun i p x flies => .inl ?_) fun _ _ _ => id
  · by_cases same : p = pair
    · subst same
      rw [Cache.Store.get_store_self] at stored
      cases stored
      cases updated
      exact Nat.le_refl _
    · rw [Cache.Store.get_store_of_ne same] at stored
      exact ordered.stored p e t stored updated
  · rcases mem_inFlight.mp flies with ⟨h, known, waits⟩ | rest
    · rcases List.mem_append.mp known with old | new
      · exact mem_inFlight.mpr (.inl ⟨h, old, waits⟩)
      · rw [List.mem_singleton.mp new] at waits
        obtain ⟨-, t, stamped, -⟩ := mem_waits.mp waits
        cases stamped
    · exact mem_inFlight.mpr (.inr rest)

/-- Entries are dropped. -/
theorem Ordered.keep (ordered : s.Ordered) (test : Cache.Entry → Bool) :
    Ordered { s with store := s.store.keep test } := by
  refine ordered.of_quiet rfl (Nat.le_refl _) (fun p e t stored updated => ?_) ordered.mirrored
    (fun _ _ _ flies => .inl flies) fun _ _ _ => id
  have kept : (s.store.get p).filter test = some e := (Cache.Store.get_keep s.store p).symm.trans stored
  exact ordered.stored p e t (Option.filter_eq_some_iff.mp kept).1 updated

/-! ## Requests -/

theorem idle_of_ready {i : Nat} {c : BookClient} (ready : (c.isOpen && !s.busy i) = true) :
    s.busy i = false := by
  simpa using (Bool.and_eq_true _ _ |>.mp ready).2

theorem Ordered.subscribe (ordered : s.Ordered) {i : Nat} {c : BookClient} {pairs : List Pair}
    {hotSubsRefcnt : String → Nat} (here : s.clients[i]? = some c) (idle : s.busy i = false)
    (unposted : ∀ p ∈ pairs, (s.loop.posted i).ts p = []) :
    Ordered { s.setClient i (c.add (c.added pairs)) with
      hotSubsRefcnt
      initials := s.initials ++ (c.added pairs).map fun pair => { client := i, pair } } := by
  refine ordered.of_pairs here idle (fun p new => ?_) fun p sub found => ?_
  · have asked : p ∈ pairs := by
      unfold BookClient.added at new
      exact List.mem_of_mem_take (List.mem_filter.mp (List.mem_dedup.mp new)).1
    exact unposted p asked
  · rw [BookClient.lookup_add] at found
    split at found
    case isTrue new =>
      cases found
      exact .inr ⟨new, rfl⟩
    case isFalse => exact .inl found

theorem Ordered.unsubscribe (ordered : s.Ordered) {i : Nat} {c : BookClient} (pairs : List Pair)
    {hotSubsRefcnt : String → Nat} (here : s.clients[i]? = some c) (idle : s.busy i = false) :
    Ordered { s.setClient i (c.remove pairs) with hotSubsRefcnt } := by
  refine ordered.of_fewer here idle fun p sub found => ?_
  rw [BookClient.lookup_remove] at found
  split at found
  · cases found
  · exact found

/-! ## Hooks that deliver -/

/-- The book of a hook goes to the buffer, in flight as before. -/
theorem Ordered.buffer (ordered : s.Ordered) {k : Nat} {pair : Pair} {depth : Depth} {at_ : Instant}
    (here : s.hooks[k]? = some ⟨pair, depth, .late at_⟩) :
    Ordered { s.dropHook k with
      pending := s.pending.insert pair ⟨unixMilli at_, depth.trim⟩ } := by
  refine ordered.of_still rfl rfl rfl ordered.mirrored (fun i p x flies => .inl ?_) fun _ _ _ => id
  rcases mem_inFlight.mp flies with ⟨h, known, waits⟩ | pending | rest
  · exact mem_inFlight.mpr (.inl ⟨h, List.mem_of_mem_eraseIdx known, waits⟩)
  · obtain ⟨frame, found, rfl⟩ := mem_ts.mp pending
    have put : (s.pending.insert pair ⟨unixMilli at_, depth.trim⟩).lookup p = some frame := found
    by_cases same : p = pair
    · subst same
      rw [AList.lookup_insert] at put
      cases put
      have waits : unixMilli at_ ∈ Hook.waits ⟨p, depth, .late at_⟩ p :=
        mem_waits.mpr ⟨rfl, at_, rfl, rfl⟩
      exact mem_inFlight.mpr (.inl ⟨_, List.mem_of_getElem? here, waits⟩)
    · rw [AList.lookup_insert_ne same] at put
      exact mem_inFlight.mpr (.inr (.inl (mem_ts.mpr ⟨frame, put, rfl⟩)))
  · exact mem_inFlight.mpr (.inr (.inr rest))

/-- The book of a hook goes to the subscribers. -/
theorem Ordered.bypass (ordered : s.Ordered) {k : Nat} {pair : Pair} {depth : Depth} {at_ : Instant}
    (full : List Nat) (here : s.hooks[k]? = some ⟨pair, depth, .bypass at_⟩)
    (earliest : s.EarliestForAll pair (unixMilli at_)) :
    ((s.dropHook k).push pair ⟨unixMilli at_, depth.trim⟩ full).Ordered := by
  have flies : ∀ i, unixMilli at_ ∈ s.inFlight i pair := fun i =>
    mem_inFlight.mpr (.inl ⟨_, List.mem_of_getElem? here, mem_waits.mpr ⟨rfl, at_, rfl, rfl⟩⟩)
  have pushed : (s.push pair ⟨unixMilli at_, depth.trim⟩ full).Ordered :=
    ordered.push full flies earliest
  exact pushed.dropHook k

/-! ## The loop -/

theorem Ordered.afterFlush (ordered : s.Ordered) (ticks : Bool) :
    Ordered { s with loop := afterFlush ticks } := by
  cases ticks with
  | true => exact ordered.of_silent (fun _ member => by cases member) rfl fun _ => rfl
  | false => exact ordered.of_silent (fun _ member => by cases member) rfl fun _ => rfl

/-- The buffer is taken. -/
theorem Ordered.take (ordered : s.Ordered) (ticks : Bool) :
    Ordered { s with pending := ∅, loop := .took s.pending ticks } := by
  refine ordered.of_loop _ _ (fun _ member => ?_) (fun p x member => ?_) (fun p x member => .inr ?_)
    fun _ => rfl
  · cases member
  · cases member
  · exact member

/-- Of a flush the pairs stay that somebody wants. -/
theorem Ordered.snapSubs (ordered : s.Ordered) {pending : Frames} {ticks : Bool}
    (loop : s.loop = .took pending ticks) (test : Pair → Bool) :
    Ordered { s with
      loop := .sending ⟨pending.entries.filter fun frame => test frame.1,
        pending.nodupKeys.sublist List.filter_sublist⟩ ticks } := by
  refine ordered.of_loop _ s.pending (fun _ member => ?_) (fun _ _ => id)
    (fun p x member => .inl ?_) fun _ => rfl
  · cases member
  · obtain ⟨frame, found, rfl⟩ := mem_ts.mp member
    have kept := (List.mem_filter.mp (AList.mem_lookup_iff.mp found)).1
    have flushed : s.loop.flushed = pending := by
      rw [loop]
      rfl
    rw [flushed]
    exact mem_ts.mpr ⟨frame, AList.mem_lookup_iff.mpr kept, rfl⟩

theorem Ordered.collect (ordered : s.Ordered) (clients : List Nat) :
    Ordered { s with loop := if clients = [] then .idle else .reading clients } := by
  split
  · exact ordered.of_silent (fun _ member => by cases member) rfl fun _ => rfl
  · exact ordered.of_silent (fun _ member => by cases member) rfl fun _ => rfl

/-- A client gets the marks of its payload, which is on its way if it has a pair. -/
theorem Ordered.visit (ordered : s.Ordered) {i : Nat} {c : BookClient} (rest : List Nat)
    (here : s.clients[i]? = some c)
    (earliest : ∀ frame ∈ (s.payload s.loop.entries c).entries, s.Earliest i frame.1 frame.2.ts) :
    Ordered { s.setClient i (c.updateAll (s.payload s.loop.entries c)
        fun frame sub => sub.mark frame.ts) with
      loop := if (s.payload s.loop.entries c).entries = [] then .visiting s.loop.entries rest
        else .posting i (s.payload s.loop.entries c) s.loop.entries rest } := by
  refine ordered.mark_payload here earliest ?_ ?_ fun j p x member => ?_
  · split
    · rfl
    · rfl
  · split
    · rfl
    · rfl
  · split at member
    · cases member
    · have posted : x ∈ ((BookLoop.posting i (s.payload s.loop.entries c) s.loop.entries
        rest).posted j).ts p := member
      rw [BookLoop.posted] at posted
      split at posted
      case isTrue same => exact ⟨same.symm, posted⟩
      case isFalse => cases posted

/-! ## Steps -/

theorem ordered_preserved (tiered : Bool) :
    Preserves (step tiered) (fun s a => s.Mirrored a ∧ s.InTurn a) Ordered := by
  intro s a s' ordered admitted stepped
  obtain ⟨mirrored, inTurn⟩ := admitted
  cases a with
  | wait now =>
      simp only [step] at stepped
      split at stepped
      case isTrue later =>
        cases stepped
        exact ordered.wait later
      case isFalse => cases stepped
  | register =>
      cases stepped
      exact ordered.register
  | deregister i =>
      simp only [step] at stepped
      split at stepped
      · cases stepped
      case h_2 c here =>
        split at stepped
        · cases stepped
        case isFalse idle =>
          cases stepped
          exact ordered.of_fewer here (Bool.eq_false_iff.mpr idle) fun _ _ found => by cases found
  | subscribe i pairs =>
      simp only [step] at stepped
      split at stepped
      · cases stepped
      case h_2 c here =>
        split at stepped
        case isTrue ready =>
          cases stepped
          exact ordered.subscribe here (idle_of_ready ready) inTurn
        case isFalse => cases stepped
  | unsubscribe i pairs =>
      simp only [step] at stepped
      split at stepped
      · cases stepped
      case h_2 c here =>
        split at stepped
        case isTrue ready =>
          cases stepped
          exact ordered.unsubscribe _ here (idle_of_ready ready)
        case isFalse => cases stepped
  | replaceAlertHot symbols =>
      cases stepped
      split
      · exact ordered.of_still rfl rfl rfl ordered.mirrored (fun _ _ _ flies => .inl flies)
          fun _ _ _ => id
      · exact ordered
  | store pair depth source =>
      cases stepped
      exact ordered.store pair depth source
  | prune idle =>
      cases stepped
      exact ordered.keep _
  | evictStale staleAfter =>
      cases stepped
      exact ordered.keep _
  | stamp k =>
      simp only [step] at stepped
      split at stepped
      case h_1 pair depth here =>
        cases stepped
        refine ordered.setHook here rfl fun t stamped => .inr ?_
        cases stamped
        rfl
      case h_2 => cases stepped
  | heat k =>
      simp only [step] at stepped
      split at stepped
      case h_1 pair depth at_ here =>
        cases stepped
        refine ordered.setHook here rfl fun t stamped => .inl ?_
        split at stamped
        · exact stamped
        · exact stamped
      case h_2 => cases stepped
  | route k =>
      simp only [step] at stepped
      split at stepped
      case h_1 pair depth at_ here =>
        cases stepped
        split
        · exact ordered.setHook here rfl fun t stamped => .inl stamped
        · have routed : (s.setHook k ⟨pair, depth, .bypass at_⟩).Ordered :=
            ordered.setHook here rfl fun t stamped => .inl stamped
          exact routed.of_still rfl rfl rfl routed.mirrored (fun _ _ _ flies => .inl flies)
            fun _ _ _ => id
      case h_2 => cases stepped
  | deliver k full =>
      simp only [step, deliver] at stepped
      split at stepped
      case h_1 pair depth at_ here =>
        cases stepped
        exact ordered.buffer here
      case h_2 pair depth at_ here =>
        cases stepped
        exact ordered.bypass full here (inTurn _ here ⟨unixMilli at_, depth.trim⟩ rfl)
      case h_3 => cases stepped
  | readInitial k =>
      simp only [step] at stepped
      split at stepped
      case h_1 i pair here =>
        split at stepped
        case h_1 =>
          cases stepped
          exact ordered.dropInitial k
        case h_2 frame cached =>
          cases stepped
          exact ordered.readInitial cached (inTurn _ here frame cached)
      case h_2 => cases stepped
  | markInitial k =>
      simp only [step] at stepped
      split at stepped
      case h_1 i pair frame initial =>
        split at stepped
        · cases stepped
        case h_2 c here =>
          cases stepped
          exact ordered.markInitial initial here (inTurn _ initial frame rfl)
      case h_2 => cases stepped
  | putInitial k full =>
      simp only [step] at stepped
      split at stepped
      case h_1 i pair frame initial =>
        split at stepped
        · cases stepped
        case h_2 c here =>
          cases stepped
          exact ordered.putInitial full initial here
      case h_2 => cases stepped
  | flush ticks =>
      simp only [step] at stepped
      split at stepped
      case h_1 idle =>
        split at stepped
        · cases stepped
          exact ordered.afterFlush ticks
        · cases stepped
          exact ordered.take ticks
      case h_2 => cases stepped
  | snapSubs =>
      simp only [step] at stepped
      split at stepped
      case h_1 pending ticks loop =>
        cases stepped
        exact ordered.snapSubs loop fun pair => s.clients.any (·.wants pair)
      case h_2 => cases stepped
  | send pair full =>
      simp only [step] at stepped
      split at stepped
      case h_1 rest ticks loop =>
        split at stepped
        · cases stepped
        case h_2 frame found =>
          cases stepped
          have flushed : s.loop.flushed.lookup pair = some frame := by
            rw [loop]
            exact found
          exact ordered.send full loop found (inTurn frame flushed)
      case h_2 => cases stepped
  | endFlush =>
      simp only [step] at stepped
      split at stepped
      case h_1 rest ticks loop =>
        split at stepped
        · cases stepped
          exact ordered.afterFlush ticks
        · cases stepped
      case h_2 => cases stepped
  | collect =>
      simp only [step] at stepped
      split at stepped
      case h_1 =>
        cases stepped
        exact ordered.collect _
      case h_2 => cases stepped
  | read entries =>
      simp only [step] at stepped
      split at stepped
      case h_1 =>
        cases stepped
        exact ordered.of_silent mirrored rfl fun _ => rfl
      case h_2 => cases stepped
  | visit i =>
      simp only [step] at stepped
      split at stepped
      case h_1 entries clients loop =>
        have answered : s.loop.entries = entries := by
          rw [loop]
          rfl
        split at stepped
        · split at stepped
          · cases stepped
          case h_2 c here =>
            split at stepped
            · cases stepped
              rw [← answered]
              exact ordered.visit _ here (inTurn c here)
            · cases stepped
              refine ordered.of_silent (fun frame member => ?_) rfl fun _ => rfl
              exact ordered.mirrored frame (answered ▸ member)
        · cases stepped
      case h_2 => cases stepped
  | put full =>
      simp only [step] at stepped
      split at stepped
      case h_1 i payload entries clients loop =>
        split at stepped
        · cases stepped
        case h_2 c here =>
          cases stepped
          exact ordered.put_payload full loop here
      case h_2 => cases stepped
  | endTick =>
      simp only [step] at stepped
      split at stepped
      case h_1 =>
        split at stepped
        · cases stepped
          exact ordered.of_silent (fun _ member => by cases member) rfl fun _ => rfl
        · cases stepped
      case h_2 => cases stepped

theorem ordered_initial (now : Instant) : (initial now).Ordered := by
  refine ⟨fun p e t stored => ?_, fun frame member => ?_, fun i p x flies => ?_,
    fun i c p sub here => ?_⟩
  · cases stored
  · cases member
  · cases flies
  · cases here

end BookChannel

/-- In every run of the channel, with a mirror of the same clock, the frames that a client has been
sent of a pair since it subscribed never go back in time. -/
def BookFramesForward (tiered : Bool) (ok : BookChannel → BookAct → Prop) : Prop :=
  ∀ now s, Run (BookChannel.step tiered) (fun s a => s.Mirrored a ∧ ok s a)
    (BookChannel.initial now) s → s.Forward

/-- In every run in which books are sent in turn, the frames go forward. -/
theorem bookFramesForward_of_inTurn (tiered : Bool) :
    BookFramesForward tiered BookChannel.InTurn := by
  intro now s run
  have ordered := run.invariant (BookChannel.ordered_preserved tiered)
    (BookChannel.ordered_initial now)
  exact ordered.forward

/-! ## Runs that go wrong -/

def btc : Pair := ⟨"binance", "BTC"⟩

def oneLevel (price : ℚ) : Depth := ⟨[(price, 1)], [(price + 1, 1)]⟩

/-- A book is stored at a millisecond, and its hook runs. -/
def bookAt (ms : Nat) (price : ℚ) : List BookAct :=
  [.wait (ms * 1000000), .store btc (oneLevel price) "ws", .stamp 0, .heat 0]

/-- A client subscribes before there is a book. -/
def subscribed : List BookAct := [.register, .subscribe 0 [btc], .readInitial 0]

/-- A push, a book that comes too early after it, and a second push before the buffer is flushed. -/
def floorRun : List BookAct :=
  subscribed ++ bookAt 1000 10 ++ [.route 0, .deliver 0 []] ++
    bookAt 1005 11 ++ [.route 0, .deliver 0 []] ++ bookAt 1010 12 ++ [.route 0, .deliver 0 []] ++
    [.wait 1050000000, .flush false, .snapSubs, .send btc []]

/-- A book between the flush and the read of one tick, which finds it in the mirror. -/
def mirrorRun : List BookAct :=
  subscribed ++ [.flush true, .collect] ++ bookAt 1000 10 ++ [.deliver 0 [], .wait 1001000000,
    .read ((∅ : Frames).insert btc ⟨1001, oneLevel 10⟩), .visit 0, .put false, .endTick,
    .wait 1050000000, .flush false, .snapSubs, .send btc []]

/-- The timestamps that the clients have been sent. -/
def BookChannel.sent (s : BookChannel) (pair : Pair) : List (List Nat) :=
  s.clients.map fun c => ((c.subs.lookup pair).map Sub.frames).getD [] |>.map BookFrame.ts

/-- Pushes, and a flush after each, are in turn. -/
example : (execGuarded (BookChannel.step true) BookChannel.InTurn (BookChannel.initial 0)
    (subscribed ++ bookAt 1000 10 ++ [.route 0, .deliver 0 []] ++ bookAt 1005 11 ++
      [.route 0, .deliver 0 [], .flush false, .snapSubs, .send btc [], .endFlush] ++
      bookAt 1010 12 ++ [.route 0, .deliver 0 []])).map (·.sent btc) = some [[1000, 1005, 1010]] := by
  decide +kernel

theorem BookChannel.Forward.sent {s : BookChannel} (forward : s.Forward) (pair : Pair) :
    ∀ times ∈ s.sent pair, times.Pairwise (· ≤ ·) := by
  intro times member
  obtain ⟨c, known, rfl⟩ := List.mem_map.mp member
  cases found : c.subs.lookup pair with
  | none => exact .nil
  | some sub => exact List.pairwise_map.mpr (forward c known pair sub found)

/-- A run that ends with a client that has been sent an older frame after a newer one. -/
theorem not_forward {tiered : Bool} {as : List BookAct} {times : List Nat}
    (ran : (execGuarded (BookChannel.step tiered) (fun s a => s.Mirrored a ∧ True)
      (BookChannel.initial 0) as).map (·.sent btc) = some [times])
    (back : ¬times.Pairwise (· ≤ ·)) : ¬BookFramesForward tiered fun _ _ => True := by
  intro forward
  obtain ⟨s, executed, view⟩ := Option.map_eq_some_iff.mp ran
  have sorted := (forward 0 s (Run.of_execGuarded executed)).sent btc times
  rw [view] at sorted
  exact back (sorted (List.mem_singleton_self times))

/-- With tiered freshness the buffer sends a book after a newer push, and without it after a newer
book of the mirror. -/
theorem bookFramesForward_broken :
    ¬BookFramesForward true (fun _ _ => True) ∧ ¬BookFramesForward false (fun _ _ => True) := by
  have floor : (execGuarded (BookChannel.step true) (fun s a => s.Mirrored a ∧ True)
      (BookChannel.initial 0) floorRun).map (·.sent btc) = some [[1000, 1010, 1005]] := by
    decide +kernel
  have mirror : (execGuarded (BookChannel.step false) (fun s a => s.Mirrored a ∧ True)
      (BookChannel.initial 0) mirrorRun).map (·.sent btc) = some [[1001, 1000]] := by
    decide +kernel
  exact ⟨not_forward floor (by decide), not_forward mirror (by decide)⟩

end Avalant
