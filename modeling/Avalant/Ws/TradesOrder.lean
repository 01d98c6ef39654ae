import Avalant.Ws.Trades

/-!
What a client of the trades channel has been given of a pair, and what is still to come, in the
order of arrival.
-/

namespace Avalant

open Replica Transition

/-- In the order of arrival, and none twice. -/
def InSeq (ticks : List TradeTick) : Prop :=
  ticks.Pairwise fun t t' => t.seq < t'.seq

section

variable {m : TradeLists} {pair pair' : Pair} {ticks : List TradeTick} {t : TradeTick}

theorem ticksOf_insert_self : ticksOf (m.insert pair ticks) pair = ticks := by
  unfold ticksOf
  rw [AList.lookup_insert]
  rfl

theorem ticksOf_insert_of_ne (other : pair' ≠ pair) :
    ticksOf (m.insert pair ticks) pair' = ticksOf m pair' := by
  unfold ticksOf
  rw [AList.lookup_insert_ne other]

theorem ticksOf_empty (pair : Pair) : ticksOf ∅ pair = [] := rfl

theorem ticksOf_of_absent (absent : pair ∉ m.keys) : ticksOf m pair = [] := by
  unfold ticksOf
  rw [AList.lookup_eq_none.mpr absent]
  rfl

/-- The ticks of one pair, searched for those of another. -/
theorem filter_own (own : ∀ t ∈ ticks, t.pair = pair) :
    ticks.filter (·.pair = pair') = if pair' = pair then ticks else [] := by
  split
  case isTrue same =>
    refine List.filter_eq_self.mpr fun t member => ?_
    rw [decide_eq_true_eq, own t member, same]
  case isFalse other =>
    refine List.filter_eq_nil_iff.mpr fun t member => ?_
    rw [decide_eq_true_eq, own t member]
    exact fun same => other same.symm

theorem inSeq_concat (inSeq : InSeq ticks) (later : ∀ t' ∈ ticks, t'.seq < t.seq) :
    InSeq (ticks ++ [t]) := by
  refine List.pairwise_append.mpr ⟨inSeq, List.pairwise_singleton _ _, fun t' member t'' own => ?_⟩
  rw [List.mem_singleton.mp own]
  exact later t' member

theorem mem_ringPush {t' : TradeTick} (member : t' ∈ ringPush ticks t) : t' ∈ ticks ∨ t' = t := by
  unfold ringPush at member
  split at member
  · rcases List.mem_append.mp member with old | own
    · exact Or.inl (List.mem_of_mem_drop old)
    · exact Or.inr (List.mem_singleton.mp own)
  · rcases List.mem_append.mp member with old | own
    · exact Or.inl old
    · exact Or.inr (List.mem_singleton.mp own)

theorem inSeq_ringPush (inSeq : InSeq ticks) (later : ∀ t' ∈ ticks, t'.seq < t.seq) :
    InSeq (ringPush ticks t) := by
  unfold ringPush
  split
  · exact inSeq_concat (inSeq.sublist (List.drop_sublist _ _)) fun t' member =>
      later t' (List.mem_of_mem_drop member)
  · exact inSeq_concat inSeq later

end

/-! ## Requests -/

namespace TradesClient

variable {c : TradesClient} {pair : Pair}

/-- What a client has been sent of a pair, and what its backfill will send. -/
def given (c : TradesClient) (pair : Pair) : List TradeTick :=
  c.received pair ++ c.collected pair

theorem subscribePairs_spec (arrived : Nat) (pairs : List Pair) (set : Store Pair Nat) :
    (subscribePairs arrived set pairs).2.Nodup ∧
      (∀ pair ∈ (subscribePairs arrived set pairs).2, set.lookup pair = none) ∧
      ∀ pair, (subscribePairs arrived set pairs).1.lookup pair =
        if pair ∈ (subscribePairs arrived set pairs).2 then some arrived else set.lookup pair := by
  induction pairs generalizing set with
  | nil =>
      refine ⟨List.nodup_nil, fun pair member => ?_, fun _ => rfl⟩
      cases member
  | cons pair pairs ih =>
      unfold subscribePairs
      split
      case isTrue => exact ih set
      case isFalse unknown =>
        have free : set.lookup pair = none := by simpa using unknown
        obtain ⟨distinct, fresh, looked⟩ := ih (set.insert pair arrived)
        have first : pair ∉ (subscribePairs arrived (set.insert pair arrived) pairs).2 := by
          intro member
          have absent := fresh pair member
          rw [AList.lookup_insert] at absent
          cases absent
        refine ⟨List.nodup_cons.mpr ⟨first, distinct⟩, ?_, ?_⟩
        · intro pair' member
          rcases List.mem_cons.mp member with same | later
          · rw [same]
            exact free
          · have other : pair' ≠ pair := fun same => first (same ▸ later)
            have absent := fresh pair' later
            rw [AList.lookup_insert_ne other] at absent
            exact absent
        · intro pair'
          change (subscribePairs arrived (set.insert pair arrived) pairs).1.lookup pair' = _
          rw [looked pair']
          by_cases same : pair' = pair
          · subst same
            rw [if_neg first, if_pos List.mem_cons_self, AList.lookup_insert]
          · have listed : pair' ∈ pair :: (subscribePairs arrived (set.insert pair arrived) pairs).2 ↔
                pair' ∈ (subscribePairs arrived (set.insert pair arrived) pairs).2 := by
              rw [List.mem_cons, or_iff_right same]
            rw [AList.lookup_insert_ne same]
            simp only [listed]

theorem received_send (frame : List TradeTick) (pair : Pair) :
    (c.send frame).received pair = c.received pair ++ frame.filter (·.pair = pair) := by
  unfold received send
  rw [List.flatten_append, List.filter_append, List.flatten_singleton]

end TradesClient

/-! ## The invariant -/

namespace TradesChannel

/-- The rings and the queues hold ticks of their pair in the order of arrival. -/
structure Sources (s : TradesChannel) : Prop where
  ring : ∀ pair, InSeq (ticksOf s.ring pair)
  ringOwn : ∀ pair, ∀ t ∈ ticksOf s.ring pair, t.pair = pair ∧ t.seq < s.arrived.length
  queue : ∀ i pair, InSeq (s.queue i pair)
  queueOwn : ∀ i pair, ∀ t ∈ s.queue i pair, t.pair = pair ∧ t.seq < s.arrived.length
  arrived : ∀ t ∈ s.arrived, t.seq < s.arrived.length

/-- What a client was given of each pair, and what is still to come. -/
structure Lanes (s : TradesChannel) (i : Nat) (c : TradesClient) : Prop where
  line : ∀ pair, (c.set.lookup pair).isSome → InSeq (c.given pair ++ s.queue i pair)
  fresh : ∀ pair, c.set.lookup pair = none ∨ pair ∈ c.rest → c.given pair = []
  whole : ∀ pair since, c.set.lookup pair = some since → ∀ t ∈ s.arrived, t.pair = pair →
    since ≤ t.seq → t ∈ c.given pair ++ s.queue i pair
  bound : ∀ pair, ∀ t ∈ c.given pair, t.seq < s.arrived.length
  distinct : c.rest.Nodup
  known : ∀ pair ∈ c.rest, (c.set.lookup pair).isSome

structure Inv (s : TradesChannel) : Prop where
  sources : s.Sources
  lanes : ∀ i c, s.clients[i]? = some c → s.Lanes i c

variable {s s' : TradesChannel} {i : Nat} {c : TradesClient}

/-- The queues of a client are the same. -/
theorem Lanes.of_queue (lanes : s.Lanes i c) (queue : ∀ pair, s'.queue i pair = s.queue i pair)
    (arrived : s'.arrived = s.arrived) : s'.Lanes i c := by
  refine ⟨?_, lanes.fresh, ?_, ?_, lanes.distinct, lanes.known⟩
  · intro pair subscribed
    rw [queue]
    exact lanes.line pair subscribed
  · intro pair since subscribed t member own later
    rw [queue]
    rw [arrived] at member
    exact lanes.whole pair since subscribed t member own later
  · intro pair t member
    rw [arrived]
    exact lanes.bound pair t member

theorem Sources.of_queue (sources : s.Sources)
    (queue : ∀ j pair, (s'.queue j pair).Sublist (s.queue j pair)) (ring : s'.ring = s.ring)
    (arrived : s'.arrived = s.arrived) : s'.Sources := by
  refine ⟨?_, ?_, ?_, ?_, ?_⟩
  · intro pair
    rw [ring]
    exact sources.ring pair
  · intro pair t member
    rw [ring] at member
    rw [arrived]
    exact sources.ringOwn pair t member
  · intro j pair
    exact (sources.queue j pair).sublist (queue j pair)
  · intro j pair t member
    rw [arrived]
    exact sources.queueOwn j pair t ((queue j pair).subset member)
  · rw [arrived]
    exact sources.arrived

/-- The clients after one of them has changed. -/
theorem lanes_setClient {d : TradesClient} (others : ∀ j e, j ≠ i → s.clients[j]? = some e → s'.Lanes j e)
    (own : s'.Lanes i d) (clients : s'.clients = s.clients.set i d) :
    ∀ j e, s'.clients[j]? = some e → s'.Lanes j e := by
  intro j e found
  rw [clients] at found
  by_cases same : j = i
  · subst same
    rw [List.getElem?_set_self'] at found
    obtain ⟨_, -, rfl⟩ := Option.map_eq_some_iff.mp found
    exact own
  · rw [List.getElem?_set_ne (Ne.symm same)] at found
    exact others j e same found

/-! ## Ticks -/

theorem queue_push {pair : Pair} {tick : TradeTick} {ring : TradeLists} {arrived : List TradeTick}
    (free : s.held.lookup pair = none) (j : Nat) (pair' : Pair) :
    queue { s with ring, held := s.held.insert pair tick, arrived } j pair' =
      if pair' = pair then s.queue j pair' ++ [tick] else s.queue j pair' := by
  unfold queue unsent
  dsimp only
  by_cases same : pair' = pair
  · subst same
    rw [if_pos rfl, AList.lookup_insert, free, Option.toList_none, List.append_nil]
    rfl
  · rw [if_neg same, AList.lookup_insert_ne same]

section

variable {tick : TradeTick}

/-- What is before one more tick is before its number. -/
theorem lt_arrived_push (arrived : s'.arrived = s.arrived ++ [tick]) {n : Nat}
    (old : n < s.arrived.length) : n < s'.arrived.length := by
  rw [arrived, List.length_append]
  exact Nat.lt_add_right _ old

theorem seq_lt_arrived_push (arrived : s'.arrived = s.arrived ++ [tick])
    (seq : tick.seq = s.arrived.length) : tick.seq < s'.arrived.length := by
  rw [arrived, List.length_append, seq]
  exact Nat.lt_succ_self _

/-- One more tick, in the ring of its pair and in the queues. -/
theorem Sources.push (sources : s.Sources) (seq : tick.seq = s.arrived.length)
    (ring : s'.ring = s.ring.insert tick.pair (ringPush (ticksOf s.ring tick.pair) tick))
    (queue : ∀ j pair, s'.queue j pair =
      if pair = tick.pair then s.queue j pair ++ [tick] else s.queue j pair)
    (arrived : s'.arrived = s.arrived ++ [tick]) : s'.Sources := by
  have newest := seq_lt_arrived_push arrived seq
  refine ⟨?_, ?_, ?_, ?_, ?_⟩
  · intro pair
    rw [ring]
    by_cases same : pair = tick.pair
    · rw [same, ticksOf_insert_self]
      refine inSeq_ringPush (sources.ring tick.pair) fun t member => ?_
      rw [seq]
      exact (sources.ringOwn tick.pair t member).2
    · rw [ticksOf_insert_of_ne same]
      exact sources.ring pair
  · intro pair t member
    rw [ring] at member
    have origin : t ∈ ticksOf s.ring pair ∨ (pair = tick.pair ∧ t = tick) := by
      by_cases same : pair = tick.pair
      · rw [same, ticksOf_insert_self] at member
        rw [same]
        exact (mem_ringPush member).imp_right fun new => ⟨rfl, new⟩
      · rw [ticksOf_insert_of_ne same] at member
        exact Or.inl member
    rcases origin with old | ⟨same, rfl⟩
    · obtain ⟨own, less⟩ := sources.ringOwn pair t old
      exact ⟨own, lt_arrived_push arrived less⟩
    · exact ⟨same.symm, newest⟩
  · intro j pair
    rw [queue]
    split
    · refine inSeq_concat (sources.queue j pair) fun t member => ?_
      rw [seq]
      exact (sources.queueOwn j pair t member).2
    · exact sources.queue j pair
  · intro j pair t member
    rw [queue] at member
    have origin : t ∈ s.queue j pair ∨ (pair = tick.pair ∧ t = tick) := by
      split at member
      case isTrue same =>
        exact (List.mem_append.mp member).imp_right fun new => ⟨same, List.mem_singleton.mp new⟩
      case isFalse => exact Or.inl member
    rcases origin with old | ⟨same, rfl⟩
    · obtain ⟨own, less⟩ := sources.queueOwn j pair t old
      exact ⟨own, lt_arrived_push arrived less⟩
    · exact ⟨same.symm, newest⟩
  · intro t member
    rw [arrived] at member
    rcases List.mem_append.mp member with old | new
    · exact lt_arrived_push arrived (sources.arrived t old)
    · rw [List.mem_singleton.mp new]
      exact newest

/-- One more tick, at the end of the lane of its pair. -/
theorem Lanes.push (lanes : s.Lanes i c) (sources : s.Sources) (seq : tick.seq = s.arrived.length)
    (queue : ∀ pair, s'.queue i pair =
      if pair = tick.pair then s.queue i pair ++ [tick] else s.queue i pair)
    (arrived : s'.arrived = s.arrived ++ [tick]) : s'.Lanes i c := by
  refine ⟨?_, lanes.fresh, ?_, ?_, lanes.distinct, lanes.known⟩
  · intro pair subscribed
    rw [queue]
    split
    · rw [← List.append_assoc]
      refine inSeq_concat (lanes.line pair subscribed) fun t member => ?_
      rw [seq]
      rcases List.mem_append.mp member with old | waiting
      · exact lanes.bound pair t old
      · exact (sources.queueOwn i pair t waiting).2
    · exact lanes.line pair subscribed
  · intro pair since subscribed t member own later
    rw [queue]
    rw [arrived] at member
    rcases List.mem_append.mp member with old | new
    · have held := lanes.whole pair since subscribed t old own later
      split
      · rw [← List.append_assoc]
        exact List.mem_append_left _ held
      · exact held
    · rw [List.mem_singleton.mp new] at own ⊢
      rw [if_pos own.symm]
      exact List.mem_append_right _ (List.mem_append_right _ List.mem_cons_self)
  · intro pair t member
    exact lt_arrived_push arrived (lanes.bound pair t member)

end

theorem Inv.push (inv : s.Inv) {pair : Pair} (free : s.held.lookup pair = none) :
    Inv { s with
      ring := s.ring.insert pair (ringPush (ticksOf s.ring pair) ⟨pair, s.arrived.length⟩)
      held := s.held.insert pair ⟨pair, s.arrived.length⟩
      arrived := s.arrived ++ [⟨pair, s.arrived.length⟩] } :=
  ⟨inv.sources.push rfl rfl (fun j pair' => queue_push free j pair') rfl,
    fun j c found => (inv.lanes j c found).push inv.sources rfl (queue_push free j) rfl⟩

theorem queue_pend {pair : Pair} {tick : TradeTick} (held : s.held.lookup pair = some tick)
    (light : (ticksOf s.pending pair).length < tradesFlushBatchMax) (j : Nat) (pair' : Pair) :
    queue { s with
      pending := s.pending.insert pair (pendAppend (ticksOf s.pending pair) tick)
      held := s.held.erase pair } j pair' = s.queue j pair' := by
  unfold queue unsent
  dsimp only
  by_cases same : pair' = pair
  · subst same
    have appended : pendAppend (ticksOf s.pending pair') tick = ticksOf s.pending pair' ++ [tick] :=
      if_neg (Nat.not_le.mpr light)
    rw [ticksOf_insert_self, AList.lookup_erase, held, appended, Option.toList_none,
      List.append_nil, ← List.append_assoc]
    rfl
  · rw [ticksOf_insert_of_ne same, AList.lookup_erase_ne same]

/-- A step that leaves the queues as they are. -/
theorem Inv.of_queue (inv : s.Inv) (queue : ∀ j pair, s'.queue j pair = s.queue j pair)
    (ring : s'.ring = s.ring) (arrived : s'.arrived = s.arrived) (clients : s'.clients = s.clients) :
    s'.Inv := by
  refine ⟨inv.sources.of_queue (fun j pair => queue j pair ▸ List.Sublist.refl _) ring arrived,
    fun j c found => ?_⟩
  rw [clients] at found
  exact (inv.lanes j c found).of_queue (queue j) arrived

/-! ## The flush -/

theorem unsent_took (batches : TradeLists) (pending : TradeLists) (j : Nat) (pair : Pair) :
    queue { s with pending, flush := .took batches } j pair =
      ticksOf batches pair ++ ticksOf pending pair ++ (s.held.lookup pair).toList := rfl

theorem Inv.take (inv : s.Inv) (idle : s.flush = .idle) :
    Inv { s with pending := ∅, flush := .took s.pending } := by
  refine inv.of_queue (fun j pair => ?_) rfl rfl rfl
  rw [unsent_took, ticksOf_empty, List.append_nil]
  unfold queue unsent
  rw [idle]
  rfl

/-- The clients that a flush sends to are those that it finds. -/
theorem Inv.snapSubs (inv : s.Inv) {batches : TradeLists} (took : s.flush = .took batches) :
    Inv { s with flush := .sending batches (s.snapshot batches) } := by
  have here : ∀ j pair, j < s.clients.length →
      queue { s with flush := .sending batches (s.snapshot batches) } j pair = s.queue j pair := by
    intro j pair inRange
    unfold queue unsent
    rw [took]
    dsimp only
    split
    · rfl
    case isFalse absent =>
      have keyless : pair ∉ batches.keys := fun member =>
        absent (List.pair_mem_product.mpr ⟨member, List.mem_range.mpr inRange⟩)
      rw [ticksOf_of_absent keyless]
  refine ⟨inv.sources.of_queue (fun j pair => ?_) rfl rfl, fun j c found => ?_⟩
  · by_cases inRange : j < s.clients.length
    · rw [here j pair inRange]
    · unfold queue unsent
      rw [took]
      dsimp only
      split
      · exact List.Sublist.refl _
      · exact (List.sublist_append_right _ _).append_right _
  · obtain ⟨inRange, -⟩ := List.getElem?_eq_some_iff.mp found
    exact (inv.lanes j c found).of_queue (fun pair => here j pair inRange) rfl

theorem Inv.endFlush (inv : s.Inv) {batches : TradeLists} (sent : s.flush = .sending batches []) :
    Inv { s with flush := .idle } := by
  refine inv.of_queue (fun j pair => ?_) rfl rfl rfl
  unfold queue unsent
  rw [sent]
  dsimp only
  rw [if_neg List.not_mem_nil]

theorem queue_sent {batches : TradeLists} {todo : List (Pair × Nat)}
    (sending : s.flush = .sending batches todo) {clients : List TradesClient} {pair : Pair} (j : Nat)
    (pair' : Pair) :
    queue { s with clients, flush := .sending batches (todo.filter (· ≠ (pair, i))) } j pair' =
      if (pair', j) = (pair, i) then ticksOf s.pending pair' ++ (s.held.lookup pair').toList
      else s.queue j pair' := by
  unfold queue unsent
  rw [sending]
  dsimp only
  by_cases same : (pair', j) = (pair, i)
  · rw [if_pos same, if_neg, List.nil_append]
    intro member
    exact of_decide_eq_true (List.mem_filter.mp member).2 same
  · have listed : (pair', j) ∈ todo.filter (· ≠ (pair, i)) ↔ (pair', j) ∈ todo := by
      rw [List.mem_filter, decide_eq_true_eq, and_iff_left same]
    rw [if_neg same]
    simp only [listed]

theorem queue_unsent {batches : TradeLists} {todo : List (Pair × Nat)}
    (sending : s.flush = .sending batches todo) {pair : Pair} (due : (pair, i) ∈ todo) :
    s.queue i pair =
      ticksOf batches pair ++ (ticksOf s.pending pair ++ (s.held.lookup pair).toList) := by
  unfold queue unsent
  rw [sending]
  dsimp only
  rw [if_pos due, List.append_assoc]

/-- One batch leaves the queue of one client. -/
theorem Sources.sent (sources : s.Sources) {batches : TradeLists} {todo : List (Pair × Nat)}
    (sending : s.flush = .sending batches todo) {pair : Pair} (due : (pair, i) ∈ todo)
    (clients : List TradesClient) :
    Sources { s with clients, flush := .sending batches (todo.filter (· ≠ (pair, i))) } := by
  refine sources.of_queue (fun j pair' => ?_) rfl rfl
  rw [queue_sent sending]
  split
  case isTrue same =>
    obtain ⟨rfl, rfl⟩ := Prod.mk.inj same
    rw [queue_unsent sending due]
    exact List.sublist_append_right _ _
  case isFalse => exact List.Sublist.refl _

/-- Another client, and the client that has not got the pair. -/
theorem Lanes.unsent {j : Nat} (lanes : s.Lanes j c) {batches : TradeLists} {todo : List (Pair × Nat)}
    (sending : s.flush = .sending batches todo) {pair : Pair} {clients : List TradesClient}
    (apart : j ≠ i ∨ c.set.lookup pair = none ∨ ticksOf batches pair = []) (due : (pair, i) ∈ todo) :
    Lanes { s with clients, flush := .sending batches (todo.filter (· ≠ (pair, i))) } j c := by
  have same : ∀ pair', (c.set.lookup pair').isSome →
      queue { s with clients, flush := .sending batches (todo.filter (· ≠ (pair, i))) } j pair' =
        s.queue j pair' := by
    intro pair' subscribed
    rw [queue_sent sending]
    split
    case isTrue equal =>
      obtain ⟨rfl, rfl⟩ := Prod.mk.inj equal
      rw [queue_unsent sending due]
      rcases apart with other | unknown | empty
      · exact absurd rfl other
      · rw [unknown] at subscribed
        cases subscribed
      · rw [empty, List.nil_append]
    case isFalse => rfl
  refine ⟨?_, lanes.fresh, ?_, lanes.bound, lanes.distinct, lanes.known⟩
  · intro pair' subscribed
    rw [same pair' subscribed]
    exact lanes.line pair' subscribed
  · intro pair' since subscribed t member own later
    rw [same pair' (by rw [subscribed]; rfl)]
    exact lanes.whole pair' since subscribed t member own later

theorem Inv.pend (inv : s.Inv) {pair : Pair} {tick : TradeTick}
    (held : s.held.lookup pair = some tick)
    (light : (ticksOf s.pending pair).length < tradesFlushBatchMax) :
    Inv { s with
      pending := s.pending.insert pair (pendAppend (ticksOf s.pending pair) tick)
      held := s.held.erase pair } :=
  inv.of_queue (fun j pair' => queue_pend held light j pair') rfl rfl rfl

/-! ## Clients -/

theorem Inv.register (inv : s.Inv) : Inv { s with clients := s.clients ++ [{}] } := by
  refine ⟨inv.sources.of_queue (fun j pair => List.Sublist.refl _) rfl rfl, fun j c found => ?_⟩
  by_cases inRange : j < s.clients.length
  · rw [List.getElem?_append_left inRange] at found
    exact (inv.lanes j c found).of_queue (fun _ => rfl) rfl
  · rw [List.getElem?_append_right (Nat.not_lt.mp inRange)] at found
    have blank : c = {} := by
      have member := List.mem_of_getElem? found
      exact List.mem_singleton.mp member
    subst blank
    refine ⟨?_, fun _ _ => rfl, ?_, ?_, List.nodup_nil, ?_⟩
    · intro pair subscribed
      cases subscribed
    · intro pair since subscribed
      cases subscribed
    · intro pair t member
      cases member
    · intro pair member
      cases member

/-- One client has changed. -/
theorem Inv.setClient (inv : s.Inv) {d : TradesClient} (own : s.Lanes i d) :
    (s.setClient i d).Inv := by
  refine ⟨inv.sources.of_queue (fun j pair => List.Sublist.refl _) rfl rfl, ?_⟩
  refine lanes_setClient (fun j e _ found => ?_) ?_ rfl
  · exact (inv.lanes j e found).of_queue (fun _ => rfl) rfl
  · exact own.of_queue (fun _ => rfl) rfl

theorem Lanes.subscribe (sources : s.Sources) (lanes : s.Lanes i c) (free : c.job = none)
    (pairs : List Pair) : s.Lanes i (c.subscribe s.arrived.length pairs) := by
  unfold TradesClient.subscribe
  dsimp only
  generalize pairs.take (tradesMaxPairsPerClient - c.set.keys.length) = asked
  obtain ⟨distinct, fresh, looked⟩ := TradesClient.subscribePairs_spec s.arrived.length asked c.set
  generalize TradesClient.subscribePairs s.arrived.length c.set asked = new at *
  obtain ⟨set, added⟩ := new
  dsimp only at *
  have job : ∀ pair, TradesClient.given { c with
      set, job := if added = [] then none else some ⟨added, []⟩ } pair = c.given pair := by
    intro pair
    unfold TradesClient.given TradesClient.collected
    rw [free]
    split
    · rfl
    · rfl
  have rest : TradesClient.rest { c with
      set, job := if added = [] then none else some ⟨added, []⟩ } = added := by
    unfold TradesClient.rest
    dsimp only
    split
    case isTrue none => rw [none]; rfl
    case isFalse => rfl
  refine ⟨?_, ?_, ?_, ?_, ?_, ?_⟩
  · intro pair subscribed
    rw [job]
    by_cases member : pair ∈ added
    · rw [lanes.fresh pair (Or.inl (fresh pair member)), List.nil_append]
      exact sources.queue i pair
    · rw [looked, if_neg member] at subscribed
      exact lanes.line pair subscribed
  · intro pair unread
    rw [job]
    rw [rest, looked] at unread
    by_cases member : pair ∈ added
    · exact lanes.fresh pair (Or.inl (fresh pair member))
    · rw [if_neg member, or_iff_left member] at unread
      exact lanes.fresh pair (Or.inl unread)
  · intro pair since subscribed t member own later
    rw [job]
    rw [looked] at subscribed
    split at subscribed
    · obtain rfl := Option.some.inj subscribed
      exact absurd (sources.arrived t member) (Nat.not_lt.mpr later)
    · exact lanes.whole pair since subscribed t member own later
  · intro pair t member
    rw [job] at member
    exact lanes.bound pair t member
  · rw [rest]
    exact distinct
  · intro pair member
    rw [rest] at member
    rw [looked, if_pos member]
    rfl

/-- What is read of the ring of a pair is of that pair. -/
theorem filter_ringRecent (sources : s.Sources) (pair pair' : Pair) (n : Nat) :
    (ringRecent (ticksOf s.ring pair) n).filter (·.pair = pair') =
      if pair' = pair then ringRecent (ticksOf s.ring pair) n else [] := by
  refine filter_own fun t member => ?_
  exact (sources.ringOwn pair t (List.mem_of_mem_drop member)).1

/-- A backfill is read when no tick of its pair is on its way. -/
theorem Lanes.recent (sources : s.Sources) (lanes : s.Lanes i c) {pair : Pair} {rest : List Pair}
    {backfill : List TradeTick} (job : c.job = some ⟨pair :: rest, backfill⟩)
    (spared : s.queue i pair = []) :
    s.Lanes i { c with job := some ⟨rest, backfill ++ ringRecent (ticksOf s.ring pair) 50⟩ } := by
  have unread : c.rest = pair :: rest := by
    unfold TradesClient.rest
    rw [job]
    rfl
  have given : ∀ pair', TradesClient.given
      { c with job := some ⟨rest, backfill ++ ringRecent (ticksOf s.ring pair) 50⟩ } pair' =
      c.given pair' ++ if pair' = pair then ringRecent (ticksOf s.ring pair) 50 else [] := by
    intro pair'
    rw [← filter_ringRecent sources]
    unfold TradesClient.given TradesClient.collected
    rw [job, List.append_assoc]
    exact congrArg _ (List.filter_append _ _)
  have known := lanes.known
  have distinct := lanes.distinct
  rw [unread] at known distinct
  obtain ⟨first, distinct⟩ := List.nodup_cons.mp distinct
  have none : c.given pair = [] := lanes.fresh pair (Or.inr (unread ▸ List.mem_cons_self))
  refine ⟨?_, ?_, ?_, ?_, distinct, fun pair' member => known pair' (List.mem_cons_of_mem _ member)⟩
  · intro pair' subscribed
    rw [given]
    split
    case isTrue same =>
      subst same
      rw [none, spared, List.nil_append, List.append_nil]
      exact (sources.ring pair').sublist (List.drop_sublist _ _)
    case isFalse =>
      rw [List.append_nil]
      exact lanes.line pair' subscribed
  · intro pair' late
    have other : pair' ≠ pair := by
      intro same
      subst same
      rcases late with unknown | again
      · have subscribed := known pair' List.mem_cons_self
        rw [unknown] at subscribed
        cases subscribed
      · exact first again
    rw [given, if_neg other, List.append_nil]
    refine lanes.fresh pair' (late.imp id fun again => ?_)
    rw [unread]
    exact List.mem_cons_of_mem _ again
  · intro pair' since subscribed t member own later
    rw [given]
    rcases List.mem_append.mp (lanes.whole pair' since subscribed t member own later) with had | due
    · exact List.mem_append_left _ (List.mem_append_left _ had)
    · exact List.mem_append_right _ due
  · intro pair' t member
    rw [given] at member
    rcases List.mem_append.mp member with had | read
    · exact lanes.bound pair' t had
    · split at read
      · exact (sources.ringOwn pair t (List.mem_of_mem_drop read)).2
      · cases read

/-- A client whose lists are the same for each pair. -/
theorem Lanes.of_given {d : TradesClient} (lanes : s.Lanes i c) (set : d.set = c.set)
    (given : ∀ pair, d.given pair = c.given pair) (rest : d.rest = c.rest) : s.Lanes i d := by
  refine ⟨?_, ?_, ?_, ?_, ?_, ?_⟩
  · intro pair
    rw [set, given]
    exact lanes.line pair
  · intro pair
    rw [set, given, rest]
    exact lanes.fresh pair
  · intro pair since
    rw [set, given]
    exact lanes.whole pair since
  · intro pair
    rw [given]
    exact lanes.bound pair
  · rw [rest]
    exact lanes.distinct
  · rw [set, rest]
    exact lanes.known

theorem Lanes.putBackfill (lanes : s.Lanes i c) {backfill : List TradeTick}
    (job : c.job = some ⟨[], backfill⟩) :
    s.Lanes i (if backfill = [] then { c with job := none }
      else TradesClient.send { c with job := none } backfill) := by
  have rest : c.rest = [] := by
    unfold TradesClient.rest
    rw [job]
    rfl
  have collected : ∀ pair, c.collected pair = backfill.filter (·.pair = pair) := by
    intro pair
    unfold TradesClient.collected
    rw [job]
    rfl
  refine lanes.of_given ?_ (fun pair => ?_) ?_
  · split
    · rfl
    · rfl
  · unfold TradesClient.given
    rw [collected]
    split
    case isTrue empty =>
      rw [empty]
      rfl
    case isFalse =>
      rw [TradesClient.received_send]
      exact List.append_nil _
  · rw [rest]
    split
    · rfl
    · rfl

/-- A batch is sent to a client that has got its backfill of the pair. -/
theorem Lanes.sent (sources : s.Sources) (lanes : s.Lanes i c) {batches : TradeLists}
    {todo : List (Pair × Nat)} (sending : s.flush = .sending batches todo) {pair : Pair}
    (due : (pair, i) ∈ todo) (read : pair ∉ c.rest) (put : c.collected pair = [])
    (subscribed : (c.set.lookup pair).isSome) (clients : List TradesClient) :
    Lanes { s with clients, flush := .sending batches (todo.filter (· ≠ (pair, i))) } i
      (c.send (ticksOf batches pair)) := by
  have queued := queue_unsent sending due
  have own : ∀ t ∈ ticksOf batches pair, t.pair = pair ∧ t.seq < s.arrived.length := fun t member =>
    sources.queueOwn i pair t (by rw [queued]; exact List.mem_append_left _ member)
  have batch : ∀ pair', (ticksOf batches pair).filter (·.pair = pair') =
      if pair' = pair then ticksOf batches pair else [] :=
    fun pair' => filter_own fun t member => (own t member).1
  have given : ∀ pair', (c.send (ticksOf batches pair)).given pair' =
      c.given pair' ++ if pair' = pair then ticksOf batches pair else [] := by
    intro pair'
    have same : (c.send (ticksOf batches pair)).collected pair' = c.collected pair' := rfl
    unfold TradesClient.given
    rw [same, TradesClient.received_send, batch]
    split
    case isTrue here => rw [here, put, List.append_nil, List.append_nil]
    case isFalse => rw [List.append_nil, List.append_nil]
  have line : ∀ pair', (c.send (ticksOf batches pair)).given pair' ++
      queue { s with clients, flush := .sending batches (todo.filter (· ≠ (pair, i))) } i pair' =
        c.given pair' ++ s.queue i pair' := by
    intro pair'
    rw [given, queue_sent sending]
    by_cases here : pair' = pair
    · subst here
      rw [if_pos rfl, if_pos rfl, queued, List.append_assoc]
    · rw [if_neg here, if_neg fun same => here (Prod.mk.inj same).1, List.append_nil]
  refine ⟨?_, ?_, ?_, ?_, lanes.distinct, lanes.known⟩
  · intro pair' subscribed'
    rw [line]
    exact lanes.line pair' subscribed'
  · intro pair' late
    have other : pair' ≠ pair := by
      intro same
      subst same
      rcases late with unknown | again
      · have looked : c.set.lookup pair' = none := unknown
        rw [looked] at subscribed
        cases subscribed
      · exact read again
    rw [given, if_neg other, List.append_nil]
    exact lanes.fresh pair' late
  · intro pair' since found t member mine later
    rw [line]
    exact lanes.whole pair' since found t member mine later
  · intro pair' t member
    rw [given] at member
    rcases List.mem_append.mp member with had | now
    · exact lanes.bound pair' t had
    · split at now
      · exact (own t now).2
      · cases now

theorem Inv.send (inv : s.Inv) {batches : TradeLists} {todo : List (Pair × Nat)}
    (sending : s.flush = .sending batches todo) {pair : Pair} (due : (pair, i) ∈ todo)
    (spared : ∀ c ∈ s.clients[i]?, pair ∉ c.rest ∧ c.collected pair = []) :
    Inv { s.sendBatch batches pair i with
      flush := .sending batches (todo.filter (· ≠ (pair, i))) } := by
  unfold sendBatch
  cases found : s.clients[i]? with
  | none =>
      refine ⟨inv.sources.sent sending due _, fun j d other => ?_⟩
      have apart : j ≠ i := fun same => by
        rw [same] at other
        cases found.symm.trans other
      exact (inv.lanes j d other).unsent sending (Or.inl apart) due
  | some c =>
      dsimp only
      split
      case isTrue both =>
        obtain ⟨read, put⟩ := spared c found
        refine ⟨inv.sources.sent sending due _, ?_⟩
        refine lanes_setClient (fun j d apart other => ?_) ?_ rfl
        · exact (inv.lanes j d other).unsent sending (Or.inl apart) due
        · exact (inv.lanes i c found).sent inv.sources sending due read put both.2 _
      case isFalse neither =>
        refine ⟨inv.sources.sent sending due _, fun j d other => ?_⟩
        refine (inv.lanes j d other).unsent sending ?_ due
        by_cases same : j = i
        · subst same
          obtain rfl := Option.some.inj (found.symm.trans other)
          by_cases empty : ticksOf batches pair = []
          · exact Or.inr (Or.inr empty)
          · have unknown : ¬ (c.set.lookup pair).isSome := fun known => neither ⟨empty, known⟩
            exact Or.inr (Or.inl (by simpa using unknown))
        · exact Or.inl same

/-! ## Runs -/

theorem preserves_inv : Preserves step (fun s a => s.Light a ∧ s.Spared a) Inv := by
  intro s a s' inv allowed stepped
  obtain ⟨light, spared⟩ := allowed
  dsimp only [step] at stepped
  split at stepped
  case h_1 =>
    obtain rfl := Option.some.inj stepped
    exact inv.register
  case h_2 pair =>
    split at stepped
    · cases stepped
    case h_2 free =>
      obtain rfl := Option.some.inj stepped
      exact inv.push free
  case h_3 pair =>
    obtain ⟨tick, held, rfl⟩ := Option.map_eq_some_iff.mp stepped
    exact inv.pend held light
  case h_4 i pairs =>
    split at stepped
    case h_1 c found =>
      split at stepped
      case isTrue free =>
        obtain rfl := Option.some.inj stepped
        exact inv.setClient
          ((inv.lanes i c found).subscribe inv.sources (Option.isNone_iff_eq_none.mp free) pairs)
      case isFalse => cases stepped
    · cases stepped
  case h_5 i =>
    split at stepped
    case h_1 c found =>
      split at stepped
      case h_1 pair rest backfill job =>
        obtain rfl := Option.some.inj stepped
        have unread : pair ∈ c.rest.head? := by
          unfold TradesClient.rest
          rw [job]
          exact rfl
        exact inv.setClient ((inv.lanes i c found).recent inv.sources job (spared c found pair unread))
      · cases stepped
    · cases stepped
  case h_6 i =>
    split at stepped
    case h_1 c found =>
      split at stepped
      case h_1 backfill job =>
        obtain rfl := Option.some.inj stepped
        exact inv.setClient ((inv.lanes i c found).putBackfill job)
      · cases stepped
    · cases stepped
  case h_7 =>
    split at stepped
    case h_1 idle =>
      obtain rfl := Option.some.inj stepped
      exact inv.take idle
    · cases stepped
  case h_8 =>
    split at stepped
    case h_1 batches took =>
      obtain rfl := Option.some.inj stepped
      exact inv.snapSubs took
    · cases stepped
  case h_9 pair i =>
    split at stepped
    case h_1 batches todo sending =>
      split at stepped
      case isTrue due =>
        obtain rfl := Option.some.inj stepped
        exact inv.send sending due spared
      case isFalse => cases stepped
    · cases stepped
  case h_10 =>
    split at stepped
    case h_1 batches sent =>
      obtain rfl := Option.some.inj stepped
      exact inv.endFlush sent
    · cases stepped

theorem inv_init : Inv {} := by
  refine ⟨⟨?_, ?_, ?_, ?_, ?_⟩, ?_⟩
  · exact fun _ => List.Pairwise.nil
  · intro pair t member
    cases member
  · exact fun _ _ => List.Pairwise.nil
  · intro i pair t member
    cases member
  · intro t member
    cases member
  · intro i c found
    cases found

theorem Inv.deliversOnce (inv : s.Inv) : s.DeliversOnce := by
  intro c member pair since subscribed
  obtain ⟨i, found⟩ := List.getElem?_of_mem member
  have lanes := inv.lanes i c found
  have line := lanes.line pair (by rw [subscribed]; rfl)
  refine ⟨?_, fun settled t arrived own later => ?_⟩
  · exact line.sublist ((List.sublist_append_left _ _).trans (List.sublist_append_left _ _))
  · have held := lanes.whole pair since subscribed t arrived own later
    obtain ⟨quiet, idle, put⟩ := settled
    have job : c.job = none := Option.isNone_iff_eq_none.mp (put c member)
    have queue : s.queue i pair = [] := by
      unfold TradesChannel.queue unsent
      rw [idle, (quiet pair).1, (quiet pair).2]
      rfl
    have collected : c.collected pair = [] := by
      unfold TradesClient.collected
      rw [job]
      rfl
    rw [queue, List.append_nil, TradesClient.given, collected, List.append_nil] at held
    exact held

theorem alwaysDeliversOnce_of_spared {ok : TradesChannel → TradesAct → Prop}
    (within : ∀ s a, ok s a → s.Light a ∧ s.Spared a) : AlwaysDeliversOnce ok := by
  intro s run
  have spared : Run step (fun s a => s.Light a ∧ s.Spared a) {} s := run.mono within
  exact (spared.invariant preserves_inv inv_init).deliversOnce

/-! ## Ticks that are delivered -/

instance : ∀ s a, Decidable (Light s a)
  | s, .pend pair => inferInstanceAs (Decidable ((ticksOf s.pending pair).length < tradesFlushBatchMax))
  | _, .register => .isTrue trivial
  | _, .push _ => .isTrue trivial
  | _, .subscribe _ _ => .isTrue trivial
  | _, .recent _ => .isTrue trivial
  | _, .putBackfill _ => .isTrue trivial
  | _, .take => .isTrue trivial
  | _, .snapSubs => .isTrue trivial
  | _, .send _ _ => .isTrue trivial
  | _, .endFlush => .isTrue trivial

instance (s : TradesChannel) : ∀ a, Decidable (s.Spared a)
  | .recent i => inferInstanceAs
      (Decidable (∀ c ∈ s.clients[i]?, ∀ pair ∈ c.rest.head?, s.queue i pair = []))
  | .send pair i => inferInstanceAs
      (Decidable (∀ c ∈ s.clients[i]?, pair ∉ c.rest ∧ c.collected pair = []))
  | .register | .push _ | .pend _ | .subscribe _ _ | .putBackfill _ | .take | .snapSubs
  | .endFlush => .isTrue trivial

def traded : Pair := ⟨"binance", "BTC"⟩

/-- What each client has received of a pair. -/
def places (s : TradesChannel) (pair : Pair) : List (List Nat) :=
  s.clients.map fun c => (c.received pair).map TradeTick.seq

/-- A tick before the subscription, which the backfill has, and one after it. -/
def sparedRun : List TradesAct :=
  [.push traded, .pend traded, .take, .snapSubs, .endFlush, .register, .subscribe 0 [traded],
    .recent 0, .putBackfill 0, .push traded, .pend traded, .take, .snapSubs, .send traded 0,
    .endFlush]

theorem alwaysDeliversOnce_sparedRun : ∃ s : TradesChannel,
    execGuarded step (fun s a => s.Light a ∧ s.Spared a) {} sparedRun = some s ∧
      s.places traded = [[0, 1]] ∧ s.DeliversOnce := by
  have ran : (execGuarded step (fun s a => s.Light a ∧ s.Spared a) {} sparedRun).map
      (fun s => s.places traded) = some [[0, 1]] := by
    decide +kernel
  obtain ⟨s, executed, view⟩ := Option.map_eq_some_iff.mp ran
  exact ⟨s, executed, view,
    alwaysDeliversOnce_of_spared (fun _ _ both => both) s (Run.of_execGuarded executed)⟩

/-! ## A tick that is delivered twice -/

/-- A tick is in its batch when the backfill is read. -/
def twiceRun : List TradesAct :=
  [.register, .push traded, .pend traded, .subscribe 0 [traded], .recent 0, .putBackfill 0, .take,
    .snapSubs, .send traded 0]

/-- A batch is sent between the read of a backfill and its put. -/
def overtakenRun : List TradesAct :=
  [.push traded, .pend traded, .take, .snapSubs, .endFlush, .register, .subscribe 0 [traded],
    .recent 0, .push traded, .pend traded, .take, .snapSubs, .send traded 0, .putBackfill 0]

/-- A run that ends with a client that has received the ticks of a pair in another order. -/
theorem not_deliversOnce {as : List TradesAct} {seqs : List Nat}
    (ran : (execGuarded step Light {} as).map (fun s => (s.places traded,
      s.clients.map fun c => (c.set.lookup traded).isSome)) = some ([seqs], [true]))
    (back : ¬seqs.Pairwise (· < ·)) : ¬AlwaysDeliversOnce Light := by
  intro always
  obtain ⟨s, executed, view⟩ := Option.map_eq_some_iff.mp ran
  obtain ⟨received, known⟩ := Prod.mk.inj view
  obtain ⟨c, only, mine⟩ := List.map_eq_singleton_iff.mp received
  rw [only] at known
  have subscribed : (c.set.lookup traded).isSome = true := List.singleton_inj.mp known
  obtain ⟨since, found⟩ := Option.isSome_iff_exists.mp subscribed
  have member : c ∈ s.clients := by
    rw [only]
    exact List.mem_singleton_self c
  have sorted := (always s (Run.of_execGuarded executed) c member traded since found).1
  rw [← mine] at back
  exact back (List.pairwise_map.mpr sorted)

theorem alwaysDeliversOnce_broken : ¬AlwaysDeliversOnce Light := by
  have ran : (execGuarded step Light {} twiceRun).map (fun s => (s.places traded,
      s.clients.map fun c => (c.set.lookup traded).isSome)) = some ([[0, 0]], [true]) := by
    decide +kernel
  exact not_deliversOnce ran (by decide)

/-- A batch also overtakes a backfill. -/
example : ¬AlwaysDeliversOnce Light := by
  have ran : (execGuarded step Light {} overtakenRun).map (fun s => (s.places traded,
      s.clients.map fun c => (c.set.lookup traded).isSome)) = some ([[1, 0]], [true]) := by
    decide +kernel
  exact not_deliversOnce ran (by decide)

end TradesChannel

end Avalant
