import Avalant.Ws.Hub

/-!
What reaches the clients of a hub whose broadcasts come from one loop.

A channel calls `Broadcast` from its own ticker, so a broadcast starts only
after the one before it has returned. Then every client is offered the messages
in the order of the log, starting with the first one after it registered.
-/

namespace Avalant

open Transition

namespace Hub

/-! ## The outbox of one client -/

def Frame.told {M : Type} : Frame M → Option M
  | .reply _ => none
  | .broadcast m => some m

namespace Client

variable {M : Type}

/-- The messages there was room for. -/
def accepted (c : Client M) : List M :=
  (c.offers.filter Prod.snd).map Prod.fst

/-- The messages written to the connection. -/
def heard (c : Client M) : List M :=
  c.written.filterMap Frame.told

/-- What the writer has taken out of the outbox, and what is still in it. -/
def waiting (c : Client M) : List (Frame M) :=
  match c.writer with
  | .writing frame => frame :: c.outbox
  | _ => c.outbox

/-- The outbox is first in, first out, until the writer ends. -/
structure Fifo (c : Client M) : Prop where
  heard : c.heard <+: c.accepted
  queued : c.writer ≠ .ended → c.heard ++ c.waiting.filterMap Frame.told = c.accepted

theorem Fifo.heard_of_queued {c : Client M}
    (queued : c.heard ++ c.waiting.filterMap Frame.told = c.accepted) : c.Fifo :=
  ⟨⟨_, queued⟩, fun _ => queued⟩

theorem fifo_register (since : Nat) : Fifo ({ since := since } : Client M) :=
  .heard_of_queued rfl

/-- A frame is put at the end of the outbox. -/
theorem waiting_append (c : Client M) (frame : Frame M) :
    ({ c with outbox := c.outbox ++ [frame] } : Client M).waiting = c.waiting ++ [frame] := by
  unfold waiting
  cases c.writer <;> rfl

theorem Fifo.queue {c : Client M} (fifo : c.Fifo) (m : M) : (c.queue (.reply m)).Fifo := by
  unfold Client.queue
  split
  case isTrue =>
    refine ⟨fifo.heard, fun lives => ?_⟩
    have same : c.heard ++ (c.waiting ++ [Frame.reply m]).filterMap Frame.told = c.accepted := by
      rw [List.filterMap_append]
      exact (congrArg _ (List.append_nil _)).trans (fifo.queued lives)
    rw [← waiting_append] at same
    exact same
  case isFalse => exact fifo

theorem Fifo.offer {c : Client M} (fifo : c.Fifo) (m : M) : (c.offer m).Fifo := by
  unfold Client.offer
  split
  case isTrue =>
    have accepts : ({ c with offers := c.offers ++ [(m, true)] } : Client M).accepted =
        c.accepted ++ [m] := by
      simp [accepted]
    refine ⟨?_, fun lives => ?_⟩
    · exact fifo.heard.trans ⟨[m], accepts.symm⟩
    · have queued := fifo.queued lives
      have grown : c.heard ++ (c.waiting ++ [Frame.broadcast m]).filterMap Frame.told =
          c.accepted ++ [m] := by
        rw [List.filterMap_append, ← List.append_assoc, queued]
        rfl
      rw [← waiting_append] at grown
      exact grown.trans accepts.symm
  case isFalse =>
    have accepts : ({ c with offers := c.offers ++ [(m, false)] } : Client M).accepted =
        c.accepted := by
      simp [accepted]
    exact ⟨fifo.heard.trans ⟨[], by rw [List.append_nil]; exact accepts.symm⟩,
      fun lives => (fifo.queued lives).trans accepts.symm⟩

/-- What leaves the outbox, the offers and the connection alone. -/
theorem Fifo.of_same {c c' : Client M} (fifo : c.Fifo) (offers : c'.offers = c.offers)
    (written : c'.written = c.written)
    (rest : c'.writer = .ended ∨ c'.writer = c.writer ∧ c'.outbox = c.outbox) : c'.Fifo := by
  have heard : c'.heard = c.heard := congrArg (List.filterMap Frame.told) written
  have accepted : c'.accepted = c.accepted := by
    unfold Client.accepted
    rw [offers]
  refine ⟨?_, fun lives => ?_⟩
  · rw [heard, accepted]
    exact fifo.heard
  · rcases rest with ended | same
    · exact absurd ended lives
    · have waiting : c'.waiting = c.waiting := by
        unfold Client.waiting
        rw [same.1, same.2]
      rw [heard, accepted, waiting]
      exact fifo.queued (same.1 ▸ lives)

theorem Fifo.act {c c' : Client M} {a : ClientAct M} (fifo : c.Fifo)
    (stepped : c.act a = some c') : c'.Fifo := by
  cases a with
  | snapshot m =>
      simp only [Client.act] at stepped
      split at stepped
      · cases stepped
        exact fifo.queue m
      · cases stepped
  | start =>
      simp only [Client.act] at stepped
      split at stepped
      case h_1 unborn =>
        cases stepped
        have queued := fifo.queued fun ended => by
          rw [unborn] at ended
          cases ended
        have waiting : c.waiting = c.outbox := by
          unfold Client.waiting
          rw [unborn]
        rw [waiting] at queued
        exact .heard_of_queued queued
      case h_2 => cases stepped
  | take =>
      simp only [Client.act] at stepped
      split at stepped
      case h_1 frame rest idle outbox =>
        cases stepped
        have queued := fifo.queued fun ended => by
          rw [idle] at ended
          cases ended
        have waiting : c.waiting = frame :: rest := by
          unfold Client.waiting
          rw [idle]
          exact outbox
        rw [waiting] at queued
        exact .heard_of_queued queued
      case h_2 => cases stepped
  | write succeeds =>
      simp only [Client.act] at stepped
      split at stepped
      case h_1 frame writing =>
        have queued := fifo.queued fun ended => by
          rw [writing] at ended
          cases ended
        have waiting : c.waiting = frame :: c.outbox := by
          unfold Client.waiting
          rw [writing]
        split at stepped
        · cases stepped
          refine .heard_of_queued ?_
          rw [waiting] at queued
          refine Eq.trans ?_ queued
          unfold Client.heard Client.waiting
          rw [List.filterMap_append, List.append_assoc, ← List.filterMap_append]
          rfl
        · cases stepped
          exact fifo.of_same rfl rfl (.inl rfl)
      case h_2 => cases stepped
  | quit pingFails =>
      simp only [Client.act] at stepped
      split at stepped
      · split at stepped
        · cases stepped
          exact fifo.of_same rfl rfl (.inl rfl)
        · cases stepped
      · cases stepped
  | answerPing pong =>
      simp only [Client.act] at stepped
      split at stepped
      · cases stepped
        exact fifo.queue pong
      · cases stepped
  | readError =>
      simp only [Client.act] at stepped
      split at stepped
      · cases stepped
        exact fifo.of_same rfl rfl (.inr ⟨rfl, rfl⟩)
      · cases stepped
  | deregister place =>
      simp only [Client.act, Client.deregister] at stepped
      split at stepped
      · cases stepped
      · cases place with
        | entered =>
            simp only at stepped
            split at stepped <;> cases stepped <;> exact fifo.of_same rfl rfl (.inr ⟨rfl, rfl⟩)
        | deleted =>
            cases stepped
            exact fifo.of_same rfl rfl (.inr ⟨rfl, rfl⟩)
        | closed =>
            cases stepped
            exact fifo.of_same rfl rfl (.inr ⟨rfl, rfl⟩)

/-- A client's own steps do not touch what broadcasts have offered it. -/
theorem offers_of_act {c c' : Client M} {a : ClientAct M} (stepped : c.act a = some c') :
    c'.offers = c.offers ∧ c'.since = c.since ∧ (c'.inHub = true → c.inHub = true) := by
  cases a with
  | deregister place =>
      simp only [Client.act, Client.deregister] at stepped
      split at stepped
      · cases stepped
      · cases place with
        | entered =>
            simp only at stepped
            split at stepped
            · cases stepped
              exact ⟨rfl, rfl, fun gone => absurd gone Bool.false_ne_true⟩
            · cases stepped
              exact ⟨rfl, rfl, id⟩
        | deleted =>
            cases stepped
            exact ⟨rfl, rfl, id⟩
        | closed =>
            cases stepped
            exact ⟨rfl, rfl, id⟩
  | snapshot _ | answerPing _ =>
      simp only [Client.act, Client.queue] at stepped
      repeat' split at stepped
      all_goals
        first
        | cases stepped; exact ⟨rfl, rfl, id⟩
        | cases stepped
  | start | take | write _ | quit _ | readError =>
      simp only [Client.act] at stepped
      repeat' split at stepped
      all_goals
        first
        | cases stepped; exact ⟨rfl, rfl, id⟩
        | cases stepped

end Client

/-! ## Broadcasts from one loop -/

/-- A broadcast starts after the one before it has returned. -/
def FromLoop {M : Type} (s : State M) : Act M → Prop
  | .broadcast _ _ => s.flights = []
  | _ => True

namespace State

variable {M : Type} {s s' : State M}

/-- What the broadcasts under way have still to offer a client. -/
def pending (s : State M) (i : Nat) : List M :=
  (s.flights.filter fun flight => i ∈ flight.rest).map Flight.msg

/-- A broadcast under way holds every client once, and no message is kept from a client of the
hub. -/
structure Offered (s : State M) : Prop where
  single : s.flights.length ≤ 1
  once : ∀ flight ∈ s.flights, flight.rest.Nodup
  known : ∀ flight ∈ s.flights, ∀ i ∈ flight.rest, i < s.clients.length
  since : ∀ c ∈ s.clients, c.since ≤ s.log.length
  offers : ∀ (i : Nat) (c : Client M), s.clients[i]? = some c →
    c.offers.map Prod.fst ++ s.pending i <+: s.log.drop c.since
  complete : ∀ (i : Nat) (c : Client M), s.clients[i]? = some c → c.inHub = true →
    c.offers.map Prod.fst ++ s.pending i = s.log.drop c.since

theorem pending_of_none (idle : s.flights = []) (i : Nat) : s.pending i = [] := by
  unfold pending
  rw [idle]
  rfl

theorem pending_of_one {flight : Flight M} (one : s.flights = [flight]) (i : Nat) :
    s.pending i = if i ∈ flight.rest then [flight.msg] else [] := by
  unfold pending
  rw [one]
  by_cases here : i ∈ flight.rest
  · simp [here]
  · simp [here]

/-- The one broadcast under way. -/
theorem flights_eq_singleton (single : s.flights.length ≤ 1) {k : Nat} {flight : Flight M}
    (here : s.flights[k]? = some flight) : s.flights = [flight] ∧ k = 0 := by
  obtain ⟨bound, same⟩ := List.getElem?_eq_some_iff.mp here
  have first : k = 0 := by omega
  subst first
  obtain ⟨only, one⟩ := List.length_eq_one_iff.mp (Nat.le_antisymm single bound)
  refine ⟨?_, rfl⟩
  rw [one]
  simp only [one, List.getElem_cons_zero] at same
  rw [same]

theorem offered_register (offered : s.Offered) :
    Offered { s with clients := s.clients ++ [{ since := s.log.length }] } := by
  obtain ⟨single, once, known, since, offers, complete⟩ := offered
  have fresh : s.pending s.clients.length = [] := by
    unfold pending
    rw [List.map_eq_nil_iff, List.filter_eq_nil_iff]
    intro flight member held
    exact Nat.lt_irrefl _ (known flight member _ (of_decide_eq_true held))
  have newest : ∀ (i : Nat) (c : Client M),
      (s.clients ++ [{ since := s.log.length }])[i]? = some c →
        s.clients[i]? = some c ∨ i = s.clients.length ∧ c = { since := s.log.length } := by
    intro i c here
    rw [List.getElem?_append] at here
    split at here
    · exact .inl here
    case isFalse late =>
      have last : i - s.clients.length = 0 := by
        obtain ⟨bound, -⟩ := List.getElem?_eq_some_iff.mp here
        simpa using bound
      rw [last] at here
      exact .inr ⟨by omega, (Option.some.inj here).symm⟩
  refine ⟨single, once, fun flight member i held => ?_, fun c member => ?_, fun i c here => ?_,
    fun i c here inHub => ?_⟩
  · rw [List.length_append]
    exact Nat.lt_add_right _ (known flight member i held)
  · rcases List.mem_append.mp member with old | new
    · exact since c old
    · exact Nat.le_of_eq (congrArg Client.since (List.mem_singleton.mp new))
  · rcases newest i c here with old | ⟨rfl, rfl⟩
    · exact offers i c old
    · change [] ++ s.pending s.clients.length <+: s.log.drop s.log.length
      rw [fresh]
      exact List.nil_prefix
  · rcases newest i c here with old | ⟨rfl, rfl⟩
    · exact complete i c old inHub
    · change [] ++ s.pending s.clients.length = s.log.drop s.log.length
      rw [fresh, List.drop_length]
      rfl

theorem offered_broadcast (offered : s.Offered) (idle : s.flights = []) {m : M} {order : List Nat}
    (all : order.Perm s.members) :
    Offered { s with flights := s.flights ++ [⟨m, order⟩], log := s.log ++ [m] } := by
  obtain ⟨-, -, -, since, offers, complete⟩ := offered
  have one : s.flights ++ [(⟨m, order⟩ : Flight M)] = [⟨m, order⟩] := by rw [idle]; rfl
  have later : ∀ (i : Nat) (c : Client M), s.clients[i]? = some c →
      (s.log ++ [m]).drop c.since = s.log.drop c.since ++ [m] := fun i c here =>
    List.drop_append_of_le_length (since c (List.mem_of_getElem? here))
  have before : ∀ (i : Nat), s.pending i = [] := pending_of_none idle
  refine ⟨?_, fun flight member => ?_, fun flight member i held => ?_, fun c member => ?_,
    fun i c here => ?_, fun i c here inHub => ?_⟩
  · rw [one]
    exact Nat.le_refl 1
  · rw [one, List.mem_singleton] at member
    subst member
    exact all.nodup_iff.mpr (nodup_members s)
  · rw [one, List.mem_singleton] at member
    subst member
    obtain ⟨c, here, -⟩ := mem_members.mp (all.mem_iff.mp held)
    exact (List.getElem?_eq_some_iff.mp here).1
  · rw [List.length_append]
    exact Nat.le_add_right_of_le (since c member)
  · change c.offers.map Prod.fst ++ _ <+: (s.log ++ [m]).drop c.since
    rw [pending_of_one one, later i c here]
    cases present : c.inHub with
    | true =>
        have told := complete i c here present
        rw [before, List.append_nil] at told
        rw [if_pos (all.mem_iff.mpr (mem_members.mpr ⟨c, here, present⟩))]
        exact (congrArg (· ++ [m]) told) ▸ List.prefix_rfl
    | false =>
        have absent : i ∉ order := by
          intro held
          obtain ⟨c', here', inHub⟩ := mem_members.mp (all.mem_iff.mp held)
          rw [here] at here'
          cases here'
          rw [present] at inHub
          cases inHub
        have told := offers i c here
        rw [before, List.append_nil] at told
        rw [if_neg absent, List.append_nil]
        exact told.trans (List.prefix_append _ _)
  · change c.offers.map Prod.fst ++ _ = (s.log ++ [m]).drop c.since
    have told := complete i c here inHub
    rw [before, List.append_nil] at told
    rw [pending_of_one one, later i c here,
      if_pos (all.mem_iff.mpr (mem_members.mpr ⟨c, here, inHub⟩)), told]

/-- What an offer adds to the offers of a client is no longer pending for it. -/
theorem offers_offer (c : Client M) (m : M) :
    (c.offer m).offers.map Prod.fst = c.offers.map Prod.fst ++ [m] ∧
      (c.offer m).since = c.since ∧ (c.offer m).inHub = c.inHub := by
  unfold Client.offer
  split
  · exact ⟨List.map_append, rfl, rfl⟩
  · exact ⟨List.map_append, rfl, rfl⟩

theorem offered_offer (offered : s.Offered) {flight : Flight M} {i : Nat} {rest : List Nat}
    (one : s.flights = [flight]) (next : flight.rest = i :: rest) :
    Offered { s with
      clients := s.clients.modify i fun c => c.offer flight.msg
      flights := s.flights.set 0 { flight with rest := rest } } := by
  obtain ⟨-, once, known, since, offers, complete⟩ := offered
  have only : flight ∈ s.flights := by rw [one]; exact List.mem_singleton_self _
  have nodup : (i :: rest).Nodup := next ▸ once flight only
  have left : s.flights.set 0 { flight with rest := rest } = [{ flight with rest := rest }] := by
    rw [one]
    rfl
  -- The offers and what is pending, together, are those from before.
  have moved : ∀ (j : Nat) (c' : Client M),
      (s.clients.modify i fun c => c.offer flight.msg)[j]? = some c' →
        ∃ c, s.clients[j]? = some c ∧ c'.since = c.since ∧ c'.inHub = c.inHub ∧
          c'.offers.map Prod.fst ++ (if j ∈ rest then [flight.msg] else []) =
            c.offers.map Prod.fst ++ s.pending j := by
    intro j c' here
    rw [List.getElem?_modify] at here
    obtain ⟨c, before, rfl⟩ := Option.map_eq_some_iff.mp here
    rw [pending_of_one one, next]
    by_cases same : i = j
    · subst same
      obtain ⟨told, started, inHub⟩ := offers_offer c flight.msg
      refine ⟨c, before, ?_⟩
      rw [if_pos rfl, if_neg (List.nodup_cons.mp nodup).1, if_pos List.mem_cons_self,
        List.append_nil]
      exact ⟨started, inHub, told⟩
    · have held : j ∈ i :: rest ↔ j ∈ rest := by
        rw [List.mem_cons]
        exact or_iff_right (Ne.symm same)
      refine ⟨c, before, ?_⟩
      simp only [if_neg same, held, and_self]
  refine ⟨?_, fun flight' member => ?_, fun flight' member j held => ?_, fun c' member => ?_,
    fun j c' here => ?_, fun j c' here inHub => ?_⟩
  · rw [left]
    exact Nat.le_refl 1
  · rw [left, List.mem_singleton] at member
    subst member
    exact (List.nodup_cons.mp nodup).2
  · rw [left, List.mem_singleton] at member
    subst member
    rw [List.length_modify]
    exact known flight only j (next ▸ List.mem_cons_of_mem i held)
  · obtain ⟨j, here⟩ := List.mem_iff_getElem?.mp member
    obtain ⟨c, before, started, -, -⟩ := moved j c' here
    rw [started]
    exact since c (List.mem_of_getElem? before)
  · obtain ⟨c, before, started, -, same⟩ := moved j c' here
    rw [pending_of_one left, same, started]
    exact offers j c before
  · obtain ⟨c, before, started, present, same⟩ := moved j c' here
    rw [pending_of_one left, same, started]
    exact complete j c before (present ▸ inHub)

theorem offered_client (offered : s.Offered) {i : Nat} {c c' : Client M} {a : ClientAct M}
    (here : s.clients[i]? = some c) (acted : c.act a = some c') :
    Offered { s with clients := s.clients.set i c' } := by
  obtain ⟨single, once, known, since, offers, complete⟩ := offered
  obtain ⟨told, started, stays⟩ := Client.offers_of_act acted
  have before : ∀ (j : Nat) (c₁ : Client M), (s.clients.set i c')[j]? = some c₁ →
      ∃ c₀, s.clients[j]? = some c₀ ∧ c₁.offers = c₀.offers ∧ c₁.since = c₀.since ∧
        (c₁.inHub = true → c₀.inHub = true) := by
    intro j c₁ there
    by_cases same : i = j
    · subst same
      obtain ⟨bound, -⟩ := List.getElem?_eq_some_iff.mp here
      rw [List.getElem?_set_self bound] at there
      cases there
      exact ⟨c, here, told, started, stays⟩
    · rw [List.getElem?_set_ne same] at there
      exact ⟨c₁, there, rfl, rfl, id⟩
  refine ⟨single, once, fun flight member j held => ?_, fun c₁ member => ?_, fun j c₁ there => ?_,
    fun j c₁ there inHub => ?_⟩
  · rw [List.length_set]
    exact known flight member j held
  · obtain ⟨j, there⟩ := List.mem_iff_getElem?.mp member
    obtain ⟨c₀, old, -, same, -⟩ := before j c₁ there
    rw [same]
    exact since c₀ (List.mem_of_getElem? old)
  · obtain ⟨c₀, old, same, began, -⟩ := before j c₁ there
    rw [same, began]
    exact offers j c₀ old
  · obtain ⟨c₀, old, same, began, present⟩ := before j c₁ there
    rw [same, began]
    exact complete j c₀ old (present inHub)

theorem offered_preserved : Preserves (step (M := M)) FromLoop Offered := by
  intro s a s' offered admitted stepped
  cases a with
  | register =>
      cases stepped
      exact offered_register offered
  | broadcast m order =>
      simp only [step] at stepped
      split at stepped
      case isTrue all =>
        cases stepped
        exact offered_broadcast offered admitted all
      case isFalse => cases stepped
  | offer k =>
      obtain ⟨flight, here, rfl⟩ := Option.map_eq_some_iff.mp stepped
      obtain ⟨one, rfl⟩ := flights_eq_singleton offered.single here
      split
      case h_1 done =>
        obtain ⟨-, -, -, since, offers, complete⟩ := offered
        have idle : s.flights.eraseIdx 0 = [] := by rw [one]; rfl
        have none : ∀ i, s.pending i = [] := by
          intro i
          rw [pending_of_one one, done]
          exact if_neg List.not_mem_nil
        refine ⟨?_, fun flight' member => ?_, fun flight' member => ?_, since, fun i c there => ?_,
          fun i c there inHub => ?_⟩
        · rw [idle]
          exact Nat.zero_le 1
        · rw [idle] at member
          cases member
        · rw [idle] at member
          cases member
        · rw [pending_of_none idle, ← none i]
          exact offers i c there
        · rw [pending_of_none idle, ← none i]
          exact complete i c there inHub
      case h_2 i rest next => exact offered_offer offered one next
  | client i a =>
      obtain ⟨c, here, acted⟩ := Option.bind_eq_some_iff.mp stepped
      obtain ⟨c', act, rfl⟩ := Option.map_eq_some_iff.mp acted
      exact offered_client offered here act

theorem offered_initial : Offered ({} : State M) := by
  refine ⟨Nat.zero_le 1, ?_, ?_, ?_, ?_, ?_⟩
  · intro flight member
    cases member
  · intro flight member
    cases member
  · intro c member
    cases member
  · intro i c here
    cases here
  · intro i c here
    cases here

theorem fifo_preserved :
    Preserves (step (M := M)) FromLoop fun s => ∀ c ∈ s.clients, c.Fifo := by
  intro s a s' fifo _ stepped c' member
  rcases clients_of_step stepped member with old | rfl | given | given
  · exact fifo c' old
  · exact Client.fifo_register _
  · obtain ⟨c, old, m, rfl⟩ := given
    exact (fifo c old).offer m
  · obtain ⟨c, old, b, acted⟩ := given
    exact (fifo c old).act acted

/-! ## What a client hears -/

/-- A client hears some of the messages since it registered, in their order; as long as there was
room for all of them, the first ones without a gap; and while it is in the hub and nothing is
wrong with it, every message is written, on its way to the connection, or about to be offered. -/
structure Heard (s : State M) (i : Nat) (c : Client M) : Prop where
  sublist : c.heard.Sublist (s.log.drop c.since)
  noGap : (∀ o ∈ c.offers, o.2 = true) → c.heard <+: s.log.drop c.since
  noLoss : c.inHub = true → c.calls .entered = 0 →
    c.heard ++ c.waiting.filterMap Frame.told ++ s.pending i = s.log.drop c.since

theorem accepted_of_room {c : Client M} (room : ∀ o ∈ c.offers, o.2 = true) :
    c.accepted = c.offers.map Prod.fst := by
  unfold Client.accepted
  rw [List.filter_eq_self.mpr room]

theorem messages_heard (run : Run (step (M := M)) FromLoop {} s) {i : Nat} {c : Client M}
    (here : s.clients[i]? = some c) : Heard s i c := by
  have offered := run.invariant offered_preserved offered_initial
  have member := List.mem_of_getElem? here
  have fifo := run.invariant fifo_preserved (fun c none => nomatch none) c member
  have sound := (run.mono fun _ _ _ => trivial).invariant sound_preserved
    (fun c none => nomatch none) c member
  have told := (List.prefix_append _ _).trans (offered.offers i c here)
  refine ⟨?_, fun room => ?_, fun inHub calm => ?_⟩
  · have kept : c.accepted.Sublist (c.offers.map Prod.fst) :=
      List.filter_sublist.map Prod.fst
    exact (fifo.heard.sublist.trans kept).trans told.sublist
  · have first := fifo.heard
    rw [accepted_of_room room] at first
    exact first.trans told
  · have fine : ¬c.Failing := fun failing =>
      absurd (sound.reaped inHub failing) (by rw [calm]; exact Nat.lt_irrefl 0)
    have room : ∀ o ∈ c.offers, o.2 = true := by
      intro o given
      by_contra refused
      exact fine (.inl ⟨o, given, Bool.eq_false_iff.mpr refused⟩)
    have lives : c.writer ≠ .ended := fun ended => fine (.inr (.inl ended))
    rw [fifo.queued lives, accepted_of_room room]
    exact offered.complete i c here inHub

instance [DecidableEq M] (s : State M) : (a : Act M) → Decidable (FromLoop s a)
  | .broadcast _ _ => inferInstanceAs (Decidable (_ = _))
  | .register | .offer _ | .client _ _ => inferInstanceAs (Decidable True)

/-- A message heard, a second one in the outbox, and a third one about to be offered. -/
def threeMessages : List (Act Nat) :=
  [.register, .client 0 .start, .broadcast 1 [0], .offer 0, .offer 0, .client 0 .take,
    .client 0 (.write true), .broadcast 2 [0], .offer 0, .offer 0, .broadcast 3 [0]]

theorem messages_heard_three : ∃ (s : State Nat) (c : Client Nat),
    execGuarded step FromLoop {} threeMessages = some s ∧ s.clients[0]? = some c ∧
      (c.heard, s.pending 0, s.log) = ([1], [3], [1, 2, 3]) ∧ Heard s 0 c := by
  have ran : (execGuarded step FromLoop {} threeMessages).map
      (fun s => (s.clients[0]?.map Client.heard, s.pending 0, s.log)) =
        some (some [1], [3], [1, 2, 3]) := by
    decide +kernel
  obtain ⟨s, executed, view⟩ := Option.map_eq_some_iff.mp ran
  obtain ⟨heard, rest⟩ := Prod.mk.inj view
  obtain ⟨c, here, told⟩ := Option.map_eq_some_iff.mp heard
  exact ⟨s, c, executed, here, by rw [told, rest],
    messages_heard (Run.of_execGuarded executed) here⟩

end State

end Hub

end Avalant
