import Avalant.Exchange.Agreement
import Avalant.Exchange.Manager

/-!
The symbols that users have asked for, under the cap of a connection.

The manager puts them first in the list it gives to the runner, and that order is
all there is of their priority. It is lost when the manager finds its set unchanged,
and when a session takes its symbols from a map.
-/

namespace Avalant

namespace Exchange

open Transition

/-- A venue of the manager, its runner, the time, and the symbols of the users at the last
reconcile. -/
structure Feed where
  venue : Venue
  runner : Runner
  now : Instant
  requested : Finset String

inductive FeedAct
  | wait (d : Nat)
  | touch (symbol : String)
  | untouch (symbol : String)
  | prewarm (syms : List String)
  /-- The symbols of the users, the others, and what the runner finds removed. -/
  | reconcile (users rest removed : List String)
  /-- Any step of the runner but `SetSymbols`. -/
  | runner (act : RunnerAct)

namespace Feed

def initial : Feed := ⟨Venue.initial, Runner.initial, 0, ∅⟩

def step (a : Adapter) (s : Feed) : FeedAct → Option Feed
  | .wait d => some { s with now := s.now + d }
  | .touch symbol => some { s with venue := s.venue.touch symbol s.now }
  | .untouch symbol => some { s with venue := s.venue.untouch symbol }
  | .prewarm syms => some { s with venue := s.venue.prewarmSet syms }
  | .reconcile users rest removed =>
      let fresh := s.venue.pruned s.now
      if fresh.Flat users rest then
        match s.venue.reconcile s.now with
        | (venue, false) => some { s with venue, requested := fresh.userSet }
        | (venue, true) =>
            (s.runner.step a (.setSymbols (users ++ rest) removed)).map fun runner =>
              { s with venue, runner, requested := fresh.userSet }
      else none
  | .runner (.setSymbols _ _) => none
  | .runner act => (s.runner.step a act).map fun runner => { s with runner }

end Feed

/-- Few enough for the cap. -/
def Adapter.Allows (a : Adapter) (syms : Finset String) : Prop :=
  a.maxSymbols = 0 ∨ syms.card ≤ a.maxSymbols

instance (a : Adapter) (syms : Finset String) : Decidable (a.Allows syms) :=
  inferInstanceAs (Decidable (_ ∨ _))

/-- Once the runner has nothing left to send, the server of the current
connection is subscribed to what the users have asked for. -/
def Served (a : Adapter) (s : Feed) : Prop :=
  a.Allows s.requested → ∀ k ∈ s.runner.conn, k.opened → s.runner.Quiet k →
    k.id ∉ s.runner.closes → s.requested ⊆ k.subs

/-- A goroutine of the runner ends in order. -/
def Feed.Orderly (s : Feed) : FeedAct → Prop
  | .runner act => s.runner.Orderly act
  | _ => True

/-- A reconcile that finds the set unchanged finds the symbols of the users on the live connection, or
on their way to it. -/
def Feed.Unchanged (a : Adapter) (s : Feed) : FeedAct → Prop
  | .reconcile _ _ _ =>
      (s.venue.reconcile s.now).2 = false → a.Allows (s.venue.pruned s.now).userSet →
        ∀ k ∈ s.runner.conn, k.opened → k.id ∉ s.runner.closes →
          (s.venue.pruned s.now).userSet ⊆ s.runner.held k
  | _ => True

/-- A session takes the symbols of the users among the first. -/
def Feed.Leads (a : Adapter) (s : Feed) : FeedAct → Prop
  | .runner (.openSession wantedSnap) =>
      a.Allows s.requested → ∀ sym ∈ s.requested, sym ∈ a.cut wantedSnap
  | _ => True

instance (s : Feed) : ∀ act, Decidable (s.Orderly act)
  | .runner act => inferInstanceAs (Decidable (s.runner.Orderly act))
  | .wait _ | .touch _ | .untouch _ | .prewarm _ | .reconcile _ _ _ => isTrue trivial

instance (a : Adapter) (s : Feed) : ∀ act, Decidable (s.Unchanged a act)
  | .reconcile _ _ _ => inferInstanceAs (Decidable (_ → _ → _))
  | .wait _ | .touch _ | .untouch _ | .prewarm _ | .runner _ => isTrue trivial

instance (a : Adapter) (s : Feed) : ∀ act, Decidable (s.Leads a act)
  | .runner (.openSession _) => inferInstanceAs (Decidable (_ → ∀ sym ∈ s.requested, _))
  | .runner (.setSymbols _ _) | .runner (.send _) | .runner (.record _) | .runner (.close _)
  | .runner .lose | .runner .endSession | .wait _ | .touch _ | .untouch _ | .prewarm _
  | .reconcile _ _ _ => isTrue trivial

/-- In every run whose steps meet `ok`. -/
def AlwaysServed (a : Adapter) (ok : Feed → FeedAct → Prop) : Prop :=
  ∀ s, Run (Feed.step a) ok Feed.initial s → Served a s

/-- The runner keeps its record, wants what the manager applied last, and holds what the users have
asked for unless the connection is about to be closed. -/
structure Serves (a : Adapter) (s : Feed) : Prop where
  tracks : Tracks a s.runner
  applied : s.runner.symbols = s.venue.current
  wanted : s.requested ⊆ s.venue.current
  held : a.Allows s.requested → ∀ k ∈ s.runner.conn, k.opened → k.id ∉ s.runner.closes →
    s.requested ⊆ s.runner.held k

section

variable {a : Adapter} {s s' : Feed} {k : Conn}

theorem served_of_serves (serves : Serves a s) : Served a s := by
  intro few k live opened quiet still
  have held := serves.held few k live opened still
  rw [held_of_quiet quiet, (agrees_of_tracks serves.tracks).recorded k live opened quiet] at held
  exact held

/-- The first symbols of a batch are not cut. -/
theorem mem_cut_append {first rest : List String} {sym : String}
    (few : a.maxSymbols = 0 ∨ first.length ≤ a.maxSymbols) (member : sym ∈ first) : sym ∈ a.cut (first ++ rest) := by
  unfold Adapter.cut
  split
  case isTrue long =>
    have within : first.length ≤ a.maxSymbols := few.resolve_left (Nat.ne_of_gt long.1)
    rw [List.take_append, List.take_of_length_le within]
    exact List.mem_append_left _ member
  case isFalse => exact List.mem_append_left _ member

/-- A call of `SetSymbols` holds the first symbols of its list, unless it closes the connection. -/
theorem held_setSymbols {r r' : Runner} {users rest removed : List String}
    (requested : Requested a r (users ++ rest) removed r') (distinct : users.Nodup)
    (few : a.Allows users.toFinset) (live : k ∈ r'.conn) (still : k.id ∉ r'.closes) :
    users.toFinset ⊆ r'.held k := by
  rw [requested.conn] at live
  have stays : a.Stays removed := by
    by_contra leaves
    exact still (requested.ended leaves k live)
  intro sym member
  rw [List.mem_toFinset] at member
  by_cases known : sym ∈ r.subscribed
  · exact Finset.mem_union_left _ (requested.subscribed ▸ known)
  · have first : sym ∈ r.added users := mem_added.mpr ⟨member, known⟩
    have parts : r.added (users ++ rest) = r.added users ++ r.added rest :=
      List.filter_append _ _
    have short : a.maxSymbols = 0 ∨ (r.added users).length ≤ a.maxSymbols := by
      rw [Adapter.Allows, List.toFinset_card_of_nodup distinct] at few
      exact few.imp_right (List.length_filter_le _ _).trans
    rcases requested.answered stays k live with nothing | running
    · rw [parts, List.append_eq_nil_iff] at nothing
      rw [nothing.1] at first
      cases first
    · exact held_of_subscribe running sym (parts ▸ mem_cut_append short first)

theorem deliver_same (r : Runner) (t : Send) (frame : List String) (rest : List (List String)) :
    (r.deliver t frame rest).symbols = r.symbols ∧ (r.deliver t frame rest).closes = r.closes := by
  rcases deliver_cases r t frame rest with ⟨k, -, -, -, sent⟩ | ⟨-, failed⟩
  · exact sent ▸ ⟨rfl, rfl⟩
  · exact failed ▸ ⟨rfl, rfl⟩

/-- The steps of the runner keep what is held of the wanted symbols. -/
theorem serves_runner {act : RunnerAct} {runner : Runner} (serves : Serves a s)
    (orderly : s.runner.Orderly act) (leads : s.Leads a (.runner act))
    (other : ∀ syms removed, act ≠ .setSymbols syms removed)
    (stepped : s.runner.step a act = some runner) : Serves a { s with runner } := by
  have tracks := tracks_step serves.tracks orderly stepped
  cases act with
  | setSymbols syms removed => exact absurd rfl (other syms removed)
  | send t =>
      obtain ⟨frame, rest, -, running, rfl⟩ := Runner.step_send stepped
      obtain ⟨symbols, closes⟩ := deliver_same s.runner t frame rest
      refine ⟨tracks, symbols.trans serves.applied, serves.wanted, ?_⟩
      intro few k' live' opened' still
      obtain ⟨k, live, opened, same, held⟩ := held_deliver running live' opened'
      dsimp only at still
      rw [closes, same] at still
      exact (serves.held few k live opened still).trans held
  | record t =>
      obtain ⟨-, changed⟩ := Option.ite_none_right_eq_some.mp stepped
      cases changed
      refine ⟨tracks, serves.applied, serves.wanted, fun few k live opened still sym asked => ?_⟩
      have wanted : sym ∈ s.runner.symbols := serves.applied ▸ serves.wanted asked
      exact held_record orderly live opened wanted (serves.held few k live opened still asked)
  | close id =>
      obtain ⟨-, changed⟩ := Option.ite_none_right_eq_some.mp stepped
      cases changed
      refine ⟨tracks, serves.applied, serves.wanted, fun few k live opened still => ?_⟩
      obtain ⟨known, apart⟩ := conn_of_shut live opened
      exact serves.held few k known opened fun closing =>
        still ((List.mem_erase_of_ne apart).mpr closing)
  | lose =>
      obtain ⟨k, -, changed⟩ := Option.map_eq_some_iff.mp stepped
      cases changed
      exact ⟨tracks, serves.applied, serves.wanted, fun few k' live opened =>
        serves.held few k' (conn_of_shut live opened).1 opened⟩
  | endSession =>
      obtain ⟨k, -, ended⟩ := Option.bind_eq_some_iff.mp stepped
      obtain ⟨-, changed⟩ := Option.ite_none_left_eq_some.mp ended
      cases changed
      exact ⟨tracks, serves.applied, serves.wanted, fun _ => unconnected⟩
  | openSession wantedSnap =>
      obtain ⟨-, changed⟩ := Option.ite_none_right_eq_some.mp stepped
      cases changed
      refine ⟨tracks, serves.applied, serves.wanted, ?_⟩
      intro few _ given _ _ sym asked
      cases given
      have taken := leads few sym asked
      have some : wantedSnap ≠ [] := by
        intro same
        subst same
        exact absurd (mem_of_mem_cut taken) List.not_mem_nil
      exact held_of_subscribe (mem_sends_openSession.mpr (Or.inr ⟨some, rfl⟩)) sym taken

theorem serves_reconcile {users rest removed : List String} (serves : Serves a s)
    (unchanged : s.Unchanged a (.reconcile users rest removed))
    (stepped : s.step a (.reconcile users rest removed) = some s') : Serves a s' := by
  simp only [Feed.step] at stepped
  obtain ⟨flat, stepped⟩ := Option.ite_none_right_eq_some.mp stepped
  simp only [Feed.Unchanged] at unchanged
  rcases reconcile_cases s.venue s.now with ⟨same, skipped⟩ | applied
  · rw [skipped] at stepped unchanged
    cases stepped
    refine ⟨serves.tracks, serves.applied, ?_, unchanged rfl⟩
    exact same ▸ userSet_subset_union _
  · rw [applied] at stepped
    obtain ⟨runner, called, changed⟩ := Option.map_eq_some_iff.mp stepped
    subst changed
    have free : s.runner.Orderly (.setSymbols (users ++ rest) removed) := trivial
    have tracks := tracks_step serves.tracks free called
    obtain ⟨-, result⟩ := Option.ite_none_right_eq_some.mp called
    cases result
    have requested := requested_of_setSymbols a s.runner (users ++ rest) removed
    refine ⟨tracks, requested.symbols.trans (flat_toFinset flat), userSet_subset_union _, ?_⟩
    intro few k live opened still
    rw [← flat.2.1] at few ⊢
    exact held_setSymbols requested flat.1 few live still

/-- What the manager learns between two reconciles does not reach the runner. -/
theorem serves_venue {venue : Venue} {now : Instant} (serves : Serves a s)
    (same : venue.current = s.venue.current) : Serves a { s with venue, now } :=
  ⟨serves.tracks, serves.applied.trans same.symm, same ▸ serves.wanted, serves.held⟩

theorem serves_step : Preserves (Feed.step a)
    (fun s act => s.Orderly act ∧ s.Unchanged a act ∧ s.Leads a act) (Serves a) := by
  intro s act s' serves admitted stepped
  rcases admitted with ⟨orderly, unchanged, leads⟩
  cases act with
  | wait d =>
      cases stepped
      exact serves_venue serves rfl
  | touch symbol =>
      cases stepped
      refine serves_venue serves ?_
      unfold Venue.touch
      split
      · rfl
      · rfl
  | untouch symbol =>
      cases stepped
      exact serves_venue serves rfl
  | prewarm syms =>
      cases stepped
      exact serves_venue serves rfl
  | reconcile users rest removed => exact serves_reconcile serves unchanged stepped
  | runner act =>
      have moved : ∃ runner, s.runner.step a act = some runner ∧ { s with runner } = s' ∧
          ∀ syms removed, act ≠ .setSymbols syms removed := by
        cases act with
        | setSymbols => cases stepped
        | _ =>
            obtain ⟨runner, called, changed⟩ := Option.map_eq_some_iff.mp stepped
            exact ⟨runner, called, changed, nofun⟩
      obtain ⟨runner, called, rfl, other⟩ := moved
      exact serves_runner serves orderly leads other called

end

/-! ## Every run -/

/-- A session subscribes to the first two of three symbols. -/
def session (wantedSnap : List String) : List FeedAct :=
  (.openSession wantedSnap :: sendAll (sending .subscribe 0 (wantedSnap.take 2) true) ++
    [recordAll (sending .subscribe 0 (wantedSnap.take 2) true)]).map .runner

/-- The symbol of a user is the first of the session. -/
example : ((execGuarded (Feed.step (perSymbol 2 true))
    (fun s act => s.Orderly act ∧ s.Unchanged (perSymbol 2 true) act ∧
      s.Leads (perSymbol 2 true) act) Feed.initial
    ([.touch "SOL", .prewarm ["BTC", "ETH", "SOL"], .reconcile ["SOL"] ["BTC", "ETH"] []] ++
      session ["SOL", "BTC", "ETH"])).bind fun s => s.runner.conn.map Conn.subs) =
        some {"SOL", "BTC"} := by
  decide +kernel

/-- A user asks for a symbol of the prewarm list that was cut. -/
def unchangedRun : List FeedAct :=
  [.prewarm ["BTC", "ETH", "SOL"], .reconcile [] ["BTC", "ETH", "SOL"] []] ++
    session ["BTC", "ETH", "SOL"] ++ [.touch "SOL", .reconcile ["SOL"] ["BTC", "ETH"] []]

/-- A session begins with another symbol. -/
def shuffledRun : List FeedAct :=
  [.touch "SOL", .prewarm ["BTC", "ETH", "SOL"], .reconcile ["SOL"] ["BTC", "ETH"] []] ++
    session ["BTC", "ETH", "SOL"]

/-- A run that ends without the symbol of a user. -/
theorem not_served {ok : Feed → FeedAct → Prop} [∀ s act, Decidable (ok s act)]
    (as : List FeedAct)
    (ran : (execGuarded (Feed.step (perSymbol 2 true)) ok Feed.initial as).map
      (fun s => (s.requested, s.runner.conn.map fun k => (k.opened, k.subs), s.runner.sends,
        s.runner.closes)) = some ({"SOL"}, some (true, {"BTC", "ETH"}), [], [])) :
    ¬AlwaysServed (perSymbol 2 true) ok := by
  intro always
  obtain ⟨s, executed, view⟩ := Option.map_eq_some_iff.mp ran
  obtain ⟨asked, view⟩ := Prod.ext_iff.mp view
  obtain ⟨live, view⟩ := Prod.ext_iff.mp view
  obtain ⟨quiet, still⟩ := Prod.ext_iff.mp view
  obtain ⟨k, known, held⟩ := Option.map_eq_some_iff.mp live
  obtain ⟨opened, subs⟩ := Prod.ext_iff.mp held
  dsimp only at asked quiet still opened subs
  have few : (perSymbol 2 true).Allows s.requested := by
    rw [asked]
    decide
  have idle : s.runner.Quiet k := by
    intro t running
    rw [quiet] at running
    cases running
  have stays : k.id ∉ s.runner.closes := by
    rw [still]
    exact List.not_mem_nil
  have served := always s (Run.of_execGuarded executed) few k known opened idle stays
  rw [asked, subs] at served
  exact absurd served (by decide)

end Exchange

end Avalant
