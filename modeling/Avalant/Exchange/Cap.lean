import Avalant.Exchange.Agreement
import Mathlib.Algebra.Ring.Nat

/-!
The number of symbols of a connection.

`subscribe` cuts each batch at `MaxSymbols`. The connection keeps within the bound
as long as each batch has room beside what the server has and what is on its way.
-/

namespace Avalant

namespace Exchange

open Transition

/-- No connection has more symbols than its adapter allows. -/
def Capped (a : Adapter) (s : Runner) : Prop :=
  0 < a.maxSymbols → ∀ k ∈ s.conn, k.subs.card ≤ a.maxSymbols

/-- The symbols of a connection whose frames are still to be sent. -/
def Runner.unsent (s : Runner) (k : Conn) : Finset String :=
  ((s.sends.filter fun t => t.kind = .subscribe ∧ t.conn = some k.id).flatMap fun t =>
    t.frames.flatten).toFinset

/-- What the server has, or will have. -/
def Runner.occupied (s : Runner) (k : Conn) : Finset String :=
  k.subs ∪ s.unsent k

/-- A batch has room on its connection. -/
def Adapter.Roomy (a : Adapter) (s : Runner) : RunnerAct → Prop
  | .setSymbols syms removed =>
      0 < a.maxSymbols → a.Stays removed → ∀ k ∈ s.conn, k.opened →
        (s.occupied k ∪ (a.cut (s.added syms)).toFinset).card ≤ a.maxSymbols
  | _ => True

instance (a : Adapter) (s : Runner) : ∀ act, Decidable (a.Roomy s act)
  | .setSymbols _ _ => inferInstanceAs (Decidable (_ → _ → _))
  | .send _ | .record _ | .close _ | .lose | .endSession | .openSession _ => isTrue trivial

/-- In every run whose steps meet `ok`. -/
def AlwaysCapped (a : Adapter) (ok : Runner → RunnerAct → Prop) : Prop :=
  ∀ s, Run (Runner.step a) ok Runner.initial s → Capped a s

/-- The condition under which the bound holds: a step outside it can be continued beyond the bound. -/
structure CappedWhen (a : Adapter) (ok : Runner → RunnerAct → Prop) : Prop where
  always : AlwaysCapped a ok
  only : ∀ s act s', Run (Runner.step a) ok Runner.initial s → s.step a act = some s' →
    ¬ok s act → ∃ s'', Run (Runner.step a) (fun _ _ => True) s' s'' ∧ ¬Capped a s''

section

variable {a : Adapter} {s s' : Runner} {k : Conn} {t : Send} {sym : String}

theorem mem_unsent :
    sym ∈ s.unsent k ↔
      ∃ t ∈ s.sends, t.kind = .subscribe ∧ t.conn = some k.id ∧ sym ∈ t.frames.flatten := by
  simp only [Runner.unsent, List.mem_toFinset, List.mem_flatMap, List.mem_filter, and_assoc,
    decide_eq_true_eq]

/-- No goroutine is for a connection that is still to come, and an open connection has room for
what is on its way. -/
structure Bounded (a : Adapter) (s : Runner) : Prop where
  used : ∀ t ∈ s.sends, ∀ id ∈ t.conn, id < s.opens
  current : ∀ k ∈ s.conn, k.id < s.opens
  capped : Capped a s
  room : 0 < a.maxSymbols → ∀ k ∈ s.conn, k.opened → (s.occupied k).card ≤ a.maxSymbols

/-! ## Each step -/

theorem card_cut (capped : 0 < a.maxSymbols) (syms : List String) :
    (a.cut syms).toFinset.card ≤ a.maxSymbols := by
  refine (List.toFinset_card_le _).trans ?_
  unfold Adapter.cut
  split
  case isTrue => exact List.length_take_le _ _
  case isFalse short => omega

/-- Goroutines that end take nothing up. -/
theorem unsent_mono (kept : ∀ t ∈ s'.sends, t ∈ s.sends) : s'.unsent k ⊆ s.unsent k := by
  intro sym member
  obtain ⟨t, known, kind, here, named⟩ := mem_unsent.mp member
  exact mem_unsent.mpr ⟨t, kept t known, kind, here, named⟩

theorem unsent_setSymbols {syms removed : List String}
    (requested : Requested a s syms removed s') :
    s'.unsent k ⊆ s.unsent k ∪
      if a.Stays removed then (a.cut (s.added syms)).toFinset else ∅ := by
  intro sym member
  obtain ⟨t, running, kind, here, named⟩ := mem_unsent.mp member
  rcases requested.started t running with known | ⟨leaves, -⟩ | ⟨stays, k', -, rfl⟩
  · exact Finset.mem_union_left _ (mem_unsent.mpr ⟨t, known, kind, here, named⟩)
  · rw [leaves] at kind
    cases kind
  · rw [if_pos stays]
    exact Finset.mem_union_right _ (List.mem_toFinset.mpr ((a.subscribes _ sym).mp named))

theorem bounded_setSymbols {syms removed : List String} (bounded : Bounded a s)
    (requested : Requested a s syms removed s') (roomy : a.Roomy s (.setSymbols syms removed)) :
    Bounded a s' := by
  refine ⟨fun t running id its => ?_, fun k live => ?_, fun capped k live => ?_,
    fun capped k live opened => ?_⟩
  · rw [requested.opens]
    rcases requested.started t running with known | ⟨-, -, here, -⟩ | ⟨-, k, live, rfl⟩
    · exact bounded.used t known id its
    · rw [here] at its
      obtain ⟨k, live, rfl⟩ := Option.map_eq_some_iff.mp its
      exact bounded.current k live
    · cases its
      exact bounded.current k live
  · rw [requested.opens]
    exact bounded.current k (requested.conn ▸ live)
  · exact bounded.capped capped k (requested.conn ▸ live)
  · rw [requested.conn] at live
    have grown := unsent_setSymbols (k := k) requested
    split at grown
    case isTrue stays =>
      refine (Finset.card_le_card ?_).trans (roomy capped stays k live opened)
      unfold Runner.occupied
      rw [Finset.union_assoc]
      exact Finset.union_subset_union_right grown
    case isFalse =>
      rw [Finset.union_empty] at grown
      exact (Finset.card_le_card (Finset.union_subset_union_right grown)).trans
        (bounded.room capped k live opened)

/-- A goroutine that ends without a change of the connection. -/
theorem bounded_erase (bounded : Bounded a s) (subscribed : Finset String) (t : Send) :
    Bounded a { s with subscribed, sends := s.sends.erase t } := by
  have kept : ∀ t' ∈ s.sends.erase t, t' ∈ s.sends := fun t' => List.mem_of_mem_erase
  refine ⟨fun t' running => bounded.used t' (kept t' running), bounded.current, bounded.capped,
    fun capped k live opened => ?_⟩
  exact (Finset.card_le_card (Finset.union_subset_union_right (unsent_mono kept))).trans
    (bounded.room capped k live opened)

/-- A frame that is sent was on its way. -/
theorem occupied_apply {frame : List String} {rest : List (List String)} (running : t ∈ s.sends)
    (frames : t.frames = frame :: rest) (here : t.conn = some k.id) :
    ({ s with
      conn := some (k.apply t.kind frame)
      sends := { t with frames := rest } :: s.sends.erase t } : Runner).occupied
        (k.apply t.kind frame) ⊆ s.occupied k := by
  intro sym member
  rcases Finset.mem_union.mp member with present | coming
  · unfold Conn.apply at present
    cases kind : t.kind with
    | subscribe =>
        rw [kind] at present
        rcases Finset.mem_union.mp present with known | new
        · exact Finset.mem_union_left _ known
        · refine Finset.mem_union_right _ (mem_unsent.mpr ⟨t, running, kind, here, ?_⟩)
          rw [frames]
          exact List.mem_append_left _ (List.mem_toFinset.mp new)
    | unsubscribe =>
        rw [kind] at present
        exact Finset.mem_union_left _ (Finset.mem_sdiff.mp present).1
  · refine Finset.mem_union_right _ (mem_unsent.mpr ?_)
    obtain ⟨t', known, kind, its, named⟩ := mem_unsent.mp coming
    rw [id_apply] at its
    rcases List.mem_cons.mp known with rfl | other
    · refine ⟨t, running, kind, its, ?_⟩
      rw [frames]
      exact List.mem_append_right _ named
    · exact ⟨t', List.mem_of_mem_erase other, kind, its, named⟩

theorem bounded_deliver {frame : List String} {rest : List (List String)} (bounded : Bounded a s)
    (running : t ∈ s.sends) (frames : t.frames = frame :: rest) :
    Bounded a (s.deliver t frame rest) := by
  rcases deliver_cases s t frame rest with ⟨k, live, opened, here, sent⟩ | ⟨-, failed⟩
  · rw [sent]
    have part := occupied_apply running frames here
    refine ⟨?_, ?_, ?_, ?_⟩
    · intro t' known
      rcases List.mem_cons.mp known with rfl | other
      · exact bounded.used t running
      · exact bounded.used t' (List.mem_of_mem_erase other)
    · intro _ given
      cases given
      rw [id_apply]
      exact bounded.current k live
    · intro capped _ given
      cases given
      exact (Finset.card_le_card (Finset.subset_union_left.trans part)).trans
        (bounded.room capped k live opened)
    · intro capped _ given _
      cases given
      exact (Finset.card_le_card part).trans (bounded.room capped k live opened)
  · exact failed ▸ bounded_erase bounded s.subscribed t

theorem bounded_shut {id : Nat} (bounded : Bounded a s) (closes : List Nat) :
    Bounded a { s.shut id with closes } := by
  have same : ∀ k ∈ (s.shut id).conn, ∃ k' ∈ s.conn, k.id = k'.id ∧ k.subs = k'.subs := by
    intro k live
    obtain ⟨k', known, changed⟩ := Option.map_eq_some_iff.mp live
    refine ⟨k', known, ?_⟩
    split at changed
    · exact changed ▸ ⟨rfl, rfl⟩
    · exact changed ▸ ⟨rfl, rfl⟩
  refine ⟨bounded.used, fun k live => ?_, fun capped k live => ?_, fun capped k live opened => ?_⟩
  · obtain ⟨k', known, id', -⟩ := same k live
    exact id' ▸ bounded.current k' known
  · obtain ⟨k', known, -, subs⟩ := same k live
    exact subs ▸ bounded.capped capped k' known
  · exact bounded.room capped k (conn_of_shut live opened).1 opened

theorem bounded_openSession {wantedSnap : List String} (bounded : Bounded a s) :
    Bounded a { s with
      subscribed := ∅
      conn := some ⟨s.opens, true, ∅⟩
      opens := s.opens + 1
      sends := if wantedSnap = [] then s.sends
        else s.sends ++ [a.subscribe s.opens wantedSnap true] } := by
  refine ⟨fun t running id its => ?_, ?_, ?_, ?_⟩
  · rcases mem_sends_openSession.mp running with known | ⟨-, rfl⟩
    · exact (bounded.used t known id its).trans (Nat.lt_succ_self _)
    · cases its
      exact Nat.lt_succ_self _
  · intro _ given
    cases given
    exact Nat.lt_succ_self _
  · intro _ _ given
    cases given
    exact Nat.zero_le _
  · intro capped _ given _
    cases given
    refine (Finset.card_le_card ?_).trans (card_cut capped wantedSnap)
    intro sym member
    have coming := (Finset.mem_union.mp member).resolve_left (Finset.notMem_empty sym)
    obtain ⟨t, running, -, here, named⟩ := mem_unsent.mp coming
    rcases mem_sends_openSession.mp running with known | ⟨-, rfl⟩
    · exact absurd (bounded.used t known s.opens here) (Nat.lt_irrefl _)
    · exact List.mem_toFinset.mpr ((a.subscribes _ sym).mp named)

theorem bounded_step : Preserves (Runner.step a) a.Roomy (Bounded a) := by
  intro s act s' bounded roomy stepped
  cases act with
  | setSymbols syms removed =>
      obtain ⟨-, changed⟩ := Option.ite_none_right_eq_some.mp stepped
      cases changed
      exact bounded_setSymbols bounded (requested_of_setSymbols a s syms removed) roomy
  | send t =>
      obtain ⟨frame, rest, frames, running, rfl⟩ := Runner.step_send stepped
      exact bounded_deliver bounded running frames
  | record t =>
      obtain ⟨-, changed⟩ := Option.ite_none_right_eq_some.mp stepped
      cases changed
      exact bounded_erase bounded _ t
  | close id =>
      obtain ⟨-, changed⟩ := Option.ite_none_right_eq_some.mp stepped
      cases changed
      exact bounded_shut bounded _
  | lose =>
      obtain ⟨k, -, changed⟩ := Option.map_eq_some_iff.mp stepped
      cases changed
      exact bounded_shut bounded s.closes
  | endSession =>
      obtain ⟨k, -, ended⟩ := Option.bind_eq_some_iff.mp stepped
      obtain ⟨-, changed⟩ := Option.ite_none_left_eq_some.mp ended
      cases changed
      exact ⟨bounded.used, unconnected, fun _ => unconnected, fun _ => unconnected⟩
  | openSession wantedSnap =>
      obtain ⟨-, changed⟩ := Option.ite_none_right_eq_some.mp stepped
      cases changed
      exact bounded_openSession bounded

theorem bounded_run (run : Run (Runner.step a) a.Roomy Runner.initial s) : Bounded a s := by
  refine run.invariant bounded_step
    ⟨?_, unconnected, fun _ => unconnected, fun _ => unconnected⟩
  intro t running
  cases running

/-! ## A run beyond the bound -/

/-- How many frames of subscriptions are still to be sent on a connection. -/
def framesLeft (sends : List Send) (id : Nat) : Nat :=
  (sends.map fun t =>
    if t.kind = .subscribe ∧ t.conn = some id then t.frames.length else 0).sum

/-- A frame of a subscription goes out: what was on its way comes nearer. -/
theorem step_send {frame : List String} {rest : List (List String)} (live : s.conn = some k)
    (opened : k.opened) (running : t ∈ s.sends) (kind : t.kind = .subscribe)
    (here : t.conn = some k.id) (frames : t.frames = frame :: rest) :
    ∃ s', s.step a (.send t) = some s' ∧ s'.conn = some (k.apply t.kind frame) ∧
      s.occupied k ⊆ s'.occupied (k.apply t.kind frame) ∧
      framesLeft s'.sends k.id < framesLeft s.sends k.id := by
  have sent : s.step a (.send t) = some (s.deliver t frame rest) := by
    simp only [Runner.step]
    rw [frames]
    exact if_pos running
  have delivered : s.deliver t frame rest = { s with
      conn := some (k.apply t.kind frame)
      sends := { t with frames := rest } :: s.sends.erase t } := by
    unfold Runner.deliver
    rw [live]
    exact if_pos ⟨here, opened⟩
  have same : (k.apply t.kind frame).id = k.id := id_apply
  refine ⟨_, sent, ?_⟩
  rw [delivered]
  refine ⟨rfl, fun sym member => ?_, ?_⟩
  · rcases Finset.mem_union.mp member with present | coming
    · refine Finset.mem_union_left _ ?_
      rw [kind]
      exact Finset.mem_union_left _ present
    · obtain ⟨t', known, kind', its, named⟩ := mem_unsent.mp coming
      rw [← same] at its
      by_cases it : t' = t
      · subst it
        rw [frames] at named
        rcases List.mem_append.mp named with now | later
        · refine Finset.mem_union_left _ ?_
          rw [kind]
          exact Finset.mem_union_right _ (List.mem_toFinset.mpr now)
        · exact Finset.mem_union_right _
            (mem_unsent.mpr ⟨_, List.mem_cons_self, kind', its, later⟩)
      · have kept := (List.mem_erase_of_ne it).mpr known
        exact Finset.mem_union_right _
          (mem_unsent.mpr ⟨t', List.mem_cons_of_mem _ kept, kind', its, named⟩)
  · have before : framesLeft s.sends k.id = framesLeft (t :: s.sends.erase t) k.id :=
      ((List.perm_cons_erase running).map _).sum_eq
    rw [before]
    unfold framesLeft
    simp only [List.map_cons, List.sum_cons, kind, here, and_self, if_true, frames,
      List.length_cons]
    omega

/-- All frames of the subscriptions of a connection can be sent, one after the other. -/
theorem exists_run_sent (a : Adapter) (live : s.conn = some k) (opened : k.opened) :
    ∃ s' k', Run (Runner.step a) (fun _ _ => True) s s' ∧ s'.conn = some k' ∧
      s.occupied k ⊆ k'.subs := by
  induction left : framesLeft s.sends k.id using Nat.strongRecOn generalizing s k with
  | ind n ih =>
      by_cases something :
          ∃ t ∈ s.sends, t.kind = .subscribe ∧ t.conn = some k.id ∧ t.frames ≠ []
      · obtain ⟨t, running, kind, here, frames⟩ := something
        obtain ⟨frame, rest, frames⟩ := List.exists_cons_of_ne_nil frames
        obtain ⟨s₁, sent, live₁, nearer, fewer⟩ :=
          step_send (a := a) live opened running kind here frames
        have same : (k.apply t.kind frame).id = k.id := id_apply
        have opened₁ : (k.apply t.kind frame).opened := by
          rw [kind]
          exact opened
        rw [← same] at fewer
        obtain ⟨s₂, k₂, run, live₂, whole⟩ := ih _ (left ▸ same ▸ fewer) live₁ opened₁ rfl
        exact ⟨s₂, k₂, ((Run.refl s).tail trivial sent).trans run, live₂, nearer.trans whole⟩
      · refine ⟨s, k, Run.refl s, live, fun sym member => ?_⟩
        refine (Finset.mem_union.mp member).resolve_right fun coming => ?_
        obtain ⟨t, running, kind, here, named⟩ := mem_unsent.mp coming
        refine something ⟨t, running, kind, here, ?_⟩
        intro nothing
        rw [nothing] at named
        cases named

theorem occupied_setSymbols {syms removed : List String}
    (requested : Requested a s syms removed s') (stays : a.Stays removed) (live : s.conn = some k) :
    s.occupied k ∪ (a.cut (s.added syms)).toFinset ⊆ s'.occupied k := by
  intro sym member
  rcases Finset.mem_union.mp member with known | new
  · rcases Finset.mem_union.mp known with present | coming
    · exact Finset.mem_union_left _ present
    · obtain ⟨t, running, named⟩ := mem_unsent.mp coming
      exact Finset.mem_union_right _ (mem_unsent.mpr ⟨t, requested.kept t running, named⟩)
  · rw [List.mem_toFinset] at new
    rcases requested.answered stays k live with nothing | started
    · rw [nothing] at new
      exact absurd (mem_of_mem_cut new) List.not_mem_nil
    · exact Finset.mem_union_right _
        (mem_unsent.mpr ⟨_, started, rfl, rfl, (a.subscribes _ sym).mpr new⟩)

/-- A batch that has no room leads beyond the bound. -/
theorem exists_run_beyond {act : RunnerAct} (stepped : s.step a act = some s')
    (tight : ¬a.Roomy s act) :
    ∃ s'', Run (Runner.step a) (fun _ _ => True) s' s'' ∧ ¬Capped a s'' := by
  cases act with
  | setSymbols syms removed =>
      obtain ⟨-, changed⟩ := Option.ite_none_right_eq_some.mp stepped
      cases changed
      have requested := requested_of_setSymbols a s syms removed
      simp only [Adapter.Roomy, not_forall] at tight
      obtain ⟨capped, stays, k, live, opened, more⟩ := tight
      obtain ⟨s'', k'', run, live'', whole⟩ :=
        exists_run_sent a (requested.conn.trans live) opened
      refine ⟨s'', run, fun bound => more ?_⟩
      refine (Finset.card_le_card (Finset.Subset.trans ?_ whole)).trans (bound capped k'' live'')
      exact occupied_setSymbols requested stays live
  | _ => exact absurd trivial tight

end

/-! ## Every run -/

/-- The bound holds in every run whose batches have room, and no other batch is safe. -/
theorem cappedWhen_roomy (a : Adapter) : CappedWhen a a.Roomy where
  always := fun _ run => (bounded_run run).capped
  only := fun _ _ _ _ stepped tight => exists_run_beyond stepped tight

/-- One symbol leaves before another comes. -/
example : ((execGuarded (Runner.step (perSymbol 2 true)) (perSymbol 2 true).Roomy Runner.initial
    ([.setSymbols ["BTC", "ETH"] [], .openSession ["BTC", "ETH"]] ++
      sendAll (sending .subscribe 0 ["BTC", "ETH"] true) ++
      [recordAll (sending .subscribe 0 ["BTC", "ETH"] true), .setSymbols ["BTC"] ["ETH"]] ++
      sendAll (sending .unsubscribe 0 ["ETH"] false) ++
      [recordAll (sending .unsubscribe 0 ["ETH"] false), .setSymbols ["BTC", "SOL"] []] ++
      sendAll (sending .subscribe 0 ["SOL"] false))).bind fun s => s.conn.map Conn.subs) =
        some {"BTC", "SOL"} := by
  decide +kernel

/-- Two symbols, then a third beside them: each batch is within the bound of two. -/
def crowdRun : List RunnerAct :=
  [.setSymbols ["BTC", "ETH"] [], .openSession ["BTC", "ETH"]] ++
    sendAll (sending .subscribe 0 ["BTC", "ETH"] true) ++
    [recordAll (sending .subscribe 0 ["BTC", "ETH"] true), .setSymbols ["BTC", "ETH", "SOL"] []] ++
    sendAll (sending .subscribe 0 ["SOL"] false)

theorem alwaysCapped_broken : ¬AlwaysCapped (perSymbol 2 true) fun _ _ => True := by
  intro always
  have ran : ((exec (Runner.step (perSymbol 2 true)) Runner.initial crowdRun).bind fun s =>
      s.conn.map fun k => k.subs.card) = some 3 := by
    decide +kernel
  obtain ⟨s, executed, view⟩ := Option.bind_eq_some_iff.mp ran
  obtain ⟨k, live, size⟩ := Option.map_eq_some_iff.mp view
  have bound := always s (Run.of_exec executed) (show 0 < 2 by decide) k live
  rw [size] at bound
  exact absurd bound (by decide)

end Exchange

end Avalant
