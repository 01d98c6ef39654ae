import Avalant.Exchange.Cap

/-!
The REST backstop of Hyperliquid futures.

The adapter keeps the coins that the backstop polls. Every `BuildSubscribe` replaces them by the
coins of its call: all of them when a session begins, only the new ones after a `SetSymbols`. The
goroutine of a `SetSymbols` calls it on its own, so that other steps come before.
-/

namespace Avalant

namespace Hyperliquid

open Exchange
open Transition

/-- A frame for each symbol, no cap, and an `Unsubscriber`. -/
def adapter : Adapter := perSymbol 0 true

/-- Symbols are sent as coins, in upper case. -/
def coinsOf (syms : List String) : Finset String :=
  (syms.map String.toUpper).toFinset

structure Backstop where
  runner : Runner
  /-- What is polled. -/
  symbols : Finset String
  /-- Subscriptions whose `BuildSubscribe` is still to be called. -/
  waiting : List Send
  /-- What the server of the connection is subscribed to. -/
  coins : Finset String

inductive Act
  | runner (act : RunnerAct)
  | buildSubscribe (t : Send)

/-- The subscriptions that a step of the runner has started. -/
def begun (before after : Runner) : List Send :=
  (after.sends.drop before.sends.length).filter fun t => t.kind = .subscribe

namespace Backstop

def initial : Backstop := ⟨.initial, ∅, [], ∅⟩

/-- A goroutine that has its frames. -/
def Ready (s : Backstop) (t : Send) : Prop :=
  s.waiting.count t < s.runner.sends.count t

instance (s : Backstop) (t : Send) : Decidable (s.Ready t) :=
  inferInstanceAs (Decidable (_ < _))

/-- What the server makes of the next frame of a goroutine. -/
def delivered (s : Backstop) (t : Send) : Finset String :=
  match s.runner.conn, t.frames with
  | some k, frame :: _ =>
      if t.conn = some k.id ∧ k.opened then
        match t.kind with
        | .subscribe => s.coins ∪ coinsOf frame
        | .unsubscribe => s.coins \ coinsOf frame
      else s.coins
  | _, _ => s.coins

def step (s : Backstop) : Act → Option Backstop
  | .buildSubscribe t =>
      if t ∈ s.waiting then
        some { s with symbols := coinsOf t.syms, waiting := s.waiting.erase t }
      else none
  | .runner act =>
      (s.runner.step adapter act).bind fun runner =>
        match act with
        | .send t => if s.Ready t then some { s with runner, coins := s.delivered t } else none
        | .record t => if s.Ready t then some { s with runner } else none
        | .setSymbols _ _ => some { s with runner, waiting := s.waiting ++ begun s.runner runner }
        | .openSession _ =>
            some { s with runner, waiting := s.waiting ++ begun s.runner runner, coins := ∅ }
        | .close _ | .lose | .endSession => some { s with runner }

/-- The backstop polls all that the connection is subscribed to. -/
def Covered (s : Backstop) : Prop :=
  s.runner.conn.isSome → s.coins ⊆ s.symbols

/-- A `BuildSubscribe` names all coins of the connection, and those that are on their way to it. -/
def NamesAll (s : Backstop) : Act → Prop
  | .buildSubscribe t =>
      ∀ k ∈ s.runner.conn, s.coins ⊆ coinsOf t.syms ∧
        ∀ t' ∈ s.runner.sends, s.Ready t' → t'.kind = .subscribe → t'.conn = some k.id →
          ∀ frame ∈ t'.frames, coinsOf frame ⊆ coinsOf t.syms
  | .runner _ => True

instance (s : Backstop) : ∀ act, Decidable (s.NamesAll act)
  | .buildSubscribe _ => inferInstanceAs (Decidable (∀ k ∈ s.runner.conn, _))
  | .runner _ => isTrue trivial

/-! ## What is on its way -/

/-- The coins of the connection, and those on their way to it, are polled. -/
structure Polled (s : Backstop) : Prop where
  bounded : Bounded adapter s.runner
  framed : s.runner.Framed
  waits : ∀ t ∈ s.waiting, ∀ frame ∈ t.frames, coinsOf frame ⊆ coinsOf t.syms
  covered : s.Covered
  coming : ∀ k ∈ s.runner.conn, ∀ t, s.Ready t → t.kind = .subscribe → t.conn = some k.id →
    ∀ frame ∈ t.frames, coinsOf frame ⊆ s.symbols

end Backstop

section

variable {s : Backstop} {runner : Runner} {k : Conn} {t : Send}

theorem coinsOf_mono {syms syms' : List String} (part : ∀ sym ∈ syms, sym ∈ syms') :
    coinsOf syms ⊆ coinsOf syms' := by
  intro coin member
  rcases List.mem_map.mp (List.mem_toFinset.mp member) with ⟨sym, here, rfl⟩
  exact List.mem_toFinset.mpr (List.mem_map.mpr ⟨sym, part sym here, rfl⟩)

theorem Backstop.Ready.mem (ready : s.Ready t) : t ∈ s.runner.sends :=
  List.count_pos_iff.mp (Nat.lt_of_le_of_lt (Nat.zero_le _) ready)

/-- The goroutines that a call of `SetSymbols` starts come last. -/
theorem sends_subscribeAdded (a : Adapter) (r : Runner) (added : List String) :
    ∃ new, (r.subscribeAdded a added).sends = r.sends ++ new := by
  unfold Runner.subscribeAdded
  split
  · exact ⟨[], (List.append_nil _).symm⟩
  · split
    · exact ⟨[], (List.append_nil _).symm⟩
    · exact ⟨_, rfl⟩

theorem sends_setSymbols (a : Adapter) (r : Runner) (syms removed : List String) :
    ∃ new, (r.setSymbols a syms removed).sends = r.sends ++ new := by
  unfold Runner.setSymbols
  dsimp only
  split
  · exact sends_subscribeAdded a { r with symbols := syms.toFinset } _
  · split
    case h_1 =>
      rcases sends_subscribeAdded a _ (r.added syms) with ⟨new, same⟩
      rw [same]
      exact ⟨_, List.append_assoc _ _ _⟩
    case h_2 =>
      split
      · exact ⟨[], (List.append_nil _).symm⟩
      · exact ⟨[], (List.append_nil _).symm⟩

/-- A subscription that has just been started is not ready. -/
theorem ready_begun (new : List Send) (sends : runner.sends = s.runner.sends ++ new)
    (symbols coins : Finset String) (kind : t.kind = .subscribe)
    (ready : Backstop.Ready ⟨runner, symbols, s.waiting ++ begun s.runner runner, coins⟩ t) :
    s.Ready t := by
  have started : begun s.runner runner = new.filter fun t => t.kind = .subscribe := by
    unfold begun
    rw [sends, List.drop_left]
  have same : (new.filter fun t => t.kind = .subscribe).count t = new.count t :=
    List.count_filter (decide_eq_true kind)
  unfold Backstop.Ready at ready ⊢
  rw [started, sends, List.count_append, List.count_append, same] at ready
  omega

/-- Whatever the runner does, a frame names symbols of its goroutine. -/
theorem framed_step {r r' : Runner} {act : RunnerAct} (framed : r.Framed)
    (stepped : r.step adapter act = some r') : r'.Framed := by
  cases act with
  | setSymbols syms removed =>
      rcases Option.ite_none_right_eq_some.mp stepped with ⟨-, changed⟩
      cases changed
      exact framed_setSymbols framed (requested_of_setSymbols adapter r syms removed)
  | send t =>
      simp only [Runner.step] at stepped
      split at stepped
      · cases stepped
      case h_2 frame rest frames =>
        rcases Option.ite_none_right_eq_some.mp stepped with ⟨running, changed⟩
        cases changed
        rcases deliver_cases r t frame rest with ⟨k, -, -, -, sent⟩ | ⟨-, failed⟩
        · rw [sent]
          intro t' member
          rcases List.mem_cons.mp member with rfl | other
          · intro frame' later
            exact framed t running frame' (frames ▸ List.mem_cons_of_mem _ later)
          · exact framed_erase framed t' other
        · rw [failed]
          exact framed_erase framed
  | record t =>
      rcases Option.ite_none_right_eq_some.mp stepped with ⟨-, changed⟩
      cases changed
      exact framed_erase framed
  | close id =>
      rcases Option.ite_none_right_eq_some.mp stepped with ⟨-, changed⟩
      cases changed
      exact framed
  | lose =>
      rcases Option.map_eq_some_iff.mp stepped with ⟨k, -, changed⟩
      cases changed
      exact framed
  | endSession =>
      rcases Option.bind_eq_some_iff.mp stepped with ⟨k, -, ended⟩
      rcases Option.ite_none_left_eq_some.mp ended with ⟨-, changed⟩
      cases changed
      exact framed
  | openSession wantedSnap =>
      rcases Option.ite_none_right_eq_some.mp stepped with ⟨-, changed⟩
      cases changed
      intro t member
      rcases mem_sends_openSession.mp member with known | ⟨-, rfl⟩
      · exact framed t known
      · exact framed_subscribe _ _ _

theorem bounded_step_adapter {r r' : Runner} {act : RunnerAct} (bounded : Bounded adapter r)
    (stepped : r.step adapter act = some r') : Bounded adapter r' := by
  refine bounded_step bounded ?_ stepped
  cases act with
  | setSymbols syms removed => exact fun capped => absurd capped (Nat.lt_irrefl 0)
  | send _ | record _ | close _ | lose | endSession | openSession _ => exact trivial

theorem waits_begun {r : Runner} (polled : s.Polled) (framed : r.Framed) :
    ∀ t ∈ s.waiting ++ begun s.runner r, ∀ frame ∈ t.frames, coinsOf frame ⊆ coinsOf t.syms := by
  intro t member frame sent
  rcases List.mem_append.mp member with old | new
  · exact polled.waits t old frame sent
  · have running : t ∈ r.sends := List.mem_of_mem_drop (List.mem_filter.mp new).1
    exact coinsOf_mono (framed t running frame sent)

/-! ## Each step -/

theorem polled_buildSubscribe (polled : s.Polled) (names : s.NamesAll (.buildSubscribe t))
    (waiting : t ∈ s.waiting) :
    Backstop.Polled { s with symbols := coinsOf t.syms, waiting := s.waiting.erase t } := by
  refine ⟨polled.bounded, polled.framed, fun t' member => ?_, fun live => ?_,
    fun k live t' ready kind its frame sent => ?_⟩
  · exact polled.waits t' (List.mem_of_mem_erase member)
  · rcases Option.isSome_iff_exists.mp live with ⟨k, here⟩
    exact (names k here).1
  · by_cases same : t' = t
    · subst same
      exact polled.waits t' waiting frame sent
    · have before : s.Ready t' := by
        unfold Backstop.Ready at ready ⊢
        rw [List.count_erase_of_ne same] at ready
        exact ready
      exact (names k live).2 t' before.mem before kind its frame sent

theorem polled_setSymbols {syms removed : List String} {r : Runner} (polled : s.Polled)
    (stepped : s.runner.step adapter (.setSymbols syms removed) = some r) :
    Backstop.Polled { s with runner := r, waiting := s.waiting ++ begun s.runner r } := by
  have framed := framed_step polled.framed stepped
  have bounded := bounded_step_adapter polled.bounded stepped
  rcases Option.ite_none_right_eq_some.mp stepped with ⟨-, changed⟩
  cases changed
  have requested := requested_of_setSymbols adapter s.runner syms removed
  rcases sends_setSymbols adapter s.runner syms removed with ⟨new, sends⟩
  refine ⟨bounded, framed, waits_begun polled framed, fun live => ?_,
    fun k live t ready kind => ?_⟩
  · exact polled.covered (requested.conn ▸ live)
  · exact polled.coming k (requested.conn ▸ live) t (ready_begun _ sends _ _ kind ready) kind

theorem polled_openSession {wantedSnap : List String} {r : Runner} (polled : s.Polled)
    (stepped : s.runner.step adapter (.openSession wantedSnap) = some r) :
    Backstop.Polled
      { s with runner := r, waiting := s.waiting ++ begun s.runner r, coins := ∅ } := by
  have framed := framed_step polled.framed stepped
  have bounded := bounded_step_adapter polled.bounded stepped
  rcases Option.ite_none_right_eq_some.mp stepped with ⟨-, changed⟩
  cases changed
  refine ⟨bounded, framed, waits_begun polled framed, fun _ => Finset.empty_subset _,
    fun k live t ready kind its => ?_⟩
  cases live
  -- what is ready has been sent for an earlier connection
  have old : s.Ready t := by
    by_cases nothing : wantedSnap = []
    · exact ready_begun [] (by simp [nothing]) _ _ kind ready
    · exact ready_begun _ (by simp only [if_neg nothing]; rfl) _ _ kind ready
  exact absurd (polled.bounded.used t old.mem _ its) (Nat.lt_irrefl _)

/-- Goroutines that end send nothing new. -/
theorem ready_erase {r : Runner} {symbols coins : Finset String} {t' : Send}
    (sends : r.sends = s.runner.sends.erase t)
    (ready : Backstop.Ready ⟨r, symbols, s.waiting, coins⟩ t') : s.Ready t' := by
  unfold Backstop.Ready at ready ⊢
  rw [sends] at ready
  exact lt_of_lt_of_le ready (List.erase_sublist.count_le t')

theorem polled_record {r : Runner} (polled : s.Polled)
    (stepped : s.runner.step adapter (.record t) = some r) :
    Backstop.Polled { s with runner := r } := by
  have framed := framed_step polled.framed stepped
  have bounded := bounded_step_adapter polled.bounded stepped
  rcases Option.ite_none_right_eq_some.mp stepped with ⟨-, changed⟩
  cases changed
  exact ⟨bounded, framed, polled.waits, polled.covered,
    fun k live t' ready => polled.coming k live t' (ready_erase rfl ready)⟩

/-- A frame that is sent was on its way. -/
theorem delivered_subset {frame : List String} {rest : List (List String)} (polled : s.Polled)
    (live : s.runner.conn = some k) (ready : s.Ready t) (frames : t.frames = frame :: rest) :
    s.delivered t ⊆ s.symbols := by
  have covered : s.coins ⊆ s.symbols := polled.covered (Option.isSome_iff_exists.mpr ⟨k, live⟩)
  unfold Backstop.delivered
  rw [live, frames]
  dsimp only
  split
  case isTrue here =>
    cases kind : t.kind with
    | subscribe =>
        exact Finset.union_subset covered
          (polled.coming k live t ready kind here.1 frame (frames ▸ List.mem_cons_self))
    | unsubscribe => exact Finset.sdiff_subset.trans covered
  case isFalse => exact covered

theorem polled_send {r : Runner} (polled : s.Polled) (ready : s.Ready t)
    (stepped : s.runner.step adapter (.send t) = some r) :
    Backstop.Polled { s with runner := r, coins := s.delivered t } := by
  have framed := framed_step polled.framed stepped
  have bounded := bounded_step_adapter polled.bounded stepped
  simp only [Runner.step] at stepped
  split at stepped
  · cases stepped
  case h_2 frame rest frames =>
    rcases Option.ite_none_right_eq_some.mp stepped with ⟨running, changed⟩
    cases changed
    refine ⟨bounded, framed, polled.waits, fun live => ?_, fun k' live t' ready' kind its => ?_⟩
    · rcases deliver_cases s.runner t frame rest with ⟨k, here, -⟩ | ⟨-, failed⟩
      · exact delivered_subset polled here ready frames
      · simp only [failed] at live
        rcases Option.isSome_iff_exists.mp live with ⟨k, here⟩
        exact delivered_subset polled here ready frames
    · rcases deliver_cases s.runner t frame rest with ⟨k, here, -, -, sent⟩ | ⟨-, failed⟩
      · simp only [sent] at live ready'
        cases live
        rw [id_apply] at its
        by_cases same : t' = { t with frames := rest }
        · subst same
          intro frame' later
          exact polled.coming k here t ready kind its frame' (frames ▸ List.mem_cons_of_mem _ later)
        · refine polled.coming k here t' ?_ kind its
          unfold Backstop.Ready at ready' ⊢
          rw [List.count_cons_of_ne (fun eq => same eq.symm)] at ready'
          exact lt_of_lt_of_le ready' (List.erase_sublist.count_le t')
      · simp only [failed] at live ready'
        exact polled.coming k' live t' (ready_erase rfl ready') kind its

/-- The connection is lost, closed or let go. -/
theorem polled_conn {r : Runner} (polled : s.Polled) (bounded : Bounded adapter r)
    (framed : r.Framed) (sends : r.sends = s.runner.sends)
    (conn : ∀ k ∈ r.conn, ∃ k' ∈ s.runner.conn, k.id = k'.id) :
    Backstop.Polled { s with runner := r } := by
  refine ⟨bounded, framed, polled.waits, fun live => ?_, fun k live t ready kind its => ?_⟩
  · rcases Option.isSome_iff_exists.mp live with ⟨k, here⟩
    rcases conn k here with ⟨k', before, -⟩
    exact polled.covered (Option.isSome_iff_exists.mpr ⟨k', before⟩)
  · rcases conn k live with ⟨k', before, same⟩
    have old : s.Ready t := by
      unfold Backstop.Ready at ready ⊢
      rw [sends] at ready
      exact ready
    exact polled.coming k' before t old kind (same ▸ its)

theorem id_of_shut {r : Runner} {id : Nat} :
    ∀ k ∈ (r.shut id).conn, ∃ k' ∈ r.conn, k.id = k'.id := by
  intro k live
  rcases Option.map_eq_some_iff.mp live with ⟨k', known, changed⟩
  refine ⟨k', known, ?_⟩
  split at changed
  · exact changed ▸ rfl
  · exact changed ▸ rfl

theorem polled_step : Preserves Backstop.step Backstop.NamesAll Backstop.Polled := by
  intro s act s' polled names stepped
  cases act with
  | buildSubscribe t =>
      rcases Option.ite_none_right_eq_some.mp stepped with ⟨waiting, changed⟩
      cases changed
      exact polled_buildSubscribe polled names waiting
  | runner act =>
      rcases Option.bind_eq_some_iff.mp stepped with ⟨r, ran, changed⟩
      have bounded := bounded_step_adapter polled.bounded ran
      have framed := framed_step polled.framed ran
      cases act with
      | setSymbols syms removed =>
          cases changed
          exact polled_setSymbols polled ran
      | send t =>
          rcases Option.ite_none_right_eq_some.mp changed with ⟨ready, same⟩
          cases same
          exact polled_send polled ready ran
      | record t =>
          rcases Option.ite_none_right_eq_some.mp changed with ⟨ready, same⟩
          cases same
          exact polled_record polled ran
      | close id =>
          cases changed
          rcases Option.ite_none_right_eq_some.mp ran with ⟨-, same⟩
          cases same
          exact polled_conn polled bounded framed rfl id_of_shut
      | lose =>
          cases changed
          rcases Option.map_eq_some_iff.mp ran with ⟨k, -, same⟩
          cases same
          exact polled_conn polled bounded framed rfl id_of_shut
      | endSession =>
          cases changed
          rcases Option.bind_eq_some_iff.mp ran with ⟨k, -, ended⟩
          rcases Option.ite_none_left_eq_some.mp ended with ⟨-, same⟩
          cases same
          exact polled_conn polled bounded framed rfl unconnected
      | openSession wantedSnap =>
          cases changed
          exact polled_openSession polled ran

theorem polled_initial : Backstop.initial.Polled := by
  refine ⟨⟨?_, unconnected, fun _ => unconnected, fun _ => unconnected⟩, ?_, ?_, nofun, nofun⟩
  · intro t running
    cases running
  · intro t running
    cases running
  · intro t waiting
    cases waiting

end

/-- In every run in which each `BuildSubscribe` names all coins of the connection and on their way to
it, the backstop polls all that the connection is subscribed to. -/
theorem covered_of_namesAll {s : Backstop}
    (run : Run Backstop.step Backstop.NamesAll Backstop.initial s) : s.Covered :=
  (run.invariant polled_step polled_initial).covered

/-! ## A symbol more -/

/-- A session that begins with one symbol. -/
def oneSymbol : List Act :=
  [.runner (.setSymbols ["BTC"] []), .runner (.openSession ["BTC"]),
    .buildSubscribe (sending .subscribe 0 ["BTC"] true)] ++
    (sendAll (sending .subscribe 0 ["BTC"] true)).map Act.runner ++
    [.runner (recordAll (sending .subscribe 0 ["BTC"] true))]

/-- Another symbol is added to it. -/
def anotherSymbol : List Act :=
  [.runner (.setSymbols ["BTC", "ETH"] []),
    .buildSubscribe (sending .subscribe 0 ["ETH"] false)]

theorem covered_oneSymbol :
    ∃ s, execGuarded Backstop.step Backstop.NamesAll Backstop.initial oneSymbol = some s ∧
      s.Covered := by
  have ran : (execGuarded Backstop.step Backstop.NamesAll Backstop.initial oneSymbol).isSome := by
    decide +kernel
  rcases Option.isSome_iff_exists.mp ran with ⟨s, executed⟩
  exact ⟨s, executed, covered_of_namesAll (Run.of_execGuarded executed)⟩

theorem uncovered_anotherSymbol :
    ¬∀ s, Run Backstop.step (fun _ _ => True) Backstop.initial s → s.Covered := by
  intro always
  have ran : (exec Backstop.step Backstop.initial (oneSymbol ++ anotherSymbol)).map
      (fun s => (s.runner.conn.isSome, s.coins, s.symbols)) = some (true, {"BTC"}, {"ETH"}) := by
    decide +kernel
  rcases Option.map_eq_some_iff.mp ran with ⟨s, executed, view⟩
  rcases Prod.ext_iff.mp view with ⟨live, view⟩
  rcases Prod.ext_iff.mp view with ⟨coins, symbols⟩
  dsimp only at live coins symbols
  have covered := always s (Run.of_exec executed) live
  rw [coins, symbols] at covered
  exact absurd (covered (Finset.mem_singleton_self _)) (by decide)

end Hyperliquid

end Avalant
