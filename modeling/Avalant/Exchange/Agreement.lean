import Avalant.Exchange.Runner

/-!
What the runner records of a connection, and what the server at its other end is
subscribed to.

They agree as long as every goroutine records what the server of the live
connection holds, and none takes back a symbol that is wanted again.
-/

namespace Avalant

namespace Exchange

open Transition

/-- No goroutine sends to a connection. -/
def Runner.Quiet (s : Runner) (k : Conn) : Prop :=
  ∀ t ∈ s.sends, t.conn ≠ some k.id

/-- Every wanted symbol is among `held`, or as many of them as the cap allows. -/
def Adapter.Covers (a : Adapter) (symbols held : Finset String) : Prop :=
  symbols ⊆ held ∨ 0 < a.maxSymbols ∧ a.maxSymbols ≤ (symbols ∩ held).card

/-- Without a goroutine for the live connection, `subscribed` is what its server is subscribed to,
and no wanted symbol is missing while there is room for it among the wanted ones. -/
structure Agrees (a : Adapter) (s : Runner) : Prop where
  recorded : ∀ k ∈ s.conn, k.opened → s.Quiet k → s.subscribed = k.subs
  wanted : ∀ k ∈ s.conn, k.opened → s.Quiet k → k.id ∉ s.closes →
    a.Covers s.symbols s.subscribed

/-- The server holds what a goroutine records of a symbol. -/
def Send.Holds (t : Send) (k : Conn) (sym : String) : Prop :=
  match t.kind with
  | .subscribe => sym ∈ k.subs
  | .unsubscribe => sym ∉ k.subs

instance (t : Send) (k : Conn) (sym : String) : Decidable (t.Holds k sym) := by
  unfold Send.Holds
  cases t.kind <;> infer_instance

/-- While a connection is live, a goroutine ends when its server holds what is recorded of each of
the symbols that no other goroutine of the connection has, and none of those it takes back is wanted,
unless another subscribes to it. -/
def Runner.Orderly (s : Runner) : RunnerAct → Prop
  | .record t =>
      ∀ k ∈ s.conn, k.opened → ∀ sym ∈ t.syms,
        ((∃ t' ∈ s.sends.erase t, t'.conn = some k.id ∧ sym ∈ t'.syms) ∨ t.Holds k sym) ∧
          (t.kind = .unsubscribe → sym ∈ s.symbols → sym ∈ s.subscribed →
            ∃ t' ∈ s.sends.erase t, t'.kind = .subscribe ∧ t'.conn = some k.id ∧ sym ∈ t'.syms)
  | _ => True

instance (s : Runner) : ∀ act, Decidable (s.Orderly act)
  | .record _ => inferInstanceAs (Decidable (∀ k ∈ s.conn, _ → _))
  | .setSymbols _ _ | .send _ | .close _ | .lose | .endSession | .openSession _ => isTrue trivial

/-- In every run whose steps meet `ok`. -/
def AlwaysAgrees (a : Adapter) (ok : Runner → RunnerAct → Prop) : Prop :=
  ∀ s, Run (Runner.step a) ok Runner.initial s → Agrees a s

/-! ## The symbols of a connection -/

/-- The symbols that goroutines are subscribing to on a connection. -/
def Runner.pending (s : Runner) (k : Conn) : Finset String :=
  ((s.sends.filter fun t => t.kind = .subscribe ∧ t.conn = some k.id).flatMap Send.syms).toFinset

theorem mem_pending {s : Runner} {k : Conn} {sym : String} :
    sym ∈ s.pending k ↔
      ∃ t ∈ s.sends, t.kind = .subscribe ∧ t.conn = some k.id ∧ sym ∈ t.syms := by
  simp [Runner.pending, and_assoc]

/-- The symbols that are recorded, or will be. -/
def Runner.held (s : Runner) (k : Conn) : Finset String :=
  s.subscribed ∪ s.pending k

/-- Frames name the symbols of their goroutine. -/
def Runner.Framed (s : Runner) : Prop :=
  ∀ t ∈ s.sends, ∀ frame ∈ t.frames, ∀ sym ∈ frame, sym ∈ t.syms

/-- Without a connection there is nothing to hold of it. -/
theorem unconnected {P : Conn → Prop} : ∀ k ∈ (none : Option Conn), P k :=
  fun k live => absurd live (Option.not_mem_none k)

/-- The symbols that no goroutine of the live connection has agree, and the wanted ones are covered
unless the connection is about to be closed. -/
structure Tracks (a : Adapter) (s : Runner) : Prop where
  framed : s.Framed
  agree : ∀ k ∈ s.conn, k.opened → ∀ sym, (∀ t ∈ s.sends, t.conn = some k.id → sym ∉ t.syms) →
    (sym ∈ s.subscribed ↔ sym ∈ k.subs)
  covered : ∀ k ∈ s.conn, k.opened → k.id ∈ s.closes ∨ a.Covers s.symbols (s.held k)

section

variable {a : Adapter} {s s' : Runner} {k : Conn} {t : Send} {sym : String}

theorem held_of_quiet (quiet : s.Quiet k) : s.held k = s.subscribed := by
  unfold Runner.held
  refine Finset.union_eq_left.mpr fun sym member => ?_
  obtain ⟨t, running, -, here, -⟩ := mem_pending.mp member
  exact absurd here (quiet t running)

theorem agrees_of_tracks (tracks : Tracks a s) : Agrees a s := by
  refine ⟨fun k live opened quiet => ?_, fun k live opened quiet still => ?_⟩
  · ext sym
    exact tracks.agree k live opened sym fun t running here => absurd here (quiet t running)
  · have covers := (tracks.covered k live opened).resolve_left still
    rw [held_of_quiet quiet] at covers
    exact covers

/-- What is held of the wanted symbols does not shrink. -/
theorem covers_mono {symbols held held' : Finset String} (covers : a.Covers symbols held)
    (kept : ∀ sym ∈ symbols, sym ∈ held → sym ∈ held') : a.Covers symbols held' := by
  rcases covers with all | ⟨capped, full⟩
  · exact Or.inl fun sym member => kept sym member (all member)
  · refine Or.inr ⟨capped, full.trans (Finset.card_le_card fun sym member => ?_)⟩
    obtain ⟨wanted, known⟩ := Finset.mem_inter.mp member
    exact Finset.mem_inter.mpr ⟨wanted, kept sym wanted known⟩

theorem mem_of_mem_cut {syms : List String} (member : sym ∈ a.cut syms) : sym ∈ syms := by
  unfold Adapter.cut at member
  split at member
  · exact List.mem_of_mem_take member
  · exact member

/-- A batch covers what is missing. -/
theorem covers_of_cut {symbols held : Finset String} {added : List String} (distinct : added.Nodup)
    (wanted : ∀ sym ∈ added, sym ∈ symbols) (missing : ∀ sym ∈ symbols, sym ∈ held ∨ sym ∈ added)
    (sent : ∀ sym ∈ a.cut added, sym ∈ held) : a.Covers symbols held := by
  unfold Adapter.cut at sent
  split at sent
  case isTrue long =>
    refine Or.inr ⟨long.1, ?_⟩
    have batch : (added.take a.maxSymbols).toFinset ⊆ symbols ∩ held := by
      intro sym member
      have taken := List.mem_toFinset.mp member
      exact Finset.mem_inter.mpr ⟨wanted sym (List.mem_of_mem_take taken), sent sym taken⟩
    have size : (added.take a.maxSymbols).toFinset.card = a.maxSymbols := by
      rw [List.toFinset_card_of_nodup (distinct.take), List.length_take]
      omega
    exact size ▸ Finset.card_le_card batch
  case isFalse =>
    refine Or.inl fun sym member => ?_
    rcases missing sym member with known | new
    · exact known
    · exact sent sym new

/-! ## What the steps change -/

/-- The connection stays open when symbols are removed. -/
def Adapter.Stays (a : Adapter) (removed : List String) : Prop :=
  removed = [] ∨ a.buildUnsubscribe.isSome

instance (a : Adapter) (removed : List String) : Decidable (a.Stays removed) :=
  inferInstanceAs (Decidable (_ ∨ _))

/-- What a call of `SetSymbols` starts: an unsubscription of what is removed, a subscription to what is
added, or the end of the connection. -/
structure Requested (a : Adapter) (s : Runner) (syms removed : List String) (s' : Runner) : Prop where
  symbols : s'.symbols = syms.toFinset
  subscribed : s'.subscribed = s.subscribed
  conn : s'.conn = s.conn
  opens : s'.opens = s.opens
  kept : ∀ t ∈ s.sends, t ∈ s'.sends
  started : ∀ t ∈ s'.sends, t ∈ s.sends ∨
    (t.kind = .unsubscribe ∧ t.syms = removed ∧ t.conn = s.conn.map Conn.id ∧
      ∀ frame ∈ t.frames, ∀ sym ∈ frame, sym ∈ removed) ∨
    a.Stays removed ∧ ∃ k ∈ s.conn, t = a.subscribe k.id (s.added syms) false
  answered : a.Stays removed → ∀ k ∈ s.conn, s.added syms = [] ∨
    a.subscribe k.id (s.added syms) false ∈ s'.sends
  ended : ¬a.Stays removed → ∀ k ∈ s.conn, k.id ∈ s'.closes
  closing : ∀ id ∈ s'.closes, id ∈ s.closes ∨ ∃ k ∈ s.conn, k.id = id

theorem subscribeAdded_spec (a : Adapter) (s : Runner) (added : List String) :
    ∃ sends, s.subscribeAdded a added = { s with sends } ∧ (∀ t ∈ s.sends, t ∈ sends) ∧
      (∀ t ∈ sends, t ∈ s.sends ∨ ∃ k ∈ s.conn, t = a.subscribe k.id added false) ∧
      ∀ k ∈ s.conn, added = [] ∨ a.subscribe k.id added false ∈ sends := by
  obtain ⟨symbols, subscribed, conn, opens, sends, closes⟩ := s
  unfold Runner.subscribeAdded
  cases conn with
  | none => exact ⟨sends, rfl, fun _ member => member, fun _ => Or.inl, nofun⟩
  | some k =>
      dsimp only
      split
      case isTrue nothing =>
        exact ⟨sends, rfl, fun _ member => member, fun _ => Or.inl, fun _ _ => Or.inl nothing⟩
      case isFalse =>
        refine ⟨_, rfl, fun _ member => List.mem_append_left _ member, ?_, ?_⟩
        · intro t member
          rcases List.mem_append.mp member with known | new
          · exact Or.inl known
          · exact Or.inr ⟨k, rfl, List.mem_singleton.mp new⟩
        · intro _ given
          cases given
          exact Or.inr (List.mem_append_right _ (List.mem_singleton_self _))

theorem requested_of_setSymbols (a : Adapter) (s : Runner) (syms removed : List String) :
    Requested a s syms removed (s.setSymbols a syms removed) := by
  unfold Runner.setSymbols
  dsimp only
  split
  case isTrue nothing =>
    have stays : a.Stays removed := Or.inl nothing
    obtain ⟨sends, same, kept, started, answered⟩ :=
      subscribeAdded_spec a { s with symbols := syms.toFinset } (s.added syms)
    rw [same]
    refine ⟨rfl, rfl, rfl, rfl, kept, fun t member => ?_, fun _ => answered,
      fun leaves => absurd stays leaves, fun _ => Or.inl⟩
    exact (started t member).imp_right fun new => Or.inr ⟨stays, new⟩
  case isFalse something =>
    cases able : a.buildUnsubscribe with
    | some build =>
        have stays : a.Stays removed := Or.inr (by rw [able]; rfl)
        dsimp only
        generalize added : s.added syms = batch
        obtain ⟨sends, same, kept, started, answered⟩ := subscribeAdded_spec a
          { s with
            symbols := syms.toFinset
            sends := s.sends ++ [⟨.unsubscribe, s.conn.map Conn.id, removed,
              if s.conn.isSome then build removed else [], false⟩] } batch
        rw [same]
        refine ⟨rfl, rfl, rfl, rfl, fun t member => kept t (List.mem_append_left _ member),
          fun t member => ?_, fun _ => added ▸ answered, fun leaves => absurd stays leaves,
          fun _ => Or.inl⟩
        rcases started t member with known | new
        · rcases List.mem_append.mp known with old | leave
          · exact Or.inl old
          · have leaves := List.mem_singleton.mp leave
            subst leaves
            refine Or.inr (Or.inl ⟨rfl, rfl, rfl, fun frame sent sym named => ?_⟩)
            dsimp only at sent
            split at sent
            · exact (a.unsubscribes build able removed sym).mp
                (List.mem_flatten.mpr ⟨frame, sent, named⟩)
            · cases sent
        · exact Or.inr (Or.inr ⟨stays, added ▸ new⟩)
    | none =>
        have leaves : ¬a.Stays removed := by
          intro either
          rcases either with nothing | able'
          · exact something nothing
          · rw [able] at able'
            cases able'
        dsimp only
        obtain ⟨symbols, subscribed, conn, opens, sends, closes⟩ := s
        cases conn with
        | none =>
            exact ⟨rfl, rfl, rfl, rfl, fun _ member => member, fun _ => Or.inl, fun _ => nofun,
              fun _ => nofun, fun _ => Or.inl⟩
        | some k =>
            refine ⟨rfl, rfl, rfl, rfl, fun _ member => member, fun _ => Or.inl,
              fun stays => absurd stays leaves, fun _ => ?_, ?_⟩
            · intro _ given
              cases given
              exact List.mem_append_right _ (List.mem_singleton_self _)
            · intro id member
              rcases List.mem_append.mp member with known | new
              · exact Or.inl known
              · exact Or.inr ⟨k, rfl, (List.mem_singleton.mp new).symm⟩

/-! ## Each step -/

theorem framed_subscribe (id : Nat) (added : List String) (first : Bool) :
    ∀ frame ∈ (a.subscribe id added first).frames, ∀ sym ∈ frame,
      sym ∈ (a.subscribe id added first).syms :=
  fun frame sent sym named => (a.subscribes (a.cut added) sym).mp
    (List.mem_flatten.mpr ⟨frame, sent, named⟩)

theorem mem_added {syms : List String} : sym ∈ s.added syms ↔ sym ∈ syms ∧ sym ∉ s.subscribed := by
  unfold Runner.added
  rw [List.mem_filter, decide_eq_true_eq]

theorem framed_setSymbols {syms removed : List String} (framed : s.Framed)
    (requested : Requested a s syms removed s') : s'.Framed := by
  intro t running
  rcases requested.started t running with known | ⟨-, names, -, frames⟩ | ⟨-, k, -, rfl⟩
  · exact framed t known
  · exact names ▸ frames
  · exact framed_subscribe _ _ _

/-- What a subscription of a connection sends is held. -/
theorem held_of_subscribe {added : List String} {first : Bool}
    (running : a.subscribe k.id added first ∈ s.sends) : ∀ sym ∈ a.cut added, sym ∈ s.held k :=
  fun _ member => Finset.mem_union_right _ (mem_pending.mpr ⟨_, running, rfl, rfl, member⟩)

theorem tracks_setSymbols {syms removed : List String} (tracks : Tracks a s) (distinct : syms.Nodup)
    (requested : Requested a s syms removed s') : Tracks a s' := by
  refine ⟨framed_setSymbols tracks.framed requested, fun k live opened sym free => ?_,
    fun k live opened => ?_⟩
  · rw [requested.conn] at live
    rw [requested.subscribed]
    exact tracks.agree k live opened sym fun t running => free t (requested.kept t running)
  · have recorded : ∀ sym ∈ s.subscribed, sym ∈ s'.held k := fun sym member =>
      Finset.mem_union_left _ (requested.subscribed ▸ member)
    have missing : ∀ sym ∈ s'.symbols, sym ∈ s'.held k ∨ sym ∈ s.added syms := by
      intro sym wanted
      rw [requested.symbols, List.mem_toFinset] at wanted
      by_cases known : sym ∈ s.subscribed
      · exact Or.inl (recorded sym known)
      · exact Or.inr (mem_added.mpr ⟨wanted, known⟩)
    rw [requested.conn] at live
    by_cases stays : a.Stays removed
    case neg => exact Or.inl (requested.ended stays k live)
    rcases requested.answered stays k live with nothing | running
    · refine Or.inr (Or.inl fun sym wanted => (missing sym wanted).resolve_right ?_)
      rw [nothing]
      exact List.not_mem_nil
    · refine Or.inr (covers_of_cut (distinct.filter _) ?_ missing (held_of_subscribe running))
      intro sym new
      rw [requested.symbols, List.mem_toFinset]
      exact (mem_added.mp new).1

/-- A goroutine that goes on has the same symbols. -/
theorem mem_pending_erase (t t' : Send)
    (same : t'.kind = t.kind ∧ t'.conn = t.conn ∧ t'.syms = t.syms) (running : t ∈ s.sends) (member : sym ∈ s.pending k) :
    sym ∈ ({ s with sends := t' :: s.sends.erase t } : Runner).pending k := by
  obtain ⟨t'', known, kind, here, named⟩ := mem_pending.mp member
  refine mem_pending.mpr ?_
  by_cases it : t'' = t
  · subst it
    exact ⟨t', List.mem_cons_self, same.1 ▸ kind, same.2.1 ▸ here, same.2.2 ▸ named⟩
  · exact ⟨t'', List.mem_cons_of_mem _ ((List.mem_erase_of_ne it).mpr known), kind, here, named⟩

theorem framed_erase (framed : s.Framed) : ∀ t' ∈ s.sends.erase t, ∀ frame ∈ t'.frames,
    ∀ sym ∈ frame, sym ∈ t'.syms :=
  fun t' known => framed t' (List.mem_of_mem_erase known)

/-- A frame changes what the server holds of its own symbols. -/
theorem mem_apply {frame : List String} (other : sym ∉ frame) :
    sym ∈ (k.apply t.kind frame).subs ↔ sym ∈ k.subs := by
  unfold Conn.apply
  cases t.kind with
  | subscribe => simp [other]
  | unsubscribe => simp [other]

theorem id_apply {kind : Kind} {frame : List String} : (k.apply kind frame).id = k.id := by
  unfold Conn.apply
  cases kind with
  | subscribe => rfl
  | unsubscribe => rfl

/-- A frame goes out on the live connection, or the goroutine of another one ends. -/
theorem deliver_cases (s : Runner) (t : Send) (frame : List String) (rest : List (List String)) :
    (∃ k, s.conn = some k ∧ k.opened ∧ t.conn = some k.id ∧ s.deliver t frame rest =
        { s with
          conn := some (k.apply t.kind frame)
          sends := { t with frames := rest } :: s.sends.erase t }) ∨
      (∀ k ∈ s.conn, k.opened → t.conn ≠ some k.id) ∧
        s.deliver t frame rest = { s with sends := s.sends.erase t } := by
  unfold Runner.deliver
  cases s.conn with
  | none => exact Or.inr ⟨nofun, rfl⟩
  | some k =>
      by_cases here : t.conn = some k.id ∧ k.opened
      · exact Or.inl ⟨k, rfl, here.2, here.1, if_pos here⟩
      · refine Or.inr ⟨?_, if_neg here⟩
        intro _ given opened its
        cases given
        exact here ⟨its, opened⟩

/-- A frame leaves what is held of its connection. -/
theorem held_deliver {frame : List String} {rest : List (List String)} {k' : Conn}
    (running : t ∈ s.sends) (live' : k' ∈ (s.deliver t frame rest).conn) (opened' : k'.opened) :
    ∃ k ∈ s.conn, k.opened ∧ k'.id = k.id ∧ s.held k ⊆ (s.deliver t frame rest).held k' := by
  rcases deliver_cases s t frame rest with ⟨k, live, opened, here, sent⟩ | ⟨elsewhere, failed⟩
  · rw [sent] at live' ⊢
    cases live'
    refine ⟨k, live, opened, id_apply, fun sym held => ?_⟩
    rcases Finset.mem_union.mp held with known | coming
    · exact Finset.mem_union_left _ known
    · obtain ⟨t', known, kind, its, member⟩ := mem_pending.mp
        (mem_pending_erase t { t with frames := rest } ⟨rfl, rfl, rfl⟩ running coming)
      exact Finset.mem_union_right _
        (mem_pending.mpr ⟨t', known, kind, its.trans (congrArg some id_apply.symm), member⟩)
  · rw [failed] at live' ⊢
    refine ⟨k', live', opened', rfl, fun sym held => ?_⟩
    rcases Finset.mem_union.mp held with known | coming
    · exact Finset.mem_union_left _ known
    · obtain ⟨t', known, kind, its, member⟩ := mem_pending.mp coming
      have other : t' ≠ t := by
        intro same
        subst same
        exact elsewhere k' live' opened' its
      exact Finset.mem_union_right _
        (mem_pending.mpr ⟨t', (List.mem_erase_of_ne other).mpr known, kind, its, member⟩)

theorem tracks_deliver {frame : List String} {rest : List (List String)} (tracks : Tracks a s)
    (running : t ∈ s.sends) (frames : t.frames = frame :: rest) :
    Tracks a (s.deliver t frame rest) := by
  have named := tracks.framed t running
  have covered : ∀ k' ∈ (s.deliver t frame rest).conn, k'.opened → k'.id ∈ s.closes ∨
      a.Covers s.symbols ((s.deliver t frame rest).held k') := by
    intro k' live' opened'
    obtain ⟨k, live, opened, same, held⟩ := held_deliver running live' opened'
    rw [same]
    exact (tracks.covered k live opened).imp_right fun covers =>
      covers_mono covers fun sym _ known => held known
  rcases deliver_cases s t frame rest with ⟨k, live, opened, here, sent⟩ | ⟨elsewhere, failed⟩
  · rw [sent] at covered ⊢
    refine ⟨?_, ?_, covered⟩
    · intro t' known
      rcases List.mem_cons.mp known with rfl | other
      · exact fun frame' later => named frame' (frames ▸ List.mem_cons_of_mem _ later)
      · exact framed_erase tracks.framed t' other
    · intro _ given _ sym free
      cases given
      have same : k.id = (k.apply t.kind frame).id := id_apply.symm
      have spared : sym ∉ t.syms :=
        free { t with frames := rest } List.mem_cons_self (same ▸ here)
      have other : sym ∉ frame :=
        fun member => spared (named frame (frames ▸ List.mem_cons_self) sym member)
      refine (tracks.agree k live opened sym fun t' known its => ?_).trans (mem_apply other).symm
      by_cases it : t' = t
      · exact it ▸ spared
      · exact free t' (List.mem_cons_of_mem _ ((List.mem_erase_of_ne it).mpr known)) (same ▸ its)
  · rw [failed] at covered ⊢
    refine ⟨framed_erase tracks.framed, fun k live opened sym free => ?_, covered⟩
    refine tracks.agree k live opened sym fun t' known its => ?_
    have other : t' ≠ t := by
      intro same
      subst same
      exact elsewhere k live opened its
    exact free t' ((List.mem_erase_of_ne other).mpr known) its

theorem mem_recorded_of_spared {subscribed : Finset String} (spared : sym ∉ t.syms) :
    sym ∈ t.recorded subscribed ↔ sym ∈ subscribed := by
  unfold Send.recorded
  cases t.kind with
  | subscribe => simp [spared]
  | unsubscribe => simp [spared]

/-- What is recorded of the symbols of a goroutine. -/
theorem mem_recorded {subscribed : Finset String} (named : sym ∈ t.syms) :
    sym ∈ t.recorded subscribed ↔ t.kind = .subscribe := by
  unfold Send.recorded
  cases t.kind with
  | subscribe => simp [named]
  | unsubscribe => simp [named]

theorem holds_iff : t.Holds k sym ↔ (sym ∈ k.subs ↔ t.kind = .subscribe) := by
  unfold Send.Holds
  cases t.kind with
  | subscribe => simp
  | unsubscribe => simp

/-- A goroutine that ends in order leaves what is held of the wanted symbols. -/
theorem held_record (orderly : s.Orderly (.record t)) (live : k ∈ s.conn) (opened : k.opened)
    (wanted : sym ∈ s.symbols) (held : sym ∈ s.held k) :
    sym ∈ ({ s with subscribed := t.recorded s.subscribed, sends := s.sends.erase t } :
      Runner).held k := by
  have kept : ∀ t' ∈ s.sends, t' ≠ t → t'.kind = .subscribe → t'.conn = some k.id →
      sym ∈ t'.syms → sym ∈ ({ s with subscribed := t.recorded s.subscribed
                                      sends := s.sends.erase t } : Runner).held k :=
    fun t' known other kind its member => Finset.mem_union_right _ (mem_pending.mpr
      ⟨t', (List.mem_erase_of_ne other).mpr known, kind, its, member⟩)
  by_cases named : sym ∈ t.syms
  · cases kind : t.kind with
    | subscribe => exact Finset.mem_union_left _ ((mem_recorded named).mpr kind)
    | unsubscribe =>
        rcases Finset.mem_union.mp held with known | coming
        · obtain ⟨t', other, kind', its, member⟩ :=
            (orderly k live opened sym named).2 kind wanted known
          exact Finset.mem_union_right _ (mem_pending.mpr ⟨t', other, kind', its, member⟩)
        · obtain ⟨t', known, kind', its, member⟩ := mem_pending.mp coming
          have other : t' ≠ t := by
            intro same
            subst same
            rw [kind] at kind'
            cases kind'
          exact kept t' known other kind' its member
  · rcases Finset.mem_union.mp held with known | coming
    · exact Finset.mem_union_left _ ((mem_recorded_of_spared named).mpr known)
    · obtain ⟨t', known, kind, its, member⟩ := mem_pending.mp coming
      exact kept t' known (fun same => named (same ▸ member)) kind its member

theorem tracks_record (tracks : Tracks a s) (orderly : s.Orderly (.record t)) :
    Tracks a { s with subscribed := t.recorded s.subscribed, sends := s.sends.erase t } := by
  refine ⟨framed_erase tracks.framed, fun k live opened sym free => ?_, fun k live opened => ?_⟩
  · by_cases named : sym ∈ t.syms
    · have holds := (orderly k live opened sym named).1.resolve_left ?_
      · exact (mem_recorded named).trans (holds_iff.mp holds).symm
      · intro shared
        rcases shared with ⟨t', other, its, member⟩
        exact free t' other its member
    · refine (mem_recorded_of_spared named).trans (tracks.agree k live opened sym ?_)
      intro t' known its member
      have other : t' ≠ t := fun same => named (same ▸ member)
      exact free t' ((List.mem_erase_of_ne other).mpr known) its member
  · exact (tracks.covered k live opened).imp_right fun covers =>
      covers_mono covers fun sym wanted held => held_record orderly live opened wanted held

/-- The connection is another one, or the same and no longer open. -/
theorem conn_of_shut {id : Nat} (live : k ∈ (s.shut id).conn) (opened : k.opened) :
    k ∈ s.conn ∧ k.id ≠ id := by
  obtain ⟨k', known, changed⟩ := Option.map_eq_some_iff.mp live
  split at changed
  case isTrue =>
    subst changed
    cases opened
  case isFalse other =>
    subst changed
    exact ⟨known, other⟩

theorem tracks_shut {id : Nat} (tracks : Tracks a s) (closes : List Nat)
    (rest : ∀ id' ∈ s.closes, id' ≠ id → id' ∈ closes) :
    Tracks a { s.shut id with closes } := by
  refine ⟨tracks.framed, fun k live opened => ?_, fun k live opened => ?_⟩
  · exact tracks.agree k (conn_of_shut live opened).1 opened
  · obtain ⟨known, other⟩ := conn_of_shut live opened
    exact (tracks.covered k known opened).imp_left fun closing => rest k.id closing other

/-- The goroutines of a new session. -/
theorem mem_sends_openSession {wantedSnap : List String} :
    t ∈ (if wantedSnap = [] then s.sends
      else s.sends ++ [a.subscribe s.opens wantedSnap true]) ↔
        t ∈ s.sends ∨ wantedSnap ≠ [] ∧ t = a.subscribe s.opens wantedSnap true := by
  by_cases nothing : wantedSnap = []
  · rw [if_pos nothing, or_iff_left fun new => new.1 nothing]
  · rw [if_neg nothing, List.mem_append, List.mem_singleton, and_iff_right nothing]

theorem tracks_openSession {wantedSnap : List String} (tracks : Tracks a s)
    (distinct : wantedSnap.Nodup) (every : wantedSnap.toFinset = s.symbols) :
    Tracks a { s with
      subscribed := ∅
      conn := some ⟨s.opens, true, ∅⟩
      opens := s.opens + 1
      sends := if wantedSnap = [] then s.sends
        else s.sends ++ [a.subscribe s.opens wantedSnap true] } := by
  have listed : ∀ sym ∈ s.symbols, sym ∈ wantedSnap :=
    fun sym wanted => List.mem_toFinset.mp (every ▸ wanted)
  refine ⟨fun t running => ?_, ?_, ?_⟩
  · rcases mem_sends_openSession.mp running with known | ⟨-, rfl⟩
    · exact tracks.framed t known
    · exact framed_subscribe _ _ _
  · intro _ given _ sym _
    cases given
    exact iff_of_false (Finset.notMem_empty sym) (Finset.notMem_empty sym)
  · intro _ given _
    cases given
    refine Or.inr ?_
    by_cases nothing : wantedSnap = []
    · refine Or.inl fun sym wanted => ?_
      have member := listed sym wanted
      rw [nothing] at member
      cases member
    · refine covers_of_cut distinct (fun sym member => ?_)
        (fun sym wanted => Or.inr (listed sym wanted))
        (held_of_subscribe (mem_sends_openSession.mpr (Or.inr ⟨nothing, rfl⟩)))
      exact every ▸ List.mem_toFinset.mpr member

theorem tracks_step : Preserves (Runner.step a) Runner.Orderly (Tracks a) := by
  intro s act s' tracks orderly stepped
  cases act with
  | setSymbols syms removed =>
      obtain ⟨⟨distinct, -, -⟩, changed⟩ := Option.ite_none_right_eq_some.mp stepped
      cases changed
      exact tracks_setSymbols tracks distinct (requested_of_setSymbols a s syms removed)
  | send t =>
      obtain ⟨frame, rest, frames, running, rfl⟩ := Runner.step_send stepped
      exact tracks_deliver tracks running frames
  | record t =>
      obtain ⟨-, changed⟩ := Option.ite_none_right_eq_some.mp stepped
      cases changed
      exact tracks_record tracks orderly
  | close id =>
      obtain ⟨-, changed⟩ := Option.ite_none_right_eq_some.mp stepped
      cases changed
      exact tracks_shut tracks _ fun id' closing other =>
        (List.mem_erase_of_ne other).mpr closing
  | lose =>
      obtain ⟨k, -, changed⟩ := Option.map_eq_some_iff.mp stepped
      cases changed
      exact tracks_shut tracks s.closes fun _ closing _ => closing
  | endSession =>
      obtain ⟨k, -, ended⟩ := Option.bind_eq_some_iff.mp stepped
      obtain ⟨-, changed⟩ := Option.ite_none_left_eq_some.mp ended
      cases changed
      exact ⟨tracks.framed, unconnected, unconnected⟩
  | openSession wantedSnap =>
      obtain ⟨⟨-, distinct, every⟩, changed⟩ := Option.ite_none_right_eq_some.mp stepped
      cases changed
      exact tracks_openSession tracks distinct every

end

/-! ## Every run -/

/-- An adapter with a frame for each symbol. -/
def perSymbol (maxSymbols : Nat) (unsubscriber : Bool) : Adapter where
  maxSymbols
  buildSubscribe syms := syms.map fun sym => [sym]
  buildUnsubscribe := if unsubscriber then some fun syms => syms.map fun sym => [sym] else none
  subscribes := by simp
  unsubscribes := by
    intro build known
    cases unsubscriber with
    | true =>
        cases known
        simp
    | false => cases known

/-- A goroutine of `perSymbol`. -/
def sending (kind : Kind) (id : Nat) (syms : List String) (first : Bool) : Send :=
  ⟨kind, some id, syms, syms.map fun sym => [sym], first⟩

/-- Such a goroutine sends all its frames. -/
def sendAll (t : Send) : List RunnerAct :=
  t.frames.tails.filterMap fun frames => if frames = [] then none else some (.send { t with frames })

/-- The end of such a goroutine. -/
def recordAll (t : Send) : RunnerAct := .record { t with frames := [] }

/-- A symbol is exchanged for another, each goroutine on its own. -/
example : ((execGuarded (Runner.step (perSymbol 0 true)) Runner.Orderly Runner.initial
    ([.setSymbols ["BTC"] [], .openSession ["BTC"]] ++
      sendAll (sending .subscribe 0 ["BTC"] true) ++
      [recordAll (sending .subscribe 0 ["BTC"] true), .setSymbols ["ETH"] ["BTC"]] ++
      sendAll (sending .subscribe 0 ["ETH"] false) ++
      sendAll (sending .unsubscribe 0 ["BTC"] false) ++
      [recordAll (sending .unsubscribe 0 ["BTC"] false),
        recordAll (sending .subscribe 0 ["ETH"] false)])).map Runner.subscribed) =
      some {"ETH"} := by
  decide +kernel

/-- A symbol is removed while its subscription is on its way: the server is told to leave it before
it is recorded. -/
def removalRun : List RunnerAct :=
  [.openSession [], .setSymbols ["BTC"] []] ++ sendAll (sending .subscribe 0 ["BTC"] false) ++
    [.setSymbols [] ["BTC"]] ++ sendAll (sending .unsubscribe 0 ["BTC"] false) ++
    [recordAll (sending .unsubscribe 0 ["BTC"] false),
      recordAll (sending .subscribe 0 ["BTC"] false)]

/-- A goroutine of a lost connection records its symbol for the next one. -/
def staleRun : List RunnerAct :=
  [.openSession [], .setSymbols ["BTC"] []] ++ sendAll (sending .subscribe 0 ["BTC"] false) ++
    [.lose, .endSession, .setSymbols [] ["BTC"], .openSession [],
      recordAll (sending .subscribe 0 ["BTC"] false)]

/-- A run that ends with a record of a symbol the server does not have. -/
theorem not_agrees {a : Adapter} (as : List RunnerAct)
    (ran : (exec (Runner.step a) Runner.initial as).map
      (fun s => (s.conn.map fun k => (k.opened, k.subs), s.sends, s.subscribed)) =
        some (some (true, ∅), [], {"BTC"})) : ¬AlwaysAgrees a fun _ _ => True := by
  intro always
  obtain ⟨s, executed, view⟩ := Option.map_eq_some_iff.mp ran
  obtain ⟨live, view⟩ := Prod.ext_iff.mp view
  obtain ⟨quiet, recorded⟩ := Prod.ext_iff.mp view
  obtain ⟨k, known, held⟩ := Option.map_eq_some_iff.mp live
  obtain ⟨opened, subs⟩ := Prod.ext_iff.mp held
  dsimp only at quiet recorded opened subs
  have idle : s.Quiet k := by
    intro t running
    rw [quiet] at running
    cases running
  have same := (always s (Run.of_exec executed)).recorded k known opened idle
  rw [recorded, subs] at same
  exact Finset.singleton_ne_empty _ same

end Exchange

end Avalant
