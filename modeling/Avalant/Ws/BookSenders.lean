import Avalant.Ws.BookFlight

/-!
What each sender of the book channel leaves in flight and has sent.
-/

namespace Avalant

namespace BookChannel

variable {s s' : BookChannel}

/-! ## Hooks -/

/-- The hook at a place is replaced by one whose stamp is the old one or the time. -/
theorem Ordered.setHook (ordered : s.Ordered) {k : Nat} {h h' : Hook} (here : s.hooks[k]? = some h)
    (pair : h'.pair = h.pair)
    (stamps : ∀ t, h'.phase.stampedAt = some t → h.phase.stampedAt = some t ∨ t = s.clock) :
    (s.setHook k h').Ordered := by
  refine ordered.of_still rfl rfl rfl ordered.mirrored (fun i p x flies => ?_) fun _ _ _ => id
  rcases mem_inFlight.mp flies with ⟨h₁, member, waits⟩ | rest
  · rcases List.mem_or_eq_of_mem_set member with old | rfl
    · exact .inl (mem_inFlight.mpr (.inl ⟨h₁, old, waits⟩))
    · obtain ⟨same, t, stamped, rfl⟩ := mem_waits.mp waits
      rcases stamps t stamped with before | now
      · have waits' : unixMilli t ∈ h.waits p := mem_waits.mpr ⟨pair ▸ same, t, before, rfl⟩
        exact .inl (mem_inFlight.mpr (.inl ⟨h, List.mem_of_getElem? here, waits'⟩))
      · rw [now]
        exact .inr (ordered.brings_now i p)
  · exact .inl (mem_inFlight.mpr (.inr rest))

theorem Ordered.dropHook (ordered : s.Ordered) (k : Nat) : (s.dropHook k).Ordered := by
  refine ordered.of_still rfl rfl rfl ordered.mirrored (fun i p x flies => .inl ?_) fun _ _ _ => id
  rcases mem_inFlight.mp flies with ⟨h, member, waits⟩ | rest
  · exact mem_inFlight.mpr (.inl ⟨h, List.mem_of_mem_eraseIdx member, waits⟩)
  · exact mem_inFlight.mpr (.inr rest)

/-! ## Frames to the subscribers -/

/-- A frame goes to every subscriber, with nothing older in flight. -/
theorem Ordered.push (ordered : s.Ordered) {pair : Pair} {frame : BookFrame} (full : List Nat)
    (flies : ∀ i, frame.ts ∈ s.inFlight i pair) (earliest : s.EarliestForAll pair frame.ts) :
    (s.push pair frame full).Ordered := by
  refine ⟨ordered.stored, ordered.mirrored, ordered.flying, fun i c p sub here found => ?_⟩
  unfold BookChannel.push at here
  rw [List.getElem?_mapIdx] at here
  obtain ⟨c₀, before, rfl⟩ := Option.map_eq_some_iff.mp here
  cases opened : c₀.isOpen with
  | false =>
      rw [BookClient.push_of_closed opened] at found
      exact ordered.subs i c₀ p sub before found
  | true =>
      rw [BookClient.lookup_push opened] at found
      split at found
      case isFalse => exact ordered.subs i c₀ p sub before found
      case isTrue same =>
        subst same
        obtain ⟨sub₀, known, rfl⟩ := Option.map_eq_some_iff.mp found
        have fine := ordered.subs i c₀ p sub₀ before known
        have inRange : i ∈ List.range s.clients.length := by
          obtain ⟨bound, -⟩ := List.getElem?_eq_some_iff.mp before
          exact List.mem_range.mpr bound
        have wants : (s.clients[i]?).any (·.wants p) = true := by
          rw [before]
          simp [BookClient.wants, opened, known]
        have first := earliest i inRange wants
        have marked := fine.mark (fine.ahead _ (flies i)) (ordered.flying i p _ (flies i)) first
        exact marked.put rfl _

/-! ## One client -/

/-- A step that changes one client and what is in flight to it. -/
theorem Ordered.of_client (ordered : s.Ordered) {i : Nat} {c : BookClient}
    (clients : s'.clients = s.clients.set i c) (clock : s'.clock = s.clock)
    (store : s'.store = s.store) (entries : s'.loop.entries = s.loop.entries)
    (others : ∀ j p, j ≠ i → (∀ x ∈ s'.inFlight j p, x ∈ s.inFlight j p) ∧
      ∀ x ∈ s'.marked j p, x ∈ s.marked j p)
    (past : ∀ p, ∀ x ∈ s'.inFlight i p, x ≤ unixMilli s.clock)
    (fine : ∀ p sub, c.subs.lookup p = some sub →
      sub.Fine (unixMilli s.clock) (s'.inFlight i p) (s'.marked i p)) : s'.Ordered := by
  refine ⟨?_, ?_, fun j p x flies => ?_, fun j c' p sub here found => ?_⟩
  · rw [store, clock]
    exact ordered.stored
  · rw [entries, clock]
    exact ordered.mirrored
  · rw [clock]
    by_cases same : j = i
    · subst same
      exact past p x flies
    · exact ordered.flying j p x ((others j p same).1 x flies)
  · rw [clock]
    rw [clients] at here
    by_cases same : j = i
    · subst same
      obtain ⟨bound, rfl⟩ : j < s.clients.length ∧ c' = c := by
        obtain ⟨bound, there⟩ := List.getElem?_eq_some_iff.mp here
        rw [List.getElem_set_self] at there
        exact ⟨by simpa using bound, there.symm⟩
      exact fine p sub found
    · rw [List.getElem?_set_ne (Ne.symm same)] at here
      obtain ⟨flies, marks⟩ := others j p same
      exact (ordered.subs j c' p sub here found).mono (Nat.le_refl _)
        (fun x member => .inl (flies x member)) marks

/-! ## The tick -/

theorem entryFor_le (ordered : s.Ordered) {p : Pair} {frame : BookFrame}
    (entry : s.entryFor s.loop.entries p = some frame) : frame.ts ≤ unixMilli s.clock := by
  unfold entryFor at entry
  rcases Option.or_eq_some_iff.mp entry with answered | ⟨-, cached⟩
  · exact ordered.mirrored ⟨p, frame⟩ (AList.mem_lookup_iff.mp answered)
  · obtain ⟨e, -, rfl⟩ := Option.map_eq_some_iff.mp cached
    exact Nat.le_refl _

/-- A payload has pairs that have advanced. -/
theorem lookup_payload {entries : Frames} {c : BookClient} {p : Pair} {frame : BookFrame}
    (found : (s.payload entries c).lookup p = some frame) :
    ∃ sub, c.subs.lookup p = some sub ∧ sub.last < frame.ts ∧ s.entryFor entries p = some frame := by
  unfold payload at found
  have known : ∀ e ∈ c.subs.entries, c.subs.lookup e.1 = some e.2 :=
    fun e member => AList.mem_lookup_iff.mpr member
  generalize c.subs.entries = subs at found known
  have start : ∀ frame', (∅ : Frames).lookup p = some frame' →
      ∃ sub, c.subs.lookup p = some sub ∧ sub.last < frame'.ts ∧
        s.entryFor entries p = some frame' := by
    intro frame' none
    rw [AList.lookup_empty] at none
    cases none
  generalize (∅ : Frames) = payload at found start
  induction subs generalizing payload with
  | nil => exact start frame found
  | cons e subs ih =>
      rw [List.foldl_cons] at found
      refine ih (fun e' member => known e' (List.mem_cons_of_mem _ member)) _ found fun frame' => ?_
      split
      case h_1 => exact start frame'
      case h_2 frame₁ entry =>
        split
        case isTrue => exact start frame'
        case isFalse advanced =>
          by_cases here : p = e.1
          · subst here
            rw [AList.lookup_insert]
            intro given
            cases given
            exact ⟨e.2, known e List.mem_cons_self, Nat.lt_of_not_le advanced, entry⟩
          · rw [AList.lookup_insert_ne here]
            exact start frame'

/-- A tick marks what it will put. -/
theorem Ordered.mark_payload (ordered : s.Ordered) {i : Nat} {c : BookClient} {loop : BookLoop}
    (here : s.clients[i]? = some c)
    (earliest : ∀ frame ∈ (s.payload s.loop.entries c).entries, s.Earliest i frame.1 frame.2.ts)
    (entries : loop.entries = s.loop.entries) (flushed : loop.flushed = ∅)
    (posted : ∀ j p, ∀ x ∈ (loop.posted j).ts p, j = i ∧ x ∈ (s.payload s.loop.entries c).ts p) :
    Ordered { s.setClient i (c.updateAll (s.payload s.loop.entries c)
      fun frame sub => sub.mark frame.ts) with loop } := by
  -- A timestamp of the payload is new to the client, and nothing older is in flight.
  have advances : ∀ p frame, (s.payload s.loop.entries c).lookup p = some frame →
      ∃ sub, c.subs.lookup p = some sub ∧ sub.last ≤ frame.ts ∧ frame.ts ≤ unixMilli s.clock ∧
        s.Earliest i p frame.ts := by
    intro p frame found
    obtain ⟨sub, known, newer, entry⟩ := lookup_payload found
    have first := earliest ⟨p, frame⟩ (AList.mem_lookup_iff.mp found)
    exact ⟨sub, known, Nat.le_of_lt newer, entryFor_le ordered entry, first⟩
  have flies : ∀ j p, ∀ x ∈ inFlight { s.setClient i (c.updateAll (s.payload s.loop.entries c)
      fun frame sub => sub.mark frame.ts) with loop } j p,
      x ∈ s.inFlight j p ∨ (j = i ∧ x ∈ (s.payload s.loop.entries c).ts p) := by
    intro j p x member
    rcases mem_inFlight.mp member with hook | pending | flush | post | initial
    · exact .inl (mem_inFlight.mpr (.inl hook))
    · exact .inl (mem_inFlight.mpr (.inr (.inl pending)))
    · rw [flushed] at flush
      cases flush
    · exact .inr (posted j p x post)
    · exact .inl (mem_inFlight.mpr (.inr (.inr (.inr (.inr initial)))))
  have marks : ∀ j p, ∀ x ∈ marked { s.setClient i (c.updateAll (s.payload s.loop.entries c)
      fun frame sub => sub.mark frame.ts) with loop } j p,
      x ∈ s.marked j p ∨ (j = i ∧ x ∈ (s.payload s.loop.entries c).ts p) := by
    intro j p x member
    rcases List.mem_append.mp member with post | initial
    · exact .inr (posted j p x post)
    · exact .inl (List.mem_append_right _ initial)
  refine ordered.of_client rfl rfl rfl entries (fun j p other => ⟨fun x member => ?_,
    fun x member => ?_⟩) (fun p x member => ?_) fun p sub found => ?_
  · rcases flies j p x member with old | ⟨same, -⟩
    · exact old
    · exact absurd same other
  · rcases marks j p x member with old | ⟨same, -⟩
    · exact old
    · exact absurd same other
  · rcases flies i p x member with old | ⟨-, new⟩
    · exact ordered.flying i p x old
    · obtain ⟨frame, found, rfl⟩ := mem_ts.mp new
      obtain ⟨-, -, -, past, -⟩ := advances p frame found
      exact past
  · rw [BookClient.lookup_updateAll] at found
    obtain ⟨sub₀, known, rfl⟩ := Option.map_eq_some_iff.mp found
    have fine := ordered.subs i c p sub₀ here known
    cases paid : (s.payload s.loop.entries c).lookup p with
    | none =>
        have nothing : ∀ x, x ∉ (s.payload s.loop.entries c).ts p := by
          intro x member
          obtain ⟨frame, found, -⟩ := mem_ts.mp member
          cases paid.symm.trans found
        refine fine.mono (Nat.le_refl _) (fun x member => ?_) fun x member => ?_
        · rcases flies i p x member with old | ⟨-, new⟩
          · exact .inl old
          · exact absurd new (nothing x)
        · rcases marks i p x member with old | ⟨-, new⟩
          · exact old
          · exact absurd new (nothing x)
    | some frame =>
        have only : ∀ x ∈ (s.payload s.loop.entries c).ts p, x = frame.ts := by
          intro x member
          obtain ⟨frame', found, rfl⟩ := mem_ts.mp member
          cases paid.symm.trans found
          rfl
        obtain ⟨sub₁, known', advanced, past, first⟩ := advances p frame paid
        cases known.symm.trans known'
        have marked := fine.mark advanced past first
        refine ⟨marked.sorted, marked.below, marked.past, fun x member => ?_, fun x member => ?_⟩
        · rcases flies i p x member with old | ⟨-, new⟩
          · exact marked.ahead x old
          · exact Nat.le_of_eq (only x new).symm
        · rcases marks i p x member with old | ⟨-, new⟩
          · exact marked.caught x old
          · exact Nat.le_of_eq (only x new)

/-- A tick puts what it has marked. -/
theorem Ordered.put_payload (ordered : s.Ordered) {i : Nat} {c : BookClient}
    {payload entries : Frames} {clients : List Nat} (full : Bool)
    (loop : s.loop = .posting i payload entries clients) (here : s.clients[i]? = some c) :
    Ordered { s.setClient i (c.updateAll payload fun frame sub => sub.put frame full) with
      loop := .visiting entries clients } := by
  have posted : s.loop.posted i = payload := by
    rw [loop]
    exact if_pos rfl
  have flies : ∀ j p, ∀ x ∈ inFlight { s.setClient i (c.updateAll payload
      fun frame sub => sub.put frame full) with loop := .visiting entries clients } j p,
      x ∈ s.inFlight j p := by
    intro j p x member
    rcases mem_inFlight.mp member with hook | pending | flush | post | initial
    · exact mem_inFlight.mpr (.inl hook)
    · exact mem_inFlight.mpr (.inr (.inl pending))
    · cases flush
    · cases post
    · exact mem_inFlight.mpr (.inr (.inr (.inr (.inr initial))))
  have marks : ∀ j p, ∀ x ∈ marked { s.setClient i (c.updateAll payload
      fun frame sub => sub.put frame full) with loop := .visiting entries clients } j p,
      x ∈ s.marked j p := by
    intro j p x member
    rcases List.mem_append.mp member with post | initial
    · cases post
    · exact List.mem_append_right _ initial
  refine ordered.of_client rfl rfl rfl ?_ (fun j p _ => ⟨flies j p, marks j p⟩)
    (fun p x member => ordered.flying i p x (flies i p x member)) fun p sub found => ?_
  · rw [loop]
    rfl
  · rw [BookClient.lookup_updateAll] at found
    obtain ⟨sub₀, known, rfl⟩ := Option.map_eq_some_iff.mp found
    have fine := ordered.subs i c p sub₀ here known
    have less := fine.mono (Nat.le_refl _) (fun x member => .inl (flies i p x member)) (marks i p)
    cases paid : payload.lookup p with
    | none => exact less
    | some frame =>
        have sent : frame.ts ∈ (s.loop.posted i).ts p := by
          rw [posted]
          exact mem_ts.mpr ⟨frame, paid, rfl⟩
        have caught := fine.caught frame.ts (List.mem_append_left _ sent)
        have ahead := fine.ahead frame.ts (mem_inFlight.mpr (.inr (.inr (.inr (.inl sent)))))
        exact less.put (Nat.le_antisymm caught ahead) full

/-! ## Snapshots for new subscriptions -/

theorem mem_waits_initial {n : Initial} {i x : Nat} {p : Pair} : x ∈ n.waits i p ↔
    (n.client = i ∧ n.pair = p) ∧ ∃ frame, n.phase.frame = some frame ∧ frame.ts = x := by
  unfold Initial.waits
  split
  case isTrue same => simp [same]
  case isFalse other => simp [other]

theorem mem_marked_initial {n : Initial} {i x : Nat} {p : Pair} : x ∈ n.marked i p ↔
    (n.client = i ∧ n.pair = p) ∧ ∃ frame, n.phase.markedFrame = some frame ∧ frame.ts = x := by
  unfold Initial.marked
  split
  case isTrue same => simp [same]
  case isFalse other => simp [other]

theorem mem_marked {i x : Nat} {p : Pair} : x ∈ s.marked i p ↔
    x ∈ (s.loop.posted i).ts p ∨ ∃ n ∈ s.initials, x ∈ n.marked i p := by
  unfold marked
  rw [List.mem_append, List.mem_flatMap]

theorem Ordered.dropInitial (ordered : s.Ordered) (k : Nat) : (s.dropInitial k).Ordered := by
  refine ordered.of_still rfl rfl rfl ordered.mirrored (fun i p x flies => .inl ?_)
    fun i p x member => ?_
  · rcases mem_inFlight.mp flies with hook | pending | flush | post | ⟨n, known, waits⟩
    · exact mem_inFlight.mpr (.inl hook)
    · exact mem_inFlight.mpr (.inr (.inl pending))
    · exact mem_inFlight.mpr (.inr (.inr (.inl flush)))
    · exact mem_inFlight.mpr (.inr (.inr (.inr (.inl post))))
    · exact mem_inFlight.mpr
        (.inr (.inr (.inr (.inr ⟨n, List.mem_of_mem_eraseIdx known, waits⟩))))
  · rcases mem_marked.mp member with post | ⟨n, known, waits⟩
    · exact mem_marked.mpr (.inl post)
    · exact mem_marked.mpr (.inr ⟨n, List.mem_of_mem_eraseIdx known, waits⟩)

/-- The entry of the cache is not older than what the client has been sent. -/
theorem Ordered.readInitial (ordered : s.Ordered) {k i : Nat} {pair : Pair} {frame : BookFrame}
    (cached : s.initialFrame pair = some frame)
    (newer : ∀ c ∈ s.clients[i]?, ∀ sub ∈ c.subs.lookup pair, sub.last ≤ frame.ts) :
    (s.setInitial k ⟨i, pair, .read frame⟩).Ordered := by
  have past : frame.ts ≤ unixMilli s.clock := by
    unfold initialFrame at cached
    split at cached
    · cases cached
    case h_2 e stored =>
      split at cached
      · cases cached
      · cases cached
        cases updated : e.updatedAt with
        | none => exact unixMilli_le (Nat.zero_le _)
        | some t => exact unixMilli_le (ordered.stored pair e t stored updated)
  refine ordered.of_still rfl rfl rfl ordered.mirrored (fun j p x flies => ?_) fun j p x member => ?_
  · rcases mem_inFlight.mp flies with hook | pending | flush | post | ⟨n, known, waits⟩
    · exact .inl (mem_inFlight.mpr (.inl hook))
    · exact .inl (mem_inFlight.mpr (.inr (.inl pending)))
    · exact .inl (mem_inFlight.mpr (.inr (.inr (.inl flush))))
    · exact .inl (mem_inFlight.mpr (.inr (.inr (.inr (.inl post)))))
    · rcases List.mem_or_eq_of_mem_set known with old | rfl
      · exact .inl (mem_inFlight.mpr (.inr (.inr (.inr (.inr ⟨n, old, waits⟩)))))
      · obtain ⟨⟨rfl, rfl⟩, frame', same, rfl⟩ := mem_waits_initial.mp waits
        cases same
        exact .inr ⟨past, fun c sub here found => newer c here sub found⟩
  · rcases mem_marked.mp member with post | ⟨n, known, marks⟩
    · exact mem_marked.mpr (.inl post)
    · rcases List.mem_or_eq_of_mem_set known with old | rfl
      · exact mem_marked.mpr (.inr ⟨n, old, marks⟩)
      · obtain ⟨-, frame', same, -⟩ := mem_marked_initial.mp marks
        cases same

theorem Ordered.markInitial (ordered : s.Ordered) {k i : Nat} {pair : Pair} {frame : BookFrame}
    {c : BookClient} (initial : s.initials[k]? = some ⟨i, pair, .read frame⟩)
    (here : s.clients[i]? = some c) (earliest : s.Earliest i pair frame.ts) :
    ((s.setInitial k ⟨i, pair, .marked frame⟩).setClient i
      (c.update pair (·.mark frame.ts))).Ordered := by
  have flies : ∀ j p, ∀ x ∈ inFlight ((s.setInitial k ⟨i, pair, .marked frame⟩).setClient i
      (c.update pair (·.mark frame.ts))) j p, x ∈ s.inFlight j p := by
    intro j p x member
    rcases mem_inFlight.mp member with hook | pending | flush | post | ⟨n, known, waits⟩
    · exact mem_inFlight.mpr (.inl hook)
    · exact mem_inFlight.mpr (.inr (.inl pending))
    · exact mem_inFlight.mpr (.inr (.inr (.inl flush)))
    · exact mem_inFlight.mpr (.inr (.inr (.inr (.inl post))))
    · refine mem_inFlight.mpr (.inr (.inr (.inr (.inr ?_))))
      rcases List.mem_or_eq_of_mem_set known with old | rfl
      · exact ⟨n, old, waits⟩
      · obtain ⟨same, frame', phase, equal⟩ := mem_waits_initial.mp waits
        exact ⟨_, List.mem_of_getElem? initial, mem_waits_initial.mpr ⟨same, frame', phase, equal⟩⟩
  have marks : ∀ j p, ∀ x ∈ marked ((s.setInitial k ⟨i, pair, .marked frame⟩).setClient i
      (c.update pair (·.mark frame.ts))) j p,
      x ∈ s.marked j p ∨ (i = j ∧ pair = p ∧ frame.ts = x) := by
    intro j p x member
    rcases mem_marked.mp member with post | ⟨n, known, waits⟩
    · exact .inl (mem_marked.mpr (.inl post))
    · rcases List.mem_or_eq_of_mem_set known with old | rfl
      · exact .inl (mem_marked.mpr (.inr ⟨n, old, waits⟩))
      · obtain ⟨⟨same, same'⟩, frame', phase, equal⟩ := mem_marked_initial.mp waits
        cases phase
        exact .inr ⟨same, same', equal⟩
  have waiting : frame.ts ∈ s.inFlight i pair :=
    mem_inFlight.mpr (.inr (.inr (.inr (.inr ⟨_, List.mem_of_getElem? initial,
      mem_waits_initial.mpr ⟨⟨rfl, rfl⟩, frame, rfl, rfl⟩⟩))))
  refine ordered.of_client rfl rfl rfl rfl (fun j p other => ⟨flies j p, fun x member => ?_⟩)
    (fun p x member => ordered.flying i p x (flies i p x member)) fun p sub found => ?_
  · rcases marks j p x member with old | ⟨same, -⟩
    · exact old
    · exact absurd same.symm other
  · rw [BookClient.lookup_update] at found
    split at found
    case isTrue same =>
      subst same
      obtain ⟨sub₀, known, rfl⟩ := Option.map_eq_some_iff.mp found
      have fine := ordered.subs i c p sub₀ here known
      have marked := fine.mark (fine.ahead _ waiting) (ordered.flying i p _ waiting) earliest
      refine ⟨marked.sorted, marked.below, marked.past, fun x member => ?_, fun x member => ?_⟩
      · exact marked.ahead x (flies i p x member)
      · rcases marks i p x member with old | ⟨-, -, equal⟩
        · exact marked.caught x old
        · exact Nat.le_of_eq equal.symm
    case isFalse other =>
      have fine := ordered.subs i c p sub here found
      refine fine.mono (Nat.le_refl _) (fun x member => .inl (flies i p x member)) fun x member => ?_
      rcases marks i p x member with old | ⟨-, same, -⟩
      · exact old
      · exact absurd same.symm other

theorem Ordered.putInitial (ordered : s.Ordered) {k i : Nat} {pair : Pair} {frame : BookFrame}
    {c : BookClient} (full : Bool) (initial : s.initials[k]? = some ⟨i, pair, .marked frame⟩)
    (here : s.clients[i]? = some c) :
    ((s.dropInitial k).setClient i (c.update pair (·.put frame full))).Ordered := by
  have dropped := ordered.dropInitial k
  refine dropped.of_client rfl rfl rfl rfl (fun _ _ _ => ⟨fun _ => id, fun _ => id⟩)
    (fun p => dropped.flying i p) fun p sub found => ?_
  rw [BookClient.lookup_update] at found
  split at found
  case isTrue same =>
    subst same
    obtain ⟨sub₀, known, rfl⟩ := Option.map_eq_some_iff.mp found
    have fine := ordered.subs i c p sub₀ here known
    have member := List.mem_of_getElem? initial
    have caught := fine.caught frame.ts (mem_marked.mpr (.inr ⟨_, member,
      mem_marked_initial.mpr ⟨⟨rfl, rfl⟩, frame, rfl, rfl⟩⟩))
    have ahead := fine.ahead frame.ts (mem_inFlight.mpr (.inr (.inr (.inr (.inr ⟨_, member,
      mem_waits_initial.mpr ⟨⟨rfl, rfl⟩, frame, rfl, rfl⟩⟩)))))
    have less := dropped.subs i c p sub₀ here known
    exact less.put (Nat.le_antisymm caught ahead) full
  case isFalse => exact dropped.subs i c p sub here found

/-! ## Subscriptions -/

/-- What is in flight does not depend on the clients. -/
theorem Ordered.of_pairs (ordered : s.Ordered) {i : Nat} {c c' : BookClient} {news : List Pair}
    {hotSubsRefcnt : String → Nat} (here : s.clients[i]? = some c) (idle : s.busy i = false)
    (unposted : ∀ p ∈ news, (s.loop.posted i).ts p = [])
    (subs : ∀ p sub, c'.subs.lookup p = some sub →
      c.subs.lookup p = some sub ∨ (p ∈ news ∧ sub = {})) :
    Ordered { s.setClient i c' with
      hotSubsRefcnt
      initials := s.initials ++ news.map fun pair => { client := i, pair } } := by
  have flies : ∀ j p, ∀ x ∈ inFlight { s.setClient i c' with
      hotSubsRefcnt
      initials := s.initials ++ news.map fun pair => { client := i, pair } } j p,
      x ∈ s.inFlight j p := by
    intro j p x member
    rcases mem_inFlight.mp member with hook | pending | flush | post | ⟨n, known, waits⟩
    · exact mem_inFlight.mpr (.inl hook)
    · exact mem_inFlight.mpr (.inr (.inl pending))
    · exact mem_inFlight.mpr (.inr (.inr (.inl flush)))
    · exact mem_inFlight.mpr (.inr (.inr (.inr (.inl post))))
    · rcases List.mem_append.mp known with old | new
      · exact mem_inFlight.mpr (.inr (.inr (.inr (.inr ⟨n, old, waits⟩))))
      · obtain ⟨pair, -, rfl⟩ := List.mem_map.mp new
        obtain ⟨-, frame, phase, -⟩ := mem_waits_initial.mp waits
        cases phase
  have marks : ∀ j p, ∀ x ∈ marked { s.setClient i c' with
      hotSubsRefcnt
      initials := s.initials ++ news.map fun pair => { client := i, pair } } j p,
      x ∈ s.marked j p := by
    intro j p x member
    rcases mem_marked.mp member with post | ⟨n, known, waits⟩
    · exact mem_marked.mpr (.inl post)
    · rcases List.mem_append.mp known with old | new
      · exact mem_marked.mpr (.inr ⟨n, old, waits⟩)
      · obtain ⟨pair, -, rfl⟩ := List.mem_map.mp new
        obtain ⟨-, frame, phase, -⟩ := mem_marked_initial.mp waits
        cases phase
  refine ordered.of_client rfl rfl rfl rfl (fun j p _ => ⟨flies j p, marks j p⟩)
    (fun p x member => ordered.flying i p x (flies i p x member)) fun p sub found => ?_
  rcases subs p sub found with old | ⟨new, rfl⟩
  · have fine := ordered.subs i c p sub here old
    exact fine.mono (Nat.le_refl _) (fun x member => .inl (flies i p x member)) (marks i p)
  · have fresh : ({} : Sub).Fine (unixMilli s.clock) [] [] := .fresh
    refine fresh.mono (Nat.le_refl _) (fun x _ => .inr (Nat.zero_le _)) fun x member => ?_
    rcases mem_marked.mp (marks i p x member) with post | ⟨n, known, marked⟩
    · rw [unposted p new] at post
      cases post
    · have owned := (mem_marked_initial.mp marked).1.1
      have busy : s.busy i = true := List.any_eq_true.mpr ⟨n, known, decide_eq_true owned⟩
      rw [idle] at busy
      cases busy

theorem Ordered.register (ordered : s.Ordered) :
    Ordered { s with clients := s.clients ++ [{ subs := ∅ }] } := by
  refine ⟨ordered.stored, ordered.mirrored, ordered.flying, fun i c p sub here found => ?_⟩
  rw [List.getElem?_append] at here
  split at here
  · exact ordered.subs i c p sub here found
  · have new := List.mem_singleton.mp (List.mem_of_getElem? here)
    rw [new] at found
    cases found

/-! ## Flushes -/

/-- A loop that keeps less of a flush. -/
theorem Ordered.of_loop (ordered : s.Ordered) (loop : BookLoop) (pending : Frames)
    (entries : ∀ frame ∈ loop.entries.entries, frame.2.ts ≤ unixMilli s.clock)
    (pends : ∀ p, ∀ x ∈ pending.ts p, x ∈ s.pending.ts p)
    (flushed : ∀ p, ∀ x ∈ loop.flushed.ts p, x ∈ s.loop.flushed.ts p ∨ x ∈ s.pending.ts p)
    (posted : ∀ i, loop.posted i = ∅) : Ordered { s with pending, loop } := by
  refine ordered.of_still rfl rfl rfl entries (fun i p x flies => .inl ?_) fun i p x member => ?_
  · rcases mem_inFlight.mp flies with hook | pending | flush | post | initial
    · exact mem_inFlight.mpr (.inl hook)
    · exact mem_inFlight.mpr (.inr (.inl (pends p x pending)))
    · rcases flushed p x flush with old | new
      · exact mem_inFlight.mpr (.inr (.inr (.inl old)))
      · exact mem_inFlight.mpr (.inr (.inl new))
    · rw [posted i] at post
      cases post
    · exact mem_inFlight.mpr (.inr (.inr (.inr (.inr initial))))
  · rcases mem_marked.mp member with post | initial
    · rw [posted i] at post
      cases post
    · exact mem_marked.mpr (.inr initial)

theorem Ordered.send (ordered : s.Ordered) {pair : Pair} {frame : BookFrame} {rest : Frames}
    {ticks : Bool} (full : List Nat) (loop : s.loop = .sending rest ticks)
    (found : rest.lookup pair = some frame) (earliest : s.EarliestForAll pair frame.ts) :
    (BookChannel.push { s with loop := .sending (rest.erase pair) ticks } pair frame full).Ordered := by
  have flushed : s.loop.flushed = rest := by
    rw [loop]
    rfl
  have flies : ∀ i, frame.ts ∈ s.inFlight i pair := by
    intro i
    refine mem_inFlight.mpr (.inr (.inr (.inl ?_)))
    rw [flushed]
    exact mem_ts.mpr ⟨frame, found, rfl⟩
  have pushed := ordered.push full flies earliest
  refine pushed.of_loop (.sending (rest.erase pair) ticks) s.pending (fun frame member => ?_)
    (fun _ _ => id) (fun p x member => .inl ?_) fun _ => rfl
  · cases member
  · obtain ⟨frame', known, equal⟩ := mem_ts.mp member
    have other : p ≠ pair := by
      intro same
      subst same
      have erased : (rest.erase p).lookup p = some frame' := known
      rw [AList.lookup_erase] at erased
      cases erased
    have kept : (rest.erase pair).lookup p = some frame' := known
    rw [AList.lookup_erase_ne other] at kept
    have here : (s.push pair frame full).loop.flushed = rest := flushed
    rw [here]
    exact mem_ts.mpr ⟨frame', kept, equal⟩

/-- A client that loses subscriptions. -/
theorem Ordered.of_fewer (ordered : s.Ordered) {i : Nat} {c c' : BookClient}
    {hotSubsRefcnt : String → Nat} (here : s.clients[i]? = some c) (idle : s.busy i = false)
    (subs : ∀ p sub, c'.subs.lookup p = some sub → c.subs.lookup p = some sub) :
    Ordered { s.setClient i c' with hotSubsRefcnt } := by
  have fewer : Ordered { s.setClient i c' with
      hotSubsRefcnt
      initials := s.initials ++ ([] : List Pair).map fun pair => { client := i, pair } } := by
    refine ordered.of_pairs here idle (fun _ member => ?_) fun p sub found => .inl (subs p sub found)
    cases member
  rw [List.map_nil, List.append_nil] at fewer
  exact fewer

/-- A loop that has nothing in flight. -/
theorem Ordered.of_silent (ordered : s.Ordered) {loop : BookLoop}
    (entries : ∀ frame ∈ loop.entries.entries, frame.2.ts ≤ unixMilli s.clock)
    (flushed : loop.flushed = ∅) (posted : ∀ i, loop.posted i = ∅) :
    Ordered { s with loop } := by
  refine ordered.of_loop loop s.pending entries (fun _ _ => id) (fun p x member => ?_) posted
  rw [flushed] at member
  cases member

end BookChannel

end Avalant
