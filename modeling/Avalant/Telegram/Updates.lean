import Avalant.Telegram.Poller

/-!
What becomes of the updates of a bot, while its replicas take turns.

A drain drops what Telegram has pending, so that a replica that takes over does not
handle again what the one before it has handled. From there on an update stays with
Telegram until a request asks for later ones, which is after it is handled.
-/

namespace Avalant

open Transition

namespace Telegram

/-- The numbers of the updates, and what has become of them. -/
structure Updates.Sorted (u : Updates) : Prop where
  queue : u.queue.Pairwise (· < ·)
  handled : u.handled.Pairwise (· < ·)
  queue_lt : ∀ x ∈ u.queue, x < u.next
  handled_lt : ∀ x ∈ u.handled, x < u.next
  fresh_lt : ∀ x ∈ u.fresh, x < u.next
  kept : ∀ x ∈ u.fresh, x ∈ u.handled ∨ x ∈ u.queue

/-- No fresh update that is not handled is before the offset. -/
structure Updates.Past (u : Updates) (offset : ℕ) : Prop where
  le : offset ≤ u.next
  fresh : ∀ x ∈ u.fresh, x < offset → x ∈ u.handled

/-- All that is handled is before what comes from the offset on. -/
def Updates.Beyond (u : Updates) (offset : ℕ) : Prop :=
  ∀ x ∈ u.queue, offset ≤ x → ∀ h ∈ u.handled, h < x

/-- A batch that begins what comes from the offset on. -/
structure Updates.Ready (u : Updates) (offset : ℕ) (batch : List ℕ) : Prop where
  sorted : batch.Pairwise (· < ·)
  lt : ∀ x ∈ batch, x < u.next
  le : ∀ x ∈ batch, offset ≤ x
  beyond : ∀ x ∈ batch, ∀ h ∈ u.handled, h < x
  first : ∀ y ∈ u.queue, offset ≤ y → y ∈ batch ∨ ∀ x ∈ batch, x < y

theorem Updates.Ready.nil (u : Updates) (offset : ℕ) : u.Ready offset [] where
  sorted := List.Pairwise.nil
  lt x no := by cases no
  le x no := by cases no
  beyond x no := by cases no
  first y _ _ := .inr fun x no => by cases no

def Updates.Ahead (u : Updates) (r : Replica) : Prop :=
  match r.phase with
  | .draining _ (some ids) =>
      u.Past (drainOffset r.offsetOr ids) ∧ u.Beyond (drainOffset r.offsetOr ids)
  | .fetching none => u.Beyond r.offsetOr
  | .polling batch | .fetching (some batch) | .handling batch =>
      u.Beyond r.offsetOr ∧ u.Ready r.offsetOr batch
  | .draining _ none | .idle | .acquiring _ _ | .stopping | .gone => True

structure Tidy {ι : Type} (u : Updates) (replicas : ι → Replica) : Prop where
  sorted : u.Sorted
  past : ∀ i, u.Past (replicas i).offsetOr
  ahead : ∀ i, (replicas i).leads = true → u.Ahead (replicas i)

variable {u u' : Updates} {offset id : ℕ} {batch : List ℕ} {r : Replica}

/-! ## An update that comes -/

theorem Updates.Sorted.arrive (sorted : u.Sorted) (new : u.next ≤ id) : (u.arrive id).Sorted where
  queue := by
    refine List.pairwise_append.mpr ⟨sorted.queue, List.pairwise_singleton .., ?_⟩
    intro x queued y last
    cases List.mem_singleton.mp last
    exact lt_of_lt_of_le (sorted.queue_lt x queued) new
  handled := sorted.handled
  queue_lt x queued := by
    change x < id + 1
    rcases List.mem_append.mp queued with old | last
    · have := sorted.queue_lt x old
      omega
    · cases List.mem_singleton.mp last
      omega
  handled_lt x handled := by
    change x < id + 1
    have := sorted.handled_lt x handled
    omega
  fresh_lt x fresh := by
    change x < id + 1
    rcases List.mem_append.mp fresh with old | last
    · have := sorted.fresh_lt x old
      omega
    · cases List.mem_singleton.mp last
      omega
  kept x fresh := by
    rcases List.mem_append.mp fresh with old | last
    · exact (sorted.kept x old).imp_right fun queued => List.mem_append_left _ queued
    · exact .inr (List.mem_append_right _ last)

theorem Updates.Past.arrive (past : u.Past offset) (new : u.next ≤ id) :
    (u.arrive id).Past offset where
  le := by
    change offset ≤ id + 1
    have := past.le
    omega
  fresh x fresh early := by
    rcases List.mem_append.mp fresh with old | last
    · exact past.fresh x old early
    · cases List.mem_singleton.mp last
      have := past.le
      omega

theorem Updates.Beyond.arrive (beyond : u.Beyond offset) (sorted : u.Sorted)
    (new : u.next ≤ id) : (u.arrive id).Beyond offset := by
  intro x queued late h handled
  rcases List.mem_append.mp queued with old | last
  · exact beyond x old late h handled
  · cases List.mem_singleton.mp last
    exact lt_of_lt_of_le (sorted.handled_lt h handled) new

theorem Updates.Ready.arrive (ready : u.Ready offset batch) (new : u.next ≤ id) :
    (u.arrive id).Ready offset batch where
  sorted := ready.sorted
  lt x inside := by
    change x < id + 1
    have := ready.lt x inside
    omega
  le := ready.le
  beyond := ready.beyond
  first y queued late := by
    rcases List.mem_append.mp queued with old | last
    · exact ready.first y old late
    · cases List.mem_singleton.mp last
      exact .inr fun x inside => lt_of_lt_of_le (ready.lt x inside) new

theorem Updates.Ahead.arrive (ahead : u.Ahead r) (sorted : u.Sorted) (new : u.next ≤ id) :
    (u.arrive id).Ahead r := by
  unfold Updates.Ahead at ahead ⊢
  split at ahead
  case h_1 => exact ⟨ahead.1.arrive new, ahead.2.arrive sorted new⟩
  case h_2 => exact ahead.arrive sorted new
  case h_3 | h_4 | h_5 => exact ⟨ahead.1.arrive sorted new, ahead.2.arrive new⟩
  all_goals trivial

/-! ## A request -/

theorem Updates.mem_confirm {x : ℕ} :
    x ∈ (u.confirm offset).queue ↔ x ∈ u.queue ∧ offset ≤ x :=
  List.mem_filter.trans (and_congr_right fun _ => decide_eq_true_iff)

theorem Updates.Sorted.confirm (sorted : u.Sorted) (past : u.Past offset) :
    (u.confirm offset).Sorted where
  queue := sorted.queue.filter _
  handled := sorted.handled
  queue_lt x queued := sorted.queue_lt x (mem_confirm.mp queued).1
  handled_lt := sorted.handled_lt
  fresh_lt := sorted.fresh_lt
  kept x fresh := by
    by_cases early : x < offset
    · exact .inl (past.fresh x fresh early)
    · refine (sorted.kept x fresh).imp_right fun queued => ?_
      exact mem_confirm.mpr ⟨queued, Nat.le_of_not_lt early⟩

/-- Fewer updates with Telegram. -/
theorem Updates.Ahead.confirm (ahead : u.Ahead r) : (u.confirm offset).Ahead r := by
  have fewer : ∀ x ∈ (u.confirm offset).queue, x ∈ u.queue := fun x queued =>
    (mem_confirm.mp queued).1
  have beyond {o : ℕ} (beyond : u.Beyond o) : (u.confirm offset).Beyond o :=
    fun x queued => beyond x (fewer x queued)
  have ready {o : ℕ} {batch : List ℕ} (ready : u.Ready o batch) :
      (u.confirm offset).Ready o batch :=
    ⟨ready.sorted, ready.lt, ready.le, ready.beyond, fun y queued => ready.first y (fewer y queued)⟩
  unfold Updates.Ahead at ahead ⊢
  split at ahead
  case h_1 => exact ⟨⟨ahead.1.le, ahead.1.fresh⟩, beyond ahead.2⟩
  case h_2 => exact beyond ahead
  case h_3 | h_4 | h_5 => exact ⟨beyond ahead.1, ready ahead.2⟩
  all_goals trivial

/-- The answer of a request. -/
theorem Updates.ready_confirm (sorted : u.Sorted) (beyond : u.Beyond offset) (n : ℕ) :
    (u.confirm offset).Ready offset ((u.confirm offset).queue.take n) where
  sorted := (sorted.queue.filter _).sublist (List.take_sublist ..)
  lt x inside := sorted.queue_lt x (mem_confirm.mp (List.mem_of_mem_take inside)).1
  le x inside := (mem_confirm.mp (List.mem_of_mem_take inside)).2
  beyond x inside :=
    have queued := mem_confirm.mp (List.mem_of_mem_take inside)
    beyond x queued.1 queued.2
  first y queued _ := by
    have inOrder : (u.confirm offset).queue.Pairwise (· < ·) := sorted.queue.filter _
    rw [← List.take_append_drop n (u.confirm offset).queue] at queued inOrder
    rcases List.mem_append.mp queued with early | late
    · exact .inl early
    · exact .inr fun x inside => (List.pairwise_append.mp inOrder).2.2 x inside y late

/-! ## A drain -/

theorem Updates.mem_drain {x : ℕ} : x ∈ u.drain.queue ↔ u.queue.getLast? = some x :=
  Option.mem_toList

theorem Updates.Sorted.drain (sorted : u.Sorted) : u.drain.Sorted where
  queue := by
    unfold Updates.drain
    cases u.queue.getLast? with
    | none => exact List.Pairwise.nil
    | some last => exact List.pairwise_singleton ..
  handled := sorted.handled
  queue_lt x queued := sorted.queue_lt x (List.mem_of_getLast? (mem_drain.mp queued))
  handled_lt := sorted.handled_lt
  fresh_lt x no := by cases no
  kept x no := by cases no

theorem Updates.Past.drain (past : u.Past offset) : u.drain.Past offset :=
  ⟨past.le, fun x no => by cases no⟩

/-- The answer of a drain. -/
theorem Updates.past_drain (sorted : u.Sorted) (past : u.Past offset) :
    u.drain.Past (drainOffset offset u.drain.queue) := by
  unfold drainOffset
  split
  case h_1 last known =>
    have queued := List.mem_of_getLast? (Updates.mem_drain.mp (List.mem_of_getLast? known))
    exact ⟨sorted.queue_lt last queued, fun x no => by cases no⟩
  case h_2 => exact past.drain

theorem Updates.beyond_drain : u.drain.Beyond (drainOffset offset u.drain.queue) := by
  intro x queued late
  have last := Updates.mem_drain.mp queued
  unfold drainOffset Updates.drain at late
  rw [last] at late
  exact absurd late (Nat.not_succ_le_self x)

/-! ## An update that is handled -/

section

variable {rest : List ℕ}

theorem Updates.Sorted.handle (sorted : u.Sorted) (ready : u.Ready offset (id :: rest)) :
    (u.handle id).Sorted where
  queue := sorted.queue
  handled := by
    refine List.pairwise_append.mpr ⟨sorted.handled, List.pairwise_singleton .., ?_⟩
    intro h handled y last
    cases List.mem_singleton.mp last
    exact ready.beyond id List.mem_cons_self h handled
  queue_lt := sorted.queue_lt
  handled_lt x handled := by
    rcases List.mem_append.mp handled with old | last
    · exact sorted.handled_lt x old
    · cases List.mem_singleton.mp last
      exact ready.lt id List.mem_cons_self
  fresh_lt := sorted.fresh_lt
  kept x fresh := (sorted.kept x fresh).imp_left fun handled => List.mem_append_left _ handled

theorem Updates.Past.handle (past : u.Past offset) : (u.handle id).Past offset :=
  ⟨past.le, fun x fresh early => List.mem_append_left _ (past.fresh x fresh early)⟩

/-- The offset goes past the update that is handled, and no further. -/
theorem Updates.Past.handle_next (past : u.Past offset) (sorted : u.Sorted)
    (ready : u.Ready offset (id :: rest)) : (u.handle id).Past (max offset (id + 1)) where
  le := max_le past.le (ready.lt id List.mem_cons_self)
  fresh x fresh early := by
    by_cases before : x < offset
    · exact List.mem_append_left _ (past.fresh x fresh before)
    rcases sorted.kept x fresh with handled | queued
    · exact List.mem_append_left _ handled
    rcases ready.first x queued (Nat.le_of_not_lt before) with inside | later
    · rcases List.mem_cons.mp inside with same | inside
      · exact List.mem_append_right _ (List.mem_singleton.mpr same)
      · have := List.rel_of_pairwise_cons ready.sorted inside
        omega
    · have := later id List.mem_cons_self
      omega

theorem Updates.Beyond.handle_next (beyond : u.Beyond offset) :
    (u.handle id).Beyond (max offset (id + 1)) := by
  intro x queued late h handled
  rcases List.mem_append.mp handled with old | last
  · exact beyond x queued (le_trans (le_max_left ..) late) h old
  · cases List.mem_singleton.mp last
    exact le_trans (le_max_right ..) late

theorem Updates.Ready.handle_next (ready : u.Ready offset (id :: rest)) :
    (u.handle id).Ready (max offset (id + 1)) rest where
  sorted := ready.sorted.of_cons
  lt x inside := ready.lt x (List.mem_cons_of_mem _ inside)
  le x inside := max_le (ready.le x (List.mem_cons_of_mem _ inside))
    (List.rel_of_pairwise_cons ready.sorted inside)
  beyond x inside h handled := by
    rcases List.mem_append.mp handled with old | last
    · exact ready.beyond x (List.mem_cons_of_mem _ inside) h old
    · cases List.mem_singleton.mp last
      exact List.rel_of_pairwise_cons ready.sorted inside
  first y queued late := by
    rcases ready.first y queued (le_trans (le_max_left ..) late) with inside | later
    · rcases List.mem_cons.mp inside with same | inside
      · subst same
        exact absurd (le_trans (le_max_right ..) late) (Nat.not_succ_le_self y)
      · exact .inl inside
    · exact .inr fun x inside => later x (List.mem_cons_of_mem _ inside)

end

/-! ## Steps -/

variable {ι : Type} [DecidableEq ι] {d : Delays} {replicas : ι → Replica} {i : ι}
  {s s' : System ι} {a : Act ι}

theorem Updates.Past.zero (u : Updates) : u.Past 0 :=
  ⟨Nat.zero_le _, fun x _ no => absurd no (Nat.not_lt_zero x)⟩

theorem Updates.Ahead.of_phase {phase : Phase} (ahead : u.Ahead r) (known : r.phase = phase) :
    u.Ahead { r with phase } := by
  subst known
  exact ahead

theorem leads_lost (r : Replica) (renewer : Renewer) (offset : Option ℕ) :
    { r with renewer, lost := true, offset }.leads = false := by
  unfold Replica.leads
  dsimp only
  split
  all_goals rfl

theorem Tidy.set (sorted : u'.Sorted)
    (others : ∀ j, j ≠ i → u'.Past (replicas j).offsetOr ∧
      ((replicas j).leads = true → u'.Ahead (replicas j)))
    (past : u'.Past r.offsetOr) (ahead : r.leads = true → u'.Ahead r) :
    Tidy u' (Function.update replicas i r) where
  sorted := sorted
  past := (Function.forall_update_iff replicas fun _ (r : Replica) => u'.Past r.offsetOr).mpr
    ⟨past, fun j other => (others j other).1⟩
  ahead := (Function.forall_update_iff replicas fun _ (r : Replica) => r.leads = true → u'.Ahead r).mpr
    ⟨ahead, fun j other => (others j other).2⟩

def Act.isUndrained {ι : Type} : Act ι → Bool
  | .undrained _ => true
  | _ => false

/-- No time is lost, and no drain fails. -/
def Drains (d : Delays) (s : System ι) (a : Act ι) : Prop := Prompt d s a ∧ a.isUndrained = false

instance [Fintype ι] (s : System ι) (a : Act ι) : Decidable (Drains d s a) :=
  inferInstanceAs (Decidable (_ ∧ _))

theorem Tidy.step (secured : Secured d s.key s.replicas) (tidy : Tidy s.updates s.replicas)
    (admitted : Drains d s a) (stepped : s.step a = some s') : Tidy s'.updates s'.replicas := by
  have sorted := tidy.sorted
  have only {i : ι} {r : Replica} (past : s.updates.Past r.offsetOr)
      (ahead : r.leads = true → s.updates.Ahead r) :
      Tidy s.updates (Function.update s.replicas i r) :=
    Tidy.set sorted (fun j _ => ⟨tidy.past j, tidy.ahead j⟩) past ahead
  -- Two that lead at once are one.
  have alone {i j : ι} (leads : (s.replicas i).leads = true) (other : j ≠ i)
      (too : (s.replicas j).leads = true) : False :=
    other (Option.some.inj (((secured j).holder too).symm.trans ((secured i).holder leads)))
  cases System.moves stepped with
  | wait | stray => exact tidy
  | arrive new =>
      exact ⟨sorted.arrive new, fun i => (tidy.past i).arrive new,
        fun i leads => (tidy.ahead i leads).arrive sorted new⟩
  | @acquire i | @setNx i | @refused i | @stop i | @release i | crash i =>
      exact only (tidy.past i) fun no => by cases no
  | cancel => exact only (.zero _) fun no => by cases no
  | @unrenewed i => exact only (tidy.past i) fun no => by cases (leads_lost ..).symm.trans no
  | @leave i | @wake i | @renew i | @renewed i => exact only (tidy.past i) (tidy.ahead i)
  | @acquired i => exact only (tidy.past i) fun _ => trivial
  | undrained => cases admitted.2
  | @drain i since phase =>
      have leads := Replica.leads_of_phase phase
        (congrArg not ((secured i).of_phase phase).2.1)
      refine Tidy.set sorted.drain (fun j other => ⟨(tidy.past j).drain, fun too =>
        (alone leads other too).elim⟩) (tidy.past i).drain fun _ => ?_
      exact ⟨Updates.past_drain sorted (tidy.past i), Updates.beyond_drain⟩
  | @drained i since ids phase =>
      have leads := Replica.leads_of_phase phase
        (congrArg not ((secured i).of_phase phase).2.1)
      obtain ⟨past, beyond⟩ := (tidy.ahead i leads).of_phase phase
      exact only past fun _ => ⟨beyond, .nil _ _⟩
  | @request i phase running =>
      have leads := Replica.leads_of_phase phase (congrArg not running)
      exact only (tidy.past i) fun _ => ((tidy.ahead i leads).of_phase phase).1
  | @handle i id rest phase running =>
      have leads := Replica.leads_of_phase phase (congrArg not running)
      obtain ⟨beyond, ready⟩ := (tidy.ahead i leads).of_phase phase
      exact Tidy.set (sorted.handle ready) (fun j other => ⟨(tidy.past j).handle, fun too =>
        (alone leads other too).elim⟩) ((tidy.past i).handle_next sorted ready) fun _ =>
          ⟨beyond.handle_next, ready.handle_next⟩
  | @fetch i phase =>
      refine Tidy.set (sorted.confirm (tidy.past i)) (fun j _ =>
        ⟨⟨(tidy.past j).le, (tidy.past j).fresh⟩, fun too => (tidy.ahead j too).confirm⟩)
        ⟨(tidy.past i).le, (tidy.past i).fresh⟩ fun running => ?_
      have leads := Replica.leads_of_phase phase running
      have beyond : s.updates.Beyond (s.replicas i).offsetOr :=
        (tidy.ahead i leads).of_phase phase
      exact ⟨fun x queued => beyond x (Updates.mem_confirm.mp queued).1,
        Updates.ready_confirm sorted beyond _⟩
  | @fetched i _ phase | @finish i _ phase =>
      refine only (tidy.past i) fun running => ?_
      have leads := Replica.leads_of_phase phase running
      have ahead := (tidy.ahead i leads).of_phase phase
      exact ahead
  | @unfetched i answer phase =>
      refine only (tidy.past i) fun running => ?_
      have leads := Replica.leads_of_phase phase running
      have ahead := (tidy.ahead i leads).of_phase phase
      have beyond : s.updates.Beyond (s.replicas i).offsetOr := by
        cases answer with
        | none => exact ahead
        | some ids => exact ahead.1
      exact ⟨beyond, .nil _ _⟩

omit [DecidableEq ι] in
theorem Tidy.init : Tidy ({} : System ι).updates ({} : System ι).replicas where
  sorted := {
    queue := List.Pairwise.nil
    handled := List.Pairwise.nil
    queue_lt x no := by cases no
    handled_lt x no := by cases no
    fresh_lt x no := by cases no
    kept x no := by cases no }
  past _ := .zero _
  ahead _ no := by cases no

/-- However the replicas take turns, no update is handled twice, and none after a later one; and what
has come since the last drain is handled or with Telegram. -/
theorem updates_handled_once (run : Run System.step (Drains d) {} s) :
    s.updates.handled.Pairwise (· < ·) ∧
      ∀ x ∈ s.updates.fresh, x ∈ s.updates.handled ∨ x ∈ s.updates.queue := by
  have initially : Secured d ({} : System ι).key ({} : System ι).replicas := fun _ => rfl
  have kept := run.invariant (I := fun s => Secured d s.key s.replicas ∧ Tidy s.updates s.replicas)
    (fun _ _ _ both admitted stepped => ⟨Secured.step both.1 admitted.1 stepped,
      both.2.step both.1 admitted stepped⟩) ⟨initially, Tidy.init⟩
  exact ⟨kept.2.sorted.handled, kept.2.sorted.kept⟩

/-- A leader that loses the lock with an update left, and the next one, which drains it. -/
def takeover : List (Act Bool) :=
  [.arrive 5, .acquire false, .setNx false, .acquired false, .drain false, .drained false,
    .arrive 6, .arrive 7, .next false, .fetch false, .fetched false, .next false, .finish false,
    .wait 12000, .wake false, .unrenewed false, .next false, .release false false, .wait 60000,
    .acquire true, .setNx true, .acquired true, .drain true, .drained true, .arrive 8, .next true,
    .fetch true, .fetched true, .next true]

theorem updates_handled_once_takeover : ∃ s : System Bool,
    execGuarded System.step (Drains ordinary) {} takeover = some s ∧
    s.updates.handled = [6, 8] ∧ s.updates.handled.Pairwise (· < ·) := by
  have ran : (execGuarded System.step (Drains ordinary) {} takeover).map (fun s =>
      s.updates.handled) = some [6, 8] := by
    decide +kernel
  obtain ⟨s, executed, handled⟩ := Option.map_eq_some_iff.mp ran
  exact ⟨s, executed, handled, (updates_handled_once (Run.of_execGuarded executed)).1⟩

end Telegram

end Avalant
