import Mathlib.Data.List.Basic
import Mathlib.Logic.Function.Basic
import Avalant.Lib.Run

/-!
Copies of many values, kept up to date over one connection.

A source opens a key with a full frame, and sends a delta for each change after it.
The frames of all keys are on one wire, in order. A connection that is lost takes
its wire with it, and the client begins again with nothing; it may also drop one
key while frames of it are under way.

A client takes frames and is looked at by key. Once it has taken a full frame of a
key, each frame of that key leaves it with the value that the source had when it
sent the frame: `look_take_head`. With nothing more of the key on the wire, that is the
value the source has: `look_of_quiet`.

`after` and `synced` are for the statements.
-/

namespace Streamed

open Transition

/-- A change, of an empty value if it is full. -/
structure Frame (C : Type*) where
  full : Bool
  change : C

/-- What changes make of values. -/
structure Domain (B C : Type*) where
  empty : B
  apply : B → C → B

variable {σ K B C : Type*} [DecidableEq K]

def Domain.over (d : Domain B C) (f : Frame C) (b : B) : B :=
  d.apply (if f.full then d.empty else b) f.change

structure Client (d : Domain B C) (σ K : Type*) where
  fresh : σ
  look : σ → K → B
  take : σ → K → Frame C → σ
  drop : σ → K → σ
  look_fresh : ∀ k, look fresh k = d.empty
  look_take : ∀ s k f, look (take s k f) k = d.over f (look s k)
  look_take_of_ne : ∀ s f {k k' : K}, k' ≠ k → look (take s k f) k' = look s k'
  look_drop : ∀ s k, look (drop s k) k = d.empty
  look_drop_of_ne : ∀ s {k k' : K}, k' ≠ k → look (drop s k) k' = look s k'

/-- A frame on the wire, and the value it leaves. -/
structure Sent (K B C : Type*) where
  key : K
  frame : Frame C
  after : B

structure State (σ K B C : Type*) where
  source : K → B
  client : σ
  opened : K → Bool := fun _ => false
  wire : List (Sent K B C) := []
  /-- The client has taken a full frame of the key and has not dropped it. -/
  synced : K → Bool := fun _ => false

inductive Act (K C : Type*)
  | change (k : K) (c : C)
  | open_ (k : K) (c : C)
  | close (k : K)
  | deliver
  | drop (k : K)
  | reconnect

variable {d : Domain B C}

namespace State

/-- The source sends a frame, which leaves this value. -/
def send (s : State σ K B C) (k : K) (f : Frame C) (b : B) : State σ K B C :=
  { s with wire := s.wire ++ [⟨k, f, b⟩] }

def step (client : Client d σ K) (s : State σ K B C) : Act K C → Option (State σ K B C)
  | .change k c =>
      let b := d.apply (s.source k) c
      let s' := { s with source := Function.update s.source k b }
      some (if s.opened k then s'.send k ⟨false, c⟩ b else s')
  | .open_ k c =>
      some { s.send k ⟨true, c⟩ (s.source k) with opened := Function.update s.opened k true }
  | .close k => some { s with opened := Function.update s.opened k false }
  | .deliver =>
      match s.wire with
      | [] => none
      | x :: rest =>
          some { s with
            wire := rest
            client := client.take s.client x.key x.frame
            synced := Function.update s.synced x.key (x.frame.full || s.synced x.key) }
  | .drop k =>
      some { s with
        client := client.drop s.client k
        synced := Function.update s.synced k false }
  | .reconnect =>
      some { s with
        opened := fun _ => false, wire := [], client := client.fresh, synced := fun _ => false }

/-- The frame that opens a key is full. -/
def Opens (d : Domain B C) (s : State σ K B C) : Act K C → Prop
  | .open_ k c => d.apply d.empty c = s.source k
  | _ => True

instance [DecidableEq B] (s : State σ K B C) : ∀ a, Decidable (Opens d s a)
  | .change .. | .close _ | .deliver | .drop _ | .reconnect => inferInstanceAs (Decidable True)
  | .open_ k c => inferInstanceAs (Decidable (d.apply d.empty c = s.source k))

/-! ## The wire of one key -/

/-- A frame over a value that may be unknown. -/
def past (d : Domain B C) (b : Option B) (x : Sent K B C) : Option B :=
  if x.frame.full then some (d.over x.frame d.empty) else b.map (d.over x.frame)

/-- Every frame leaves the value it says, as far as the value before it is known. -/
def Linked (d : Domain B C) : Option B → List (Sent K B C) → Prop
  | _, [] => True
  | b, x :: rest => (∀ b' ∈ past d b x, x.after = b') ∧ Linked d (past d b x) rest

variable {b b' : Option B} {x : Sent K B C} {xs : List (Sent K B C)}

omit [DecidableEq K] in
theorem linked_concat : Linked d b (xs ++ [x]) ↔
    Linked d b xs ∧ ∀ b' ∈ past d (xs.foldl (past d) b) x, x.after = b' := by
  induction xs generalizing b with
  | nil => exact ⟨fun linked => ⟨trivial, linked.1⟩, fun linked => ⟨linked.2, trivial⟩⟩
  | cons y ys ih => exact (and_congr_right fun _ => ih).trans and_assoc.symm

omit [DecidableEq K] in
theorem past_mono (less : ∀ v ∈ b', v ∈ b) : ∀ v ∈ past d b' x, v ∈ past d b x := by
  unfold past
  split
  case isTrue => exact fun _ => id
  case isFalse =>
    intro v member
    obtain ⟨u, known, same⟩ := Option.map_eq_some_iff.mp member
    exact Option.map_eq_some_iff.mpr ⟨u, less u known, same⟩

omit [DecidableEq K] in
/-- Knowing less before the wire does no harm. -/
theorem Linked.mono (linked : Linked d b xs) (less : ∀ v ∈ b', v ∈ b) : Linked d b' xs := by
  induction xs generalizing b b' with
  | nil => trivial
  | cons y ys ih =>
      exact ⟨fun v member => linked.1 v (past_mono less v member), ih linked.2 (past_mono less)⟩

omit [DecidableEq K] in
theorem foldl_past_mono (less : ∀ v ∈ b', v ∈ b) :
    ∀ v ∈ xs.foldl (past d) b', v ∈ xs.foldl (past d) b := by
  induction xs generalizing b b' with
  | nil => exact less
  | cons y ys ih => exact ih (past_mono less)

/-! ## What is kept -/

/-- The frames of one key. -/
def wireOf (s : State σ K B C) (k : K) : List (Sent K B C) := s.wire.filter fun x => x.key = k

/-- What the client is known to have. -/
def known (client : Client d σ K) (s : State σ K B C) (k : K) : Option B :=
  bif s.synced k then some (client.look s.client k) else none

/-- The wire of a key leads from the client's value to the source's. -/
structure Tracks (client : Client d σ K) (s : State σ K B C) (k : K) : Prop where
  linked : Linked d (s.known client k) (s.wireOf k)
  reaches : s.opened k = true → ∀ b ∈ (s.wireOf k).foldl (past d) (s.known client k),
    b = s.source k

variable {client : Client d σ K} {s s' : State σ K B C} {k k' : K}

theorem wireOf_send_self (s : State σ K B C) (k : K) (f : Frame C) (b : B) :
    (s.send k f b).wireOf k = s.wireOf k ++ [⟨k, f, b⟩] := by
  unfold wireOf send
  dsimp only
  rw [List.filter_append]
  exact congrArg _ (List.filter_cons_of_pos (decide_eq_true rfl))

theorem wireOf_send_of_ne (other : k' ≠ k) (s : State σ K B C) (f : Frame C) (b : B) :
    (s.send k f b).wireOf k' = s.wireOf k' := by
  unfold wireOf send
  dsimp only
  rw [List.filter_append, List.filter_cons_of_neg, List.filter_nil, List.append_nil]
  exact fun same => other (of_decide_eq_true same).symm

/-- A key that a step leaves alone. -/
theorem Tracks.of_eq (tracks : Tracks client s k) (wire : s'.wireOf k = s.wireOf k)
    (known : s'.known client k = s.known client k) (source : s'.source k = s.source k)
    (opened : s'.opened k = true → s.opened k = true) : Tracks client s' k where
  linked := by
    rw [wire, known]
    exact tracks.linked
  reaches still := by
    rw [wire, known, source]
    exact tracks.reaches (opened still)

/-- A frame that the source sends leaves the source's value. -/
theorem Tracks.send (tracks : Tracks client s k) (f : Frame C) (source : K → B)
    (opened : K → Bool)
    (leaves : ∀ v ∈ past d ((s.wireOf k).foldl (past d) (s.known client k)) ⟨k, f, source k⟩,
      source k = v) :
    Tracks client { s.send k f (source k) with source := source, opened := opened } k where
  linked := by
    change Linked d (s.known client k) ((s.send k f (source k)).wireOf k)
    rw [wireOf_send_self]
    exact linked_concat.mpr ⟨tracks.linked, leaves⟩
  reaches _ := by
    change ∀ v ∈ ((s.send k f (source k)).wireOf k).foldl (past d) (s.known client k), v = source k
    rw [wireOf_send_self, List.foldl_append]
    exact fun v member => (leaves v member).symm

theorem Tracks.change (tracks : Tracks client s k) (c : C) :
    s.step client (.change k c) = some s' → Tracks client s' k := by
  intro stepped
  cases stepped
  split
  case isTrue opened =>
    refine (tracks.send ⟨false, c⟩ (Function.update s.source k (d.apply (s.source k) c)) s.opened
      ?_).of_eq ?_ ?_ rfl fun _ => opened
    · rw [Function.update_self]
      intro v member
      obtain ⟨u, reached, same⟩ := Option.map_eq_some_iff.mp member
      rw [tracks.reaches opened u reached] at same
      exact same
    · rw [Function.update_self]
      rfl
    · rfl
  case isFalse closed =>
    exact ⟨tracks.linked, fun opened => absurd opened closed⟩

/-- Taking the first frame of the wire. -/
theorem known_take (s : State σ K B C) (x : Sent K B C) (rest : List (Sent K B C)) :
    known client { s with
      wire := rest
      client := client.take s.client x.key x.frame
      synced := Function.update s.synced x.key (x.frame.full || s.synced x.key) } x.key =
      past d (s.known client x.key) x := by
  unfold known past
  dsimp only
  rw [Function.update_self, client.look_take]
  unfold Domain.over
  cases x.frame.full with
  | true => rfl
  | false =>
      cases s.synced x.key with
      | true => rfl
      | false => rfl

theorem Tracks.deliver (tracks : ∀ k, Tracks client s k)
    (stepped : s.step client .deliver = some s') : ∀ k, Tracks client s' k := by
  replace stepped : (match s.wire with | [] => none | x :: rest => _) = some s' := stepped
  split at stepped
  case h_1 => cases stepped
  case h_2 x rest wire =>
    cases stepped
    intro k
    have tracks := tracks k
    by_cases mine : k = x.key
    · subst mine
      have split : s.wireOf x.key = x :: rest.filter fun y => y.key = x.key := by
        unfold wireOf
        rw [wire]
        exact List.filter_cons_of_pos (decide_eq_true rfl)
      refine ⟨?_, fun opened => ?_⟩
      · rw [known_take]
        have linked := tracks.linked
        rw [split] at linked
        exact linked.2
      · rw [known_take]
        have reaches := tracks.reaches opened
        rw [split] at reaches
        exact reaches
    · refine tracks.of_eq ?_ ?_ rfl id
      · unfold wireOf
        rw [wire, List.filter_cons_of_neg fun same => mine (of_decide_eq_true same).symm]
      · unfold known
        dsimp only
        rw [Function.update_of_ne mine, client.look_take_of_ne _ _ mine]

theorem Tracks.step : Preserves (step client) (Opens d) fun s => ∀ k, Tracks client s k := by
  intro s a s' tracks opens stepped
  cases a with
  | change k c =>
      intro k'
      by_cases mine : k' = k
      · subst mine
        exact (tracks k').change c stepped
      · cases stepped
        split
        · refine (tracks k').of_eq ?_ rfl (Function.update_of_ne mine ..) id
          exact wireOf_send_of_ne mine ..
        · exact (tracks k').of_eq rfl rfl (Function.update_of_ne mine ..) id
  | open_ k c =>
      cases stepped
      intro k'
      by_cases mine : k' = k
      · subst mine
        refine (tracks k').send ⟨true, c⟩ s.source _ fun v member => ?_
        cases member
        exact opens.symm
      · refine (tracks k').of_eq (wireOf_send_of_ne mine ..) rfl rfl fun still => ?_
        exact (Function.update_of_ne mine ..).symm.trans still
  | close k =>
      cases stepped
      intro k'
      refine (tracks k').of_eq rfl rfl rfl fun still => ?_
      by_cases mine : k' = k
      · subst mine
        cases (Function.update_self ..).symm.trans still
      · exact (Function.update_of_ne mine ..).symm.trans still
  | deliver => exact Tracks.deliver tracks stepped
  | drop k =>
      cases stepped
      intro k'
      by_cases mine : k' = k
      · subst mine
        have nothing : known client { s with
            client := client.drop s.client k'
            synced := Function.update s.synced k' false } k' = none := by
          unfold known
          dsimp only
          rw [Function.update_self]
          rfl
        refine ⟨?_, fun opened => ?_⟩
        · rw [nothing]
          exact (tracks k').linked.mono fun v no => by cases no
        · rw [nothing]
          exact fun v member => (tracks k').reaches opened v
            (foldl_past_mono (fun v no => by cases no) v member)
      · refine (tracks k').of_eq rfl ?_ rfl id
        unfold known
        dsimp only
        rw [Function.update_of_ne mine, client.look_drop_of_ne _ mine]
  | reconnect =>
      cases stepped
      exact fun k' => ⟨trivial, fun no => by cases no⟩

theorem Tracks.init (source : K → B) (k : K) :
    Tracks client ({ source, client := client.fresh } : State σ K B C) k :=
  ⟨trivial, fun no => by cases no⟩

/-! ## The client's values -/

variable {source : K → B}

/-- A frame leaves a client that is in step with the value that the source had when it sent it. -/
theorem look_take_head (run : Run (step client) (Opens d) { source, client := client.fresh } s)
    {rest : List (Sent K B C)} (wire : s.wire = x :: rest)
    (inStep : x.frame.full = true ∨ s.synced x.key = true) :
    client.look (client.take s.client x.key x.frame) x.key = x.after := by
  have linked := (run.invariant Tracks.step (Tracks.init source) x.key).linked
  have split : s.wireOf x.key = x :: rest.filter fun y => y.key = x.key := by
    unfold wireOf
    rw [wire]
    exact List.filter_cons_of_pos (decide_eq_true rfl)
  rw [split] at linked
  refine (linked.1 _ ?_).symm
  rw [client.look_take]
  unfold past known Domain.over
  rcases inStep with full | synced
  · rw [full]
    rfl
  · rw [synced]
    cases x.frame.full with
    | true => rfl
    | false => rfl

/-- With no frame of an open key under way, the client has the source's value. -/
theorem look_of_quiet (run : Run (step client) (Opens d) { source, client := client.fresh } s)
    (opened : s.opened k = true) (synced : s.synced k = true) (quiet : s.wireOf k = []) :
    client.look s.client k = s.source k := by
  have reaches := (run.invariant Tracks.step (Tracks.init source) k).reaches opened
  rw [quiet] at reaches
  refine reaches _ ?_
  unfold known
  rw [synced]
  rfl

end State

end Streamed
