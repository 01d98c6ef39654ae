import Avalant.Lib.Lease
import Avalant.Lib.Run
import Mathlib.Algebra.Order.Group.Nat
import Mathlib.Data.Fintype.Basic
import Mathlib.Logic.Function.Basic

/-!
Which process runs the user-stream supervisor, `_us_leader_loop` of `app.py`.

Every 10 s a process that does not lead asks for the key with NX, and the one that leads
writes it again with XX, whoever owns it by then. A call to Redis is carried out
at some moment before it returns, and an exception leaves everything as it is.

As long as a leader writes the key again before it lapses, nobody else leads
(`supervisor_leads_alone`). A leader that is late, once another has the key, takes it from
the other, and both lead from then on (`split_stays`).

Times are milliseconds.
-/

namespace Avalant

open Transition

namespace SupervisorLeader

/-- `ex` of the key. -/
def lockTtl : ℕ := 30000

abbrev Key (ι : Type) := Lease.Key ι ℕ lockTtl

/-- A call to Redis: when it began, and its answer once it is carried out. -/
structure Call where
  since : ℕ
  answer : Option Bool := none
  deriving DecidableEq

structure Process where
  isLeader : Bool := false
  call : Option Call := none
  gone : Bool := false
  /-- For the statements: when the last call began that the process leads by. -/
  since : ℕ := 0
  deriving DecidableEq

structure System (ι : Type) where
  key : Key ι := .new 0
  processes : ι → Process := fun _ => {}

inductive Act (ι : Type)
  | wait (until_ : ℕ)
  | ask (i : ι)
  | set (i : ι)
  | answered (i : ι)
  | raised (i : ι)
  | stop (i : ι) (reached : Bool)
  | crash (i : ι)

namespace System

variable {ι : Type} [DecidableEq ι]

def put (s : System ι) (i : ι) (p : Process) : System ι :=
  { s with processes := Function.update s.processes i p }

def step (s : System ι) : Act ι → Option (System ι)
  | .wait t => some { s with key := s.key.wait t }
  | .ask i =>
      let p := s.processes i
      if p.gone ∨ p.call ≠ none then none
      else some (s.put i { p with call := some { since := s.key.now } })
  | .set i =>
      let p := s.processes i
      match p.call with
      | some ⟨since, none⟩ =>
          let done := if p.isLeader then s.key.overwrite i else s.key.acquire i
          some { s.put i { p with call := some ⟨since, some done.2⟩ } with key := done.1 }
      | _ => none
  | .answered i =>
      let p := s.processes i
      match p.call with
      | some ⟨since, some ok⟩ =>
          some (s.put i { p with
            call := none, isLeader := ok, since := if ok then since else p.since })
      | _ => none
  | .raised i =>
      let p := s.processes i
      match p.call with
      | some _ => some (s.put i { p with call := none })
      | none => none
  | .stop i reached =>
      let p := s.processes i
      if p.gone then none
      else
        some { s.put i { p with gone := true, isLeader := false, call := none } with
          key := if p.isLeader ∧ reached then s.key.clear else s.key }
  | .crash i =>
      some (s.put i { s.processes i with gone := true, isLeader := false, call := none })

/-- The forms of a step. -/
inductive Moves (s : System ι) (a : Act ι) : System ι → Prop
  | wait {t : ℕ} (same : a = .wait t) : Moves s a { s with key := s.key.wait t }
  | ask {i : ι} (idle : (s.processes i).call = none) :
      Moves s a (s.put i { s.processes i with call := some { since := s.key.now } })
  | overwrite {i : ι} {since : ℕ} (call : (s.processes i).call = some ⟨since, none⟩)
      (leads : (s.processes i).isLeader = true) :
      Moves s a { s.put i { s.processes i with
          call := some ⟨since, some (s.key.overwrite i).2⟩ } with
        key := (s.key.overwrite i).1 }
  | acquire {i : ι} {since : ℕ} (call : (s.processes i).call = some ⟨since, none⟩)
      (follows : (s.processes i).isLeader = false) :
      Moves s a { s.put i { s.processes i with
          call := some ⟨since, some (s.key.acquire i).2⟩ } with
        key := (s.key.acquire i).1 }
  | leads {i : ι} {since : ℕ} (call : (s.processes i).call = some ⟨since, some true⟩) :
      Moves s a (s.put i { s.processes i with call := none, isLeader := true, since })
  | loses {i : ι} {since : ℕ} (call : (s.processes i).call = some ⟨since, some false⟩) :
      Moves s a (s.put i { s.processes i with call := none, isLeader := false })
  | raised (i : ι) : Moves s a (s.put i { s.processes i with call := none })
  | clear {i : ι} {reached : Bool} (same : a = .stop i reached)
      (leads : (s.processes i).isLeader = true) :
      Moves s a { s.put i { s.processes i with gone := true, isLeader := false, call := none } with
        key := s.key.clear }
  | leave {i : ι} (same : a = .crash i ∨ ∃ reached, a = .stop i reached) :
      Moves s a (s.put i { s.processes i with gone := true, isLeader := false, call := none })

theorem moves {s s' : System ι} {a : Act ι} (stepped : s.step a = some s') : s.Moves a s' := by
  cases a with
  | wait t =>
      cases stepped
      exact .wait rfl
  | crash i =>
      cases stepped
      exact .leave (.inl rfl)
  | ask i =>
      unfold step at stepped
      dsimp only at stepped
      split at stepped
      case isTrue => cases stepped
      case isFalse idle =>
        cases stepped
        exact .ask (Classical.not_not.mp fun busy => idle (.inr busy))
  | set i =>
      unfold step at stepped
      dsimp only at stepped
      split at stepped
      case h_2 => cases stepped
      case h_1 since call =>
        cases leads : (s.processes i).isLeader with
        | true =>
            rw [leads, if_pos rfl] at stepped
            cases stepped
            rw [← leads]
            exact .overwrite call leads
        | false =>
            rw [leads, if_neg Bool.false_ne_true] at stepped
            cases stepped
            rw [← leads]
            exact .acquire call leads
  | answered i =>
      unfold step at stepped
      dsimp only at stepped
      split at stepped
      case h_2 => cases stepped
      case h_1 since ok call =>
        cases stepped
        cases ok with
        | true => exact .leads call
        | false => exact .loses call
  | raised i =>
      unfold step at stepped
      dsimp only at stepped
      split at stepped
      · cases stepped
        exact .raised i
      · cases stepped
  | stop i reached =>
      unfold step at stepped
      dsimp only at stepped
      split at stepped
      case isTrue => cases stepped
      case isFalse =>
        cases stepped
        split
        case isTrue leads => exact .clear rfl leads.1
        case isFalse => exact .leave (.inr ⟨reached, rfl⟩)

end System

/-! ## Leaders that are in time -/

variable {ι : Type} [DecidableEq ι]

/-- A leader's next call is answered before the key it has lapses. -/
def Process.due (p : Process) (t : ℕ) : Prop :=
  (p.isLeader = true → t < p.since + lockTtl) ∧ ∀ call ∈ p.call, t < call.since + lockTtl

def Prompt (s : System ι) : Act ι → Prop
  | .wait t => ∀ i, (s.processes i).due t
  | _ => True

instance (p : Process) (t : ℕ) : Decidable (p.due t) := inferInstanceAs (Decidable (_ ∧ _))

instance [Fintype ι] (s : System ι) : ∀ a, Decidable (Prompt s a)
  | .wait t => inferInstanceAs (Decidable (∀ i, (s.processes i).due t))
  | .ask _ | .set _ | .answered _ | .raised _ | .stop _ _ | .crash _ =>
      inferInstanceAs (Decidable True)

structure Process.Secure (key : Key ι) (i : ι) (p : Process) : Prop where
  due : p.due key.now
  began : ∀ call ∈ p.call, call.since ≤ key.now
  leads : p.isLeader = true → key.Until i (p.since + lockTtl)
  got : ∀ call ∈ p.call, call.answer = some true → key.Until i (call.since + lockTtl)

variable {key key' : Key ι} {i j : ι} {p : Process} {s s' : System ι} {a : Act ι}

omit [DecidableEq ι] in
theorem Process.Secure.of_key (secure : p.Secure key i) (now : key'.now = key.now)
    (keeps : ∀ t, key.Until i t → key'.Until i t) : p.Secure key' i where
  due := now ▸ secure.due
  began := now ▸ secure.began
  leads leader := keeps _ (secure.leads leader)
  got call here done := keeps _ (secure.got call here done)

omit [DecidableEq ι] in
theorem Process.Secure.wait {t : ℕ} (secure : p.Secure key i) (prompt : p.due t) :
    p.Secure (key.wait t) i where
  due := ⟨fun leader => max_lt (secure.due.1 leader) (prompt.1 leader),
    fun call here => max_lt (secure.due.2 call here) (prompt.2 call here)⟩
  began call here := le_trans (secure.began call here) (le_max_left ..)
  leads leader := (secure.leads leader).wait
  got call here done := (secure.got call here done).wait

omit [DecidableEq ι] in
theorem Process.Secure.holder (secure : p.Secure key i) (leads : p.isLeader = true) :
    key.holder = some i :=
  (secure.leads leads).holder (secure.due.1 leads)

omit [DecidableEq ι] in
/-- A process with no call under way that does not lead. -/
theorem Process.Secure.out (out : p.isLeader = false) (quiet : p.call = none) :
    p.Secure key i where
  due := by
    refine ⟨fun leads => ?_, fun call here => ?_⟩
    · cases out.symm.trans leads
    · cases quiet.symm.trans here
  began call here := by cases quiet.symm.trans here
  leads leads := by cases out.symm.trans leads
  got call here := by cases quiet.symm.trans here

def Secured (key : Key ι) (processes : ι → Process) : Prop := ∀ i, (processes i).Secure key i

theorem Secured.set {processes : ι → Process}
    (others : ∀ j, j ≠ i → (processes j).Secure key j) (mine : p.Secure key i) :
    Secured key (Function.update processes i p) :=
  (Function.forall_update_iff processes fun j (p : Process) => p.Secure key j).mpr ⟨mine, others⟩

omit [DecidableEq ι] in
/-- The call of a process is carried out. -/
theorem Process.Secure.carriedOut {since : ℕ} {ok : Bool} (secure : p.Secure key i)
    (call : p.call = some ⟨since, none⟩) (now : key'.now = key.now)
    (keeps : ∀ t, key.Until i t → key'.Until i t)
    (got : ok = true → key'.Until i (key.now + lockTtl)) :
    { p with call := some ⟨since, some ok⟩ }.Secure key' i where
  due := ⟨now ▸ secure.due.1, fun call' here => by
    cases here
    exact now ▸ secure.due.2 ⟨since, none⟩ call⟩
  began call' here := by
    cases here
    exact now ▸ secure.began ⟨since, none⟩ call
  leads leader := keeps _ (secure.leads leader)
  got call' here done := by
    cases here
    exact (got (Option.some.inj done)).anti (Nat.add_le_add_right (secure.began ⟨since, none⟩ call) _)

theorem Secured.step :
    Preserves System.step Prompt fun s : System ι => Secured s.key s.processes := by
  intro s a s' secured prompt stepped
  have only {i : ι} {p : Process} (mine : p.Secure s.key i) :
      Secured s.key (Function.update s.processes i p) :=
    Secured.set (fun j _ => secured j) mine
  cases System.moves stepped with
  | wait same =>
      subst same
      exact fun i => (secured i).wait (prompt i)
  | @ask i idle =>
      have secure := secured i
      exact only {
        due := ⟨secure.due.1, fun call here => by
          cases here
          exact Nat.lt_add_of_pos_right (by decide)⟩
        began := fun call here => by
          cases here
          exact le_refl _
        leads := secure.leads
        got := fun call here no => by
          cases here
          cases no }
  | @overwrite i since call leads =>
      have holder := (secured i).holder leads
      exact Secured.set (fun j _ => (secured j).of_key Lease.Key.overwrite_now fun _ mine =>
        mine.overwrite fun _ => holder) ((secured i).carriedOut call Lease.Key.overwrite_now
          (fun _ mine => mine.overwrite fun _ => holder) Lease.Key.until_overwrite)
  | @acquire i since call follows =>
      exact Secured.set (fun j _ => (secured j).of_key Lease.Key.acquire_now fun _ mine =>
        mine.acquire) ((secured i).carriedOut call Lease.Key.acquire_now
          (fun _ mine => mine.acquire) Lease.Key.until_acquire)
  | @leads i since call =>
      have secure := secured i
      exact only {
        due := ⟨fun _ => secure.due.2 _ call, fun call' no => by cases no⟩
        began := fun call' no => by cases no
        leads := fun _ => secure.got _ call rfl
        got := fun call' no => by cases no }
  | @loses i since call => exact only (.out rfl rfl)
  | raised i =>
      have secure := secured i
      exact only {
        due := ⟨secure.due.1, fun call' no => by cases no⟩
        began := fun call' no => by cases no
        leads := secure.leads
        got := fun call' no => by cases no }
  | @clear i reached same leads =>
      have given : s.key.clear = s.key.release i := (if_pos ((secured i).holder leads)).symm
      rw [given]
      exact Secured.set (fun j other => (secured j).of_key Lease.Key.release_now fun _ mine =>
        mine.release other) (.out rfl rfl)
  | leave => exact only (.out rfl rfl)

/-- As long as no leader is late, one process leads at most, and it has the key. -/
theorem supervisor_leads_alone (run : Run System.step Prompt {} s)
    (leads : (s.processes i).isLeader = true) :
    s.key.holder = some i ∧ ∀ j, (s.processes j).isLeader = true → j = i := by
  have initially : Secured ({} : System ι).key ({} : System ι).processes :=
    fun _ => .out rfl rfl
  have secured : Secured s.key s.processes := run.invariant Secured.step initially
  have holder := (secured i).holder leads
  exact ⟨holder, fun j too => Option.some.inj (((secured j).holder too).symm.trans holder)⟩

/-- A leader that writes its key again, and another process that asks for it. -/
theorem supervisor_leads_alone_two : ∃ s : System Bool,
    execGuarded System.step Prompt {} [.ask false, .set false, .answered false, .wait 10000,
      .ask false, .set false, .ask true, .answered false, .set true, .answered true] = some s ∧
    s.key.holder = some false ∧ (s.processes true).isLeader = false := by
  have ran : (execGuarded System.step Prompt ({} : System Bool) [.ask false, .set false,
      .answered false, .wait 10000, .ask false, .set false, .ask true, .answered false, .set true,
      .answered true]).map (fun s => (s.processes false).isLeader) = some true := by
    decide +kernel
  obtain ⟨s, executed, leads⟩ := Option.map_eq_some_iff.mp ran
  have alone := supervisor_leads_alone (Run.of_execGuarded executed) leads
  refine ⟨s, executed, alone.1, Bool.eq_false_of_not_eq_true fun too => ?_⟩
  cases alone.2 true too

/-! ## Two leaders -/

/-- The key does not lapse, and nobody stops. -/
def Alive (s : System ι) : Act ι → Prop
  | .wait t => ∀ e ∈ s.key.entry, t < e.2 + lockTtl
  | .stop _ _ | .crash _ => False
  | _ => True

instance (s : System ι) : ∀ a, Decidable (Alive s a)
  | .wait t => inferInstanceAs (Decidable (∀ e ∈ s.key.entry, t < e.2 + lockTtl))
  | .stop _ _ | .crash _ => inferInstanceAs (Decidable False)
  | .ask _ | .set _ | .answered _ | .raised _ => inferInstanceAs (Decidable True)

/-- It leads, and no answer on its way says otherwise. -/
def Process.Stays (p : Process) : Prop :=
  p.isLeader = true ∧ ∀ call ∈ p.call, call.answer ≠ some false

theorem stays_step (held : s.key.holder ≠ none) (leads : (s.processes i).Stays)
    (alive : Alive s a) (stepped : s.step a = some s') :
    s'.key.holder ≠ none ∧ (s'.processes i).Stays := by
  have only {j : ι} {p : Process} (mine : i = j → p.Stays) :
      (Function.update s.processes j p i).Stays := by
    by_cases same : i = j
    · subst same
      rw [Function.update_self]
      exact mine rfl
    · rw [Function.update_of_ne same]
      exact leads
  cases System.moves stepped with
  | wait same =>
      subst same
      refine ⟨?_, leads⟩
      change (s.key.wait _).holder ≠ none
      rw [Lease.Key.holder_wait alive]
      exact held
  | ask =>
      refine ⟨held, only fun same => ?_⟩
      subst same
      exact ⟨leads.1, fun call here => by
        cases here
        exact fun no => by cases no⟩
  | @overwrite j since call leader =>
      rw [Lease.Key.overwrite_of_held held]
      refine ⟨?_, only fun same => ?_⟩
      · change (s.key.put j).holder ≠ none
        rw [Lease.Key.until_put.holder (Nat.lt_add_of_pos_right (by decide))]
        exact Option.some_ne_none j
      · subst same
        exact ⟨leads.1, fun call here => by
          cases here
          exact fun no => by cases no⟩
  | @acquire j since call follows =>
      rw [Lease.Key.acquire_of_held held]
      refine ⟨held, only fun same => ?_⟩
      subst same
      cases leads.1.symm.trans follows
  | leads => exact ⟨held, only fun _ => ⟨rfl, fun call no => by cases no⟩⟩
  | @loses j since call =>
      refine ⟨held, only fun same => ?_⟩
      subst same
      exact absurd rfl (leads.2 _ call)
  | raised =>
      refine ⟨held, only fun same => ?_⟩
      subst same
      exact ⟨leads.1, fun call no => by cases no⟩
  | clear same =>
      subst same
      exact alive.elim
  | leave same =>
      rcases same with rfl | ⟨reached, rfl⟩
      · exact alive.elim
      · exact alive.elim

/-- Whoever leads goes on while the key is written in time, by whomever. -/
theorem split_stays (run : Run System.step Alive s s') (held : s.key.holder ≠ none)
    (leads : (s.processes i).Stays) : (s'.processes i).Stays :=
  (run.invariant (I := fun s => s.key.holder ≠ none ∧ (s.processes i).Stays)
    (fun _ _ _ both alive stepped => stays_step both.1 both.2 alive stepped) ⟨held, leads⟩).2

/-- A leader that is a second late, and a process that has taken the key by then. -/
theorem split_stays_late : ∃ s s' : System Bool,
    exec System.step {} [.ask false, .set false, .answered false, .wait 31000, .ask true, .set true,
      .answered true, .ask false, .set false, .answered false] = some s ∧
    execGuarded System.step Alive s [.wait 41000, .ask true, .set true, .answered true, .wait 51000,
      .ask false, .set false, .answered false] = some s' ∧
    (s'.processes false).Stays ∧ (s'.processes true).Stays := by
  have ran : ((exec System.step ({} : System Bool) [.ask false, .set false, .answered false,
      .wait 31000, .ask true, .set true, .answered true, .ask false, .set false,
      .answered false]).bind fun s => (execGuarded System.step Alive s [.wait 41000, .ask true,
        .set true, .answered true, .wait 51000, .ask false, .set false, .answered false]).map
          fun _ => (s.key.holder, s.processes false, s.processes true)) =
      some (some false, ⟨true, none, false, 31000⟩, ⟨true, none, false, 31000⟩) := by
    decide +kernel
  obtain ⟨s, first, rest⟩ := Option.bind_eq_some_iff.mp ran
  obtain ⟨s', second, view⟩ := Option.map_eq_some_iff.mp rest
  obtain ⟨holder, processes⟩ := Prod.mk.inj view
  obtain ⟨one, other⟩ := Prod.mk.inj processes
  have held : s.key.holder ≠ none := by
    rw [holder]
    exact Option.some_ne_none false
  have run := Run.of_execGuarded second
  refine ⟨s, s', first, second, split_stays run held ?_, split_stays run held ?_⟩
  · rw [one]
    exact ⟨rfl, fun call no => by cases no⟩
  · rw [other]
    exact ⟨rfl, fun call no => by cases no⟩

end SupervisorLeader

end Avalant
