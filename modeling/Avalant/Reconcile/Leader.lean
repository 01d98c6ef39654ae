import Avalant.Lib.Lease
import Avalant.Lib.Run
import Mathlib.Algebra.Order.Group.Nat
import Mathlib.Data.Fintype.Basic
import Mathlib.Logic.Function.Basic

/-!
The reconcile threads of all processes, and the lock under which one of them works,
`_runner` of `reconcile_service.py`.

A thread renews the lock between two naps and after a pass, when the last renewal is
15 s old; nothing renews it during a pass. Calls to Redis are carried out at some
moment before they return; they may fail before or after that. A process without a
Redis client takes and renews the lead without asking anybody.

Times are milliseconds.
-/

namespace Avalant

open Transition

namespace ReconcileRunner

/-- `_LOCK_TTL_S`. -/
def lockTtl : ℕ := 60000

/-- `_LOCK_RENEW_S`. -/
def lockRenew : ℕ := 15000

/-- `_LOOP_INTERVAL_S`. -/
def loopInterval : ℕ := 300000

abbrev Key (ι : Type) := Lease.Key ι ℕ lockTtl

/-- What a renewal interrupts. -/
inductive Rest
  | afterPass (elapsed : ℕ)
  | asleep (until_ : ℕ)
  deriving DecidableEq

/-- When the sleep is over. -/
def Rest.until_ (now : ℕ) : Rest → ℕ
  | .afterPass elapsed => now + max 5000 (loopInterval - elapsed)
  | .asleep until_ => until_

/-- Where the thread is, and since when. -/
inductive Phase
  /-- Not the leader. -/
  | idle
  | acquiring (since : ℕ) (answer : Option Bool)
  /-- The leader, at the head of the loop. -/
  | top (since : ℕ)
  /-- In `_reconcile_pass`. -/
  | passing (since : ℕ)
  | passed (elapsed : ℕ)
  /-- At the head of the inner loop. -/
  | looping (since until_ : ℕ)
  | napping (until_ wake : ℕ)
  | renewing (since : ℕ) (answer : Option Bool) (rest : Rest)
  | ended
  | gone
  deriving DecidableEq

structure Worker where
  phase : Phase := .idle
  lastRenew : ℕ := 0
  /-- `_stop`. -/
  stop : Bool := false
  deriving DecidableEq

structure System (ι : Type) where
  key : Key ι := .new 0
  workers : ι → Worker := fun _ => {}

inductive Act (ι : Type)
  | wait (until_ : ℕ)
  | stop (i : ι)
  | start (i : ι)
  | acquire (i : ι)
  /-- `_try_acquire_lock` where `_get_redis` gives no client. -/
  | acquireAlone (i : ι)
  | setNx (i : ι)
  | acquired (i : ι)
  | refused (i : ι)
  /-- The head of the loop; the release reaches Redis or not. -/
  | head (i : ι) (reached : Bool)
  | pass (i : ι)
  /-- After a pass, or after a nap. -/
  | check (i : ι)
  | nap (i : ι)
  | renew (i : ι)
  /-- `_renew_lock` where `_get_redis` gives no client. -/
  | renewAlone (i : ι)
  | renewed (i : ι)
  | unrenewed (i : ι)
  | crash (i : ι)

namespace System

variable {ι : Type} [DecidableEq ι]

def set (s : System ι) (i : ι) (w : Worker) : System ι :=
  { s with workers := Function.update s.workers i w }

def step (s : System ι) : Act ι → Option (System ι)
  | .wait t => some { s with key := s.key.wait t }
  | .stop i => some (s.set i { s.workers i with stop := true })
  | .start i =>
      let w := s.workers i
      match w.phase with
      | .ended => some (s.set i { w with phase := .idle, stop := false })
      | _ => none
  | .acquire i =>
      let w := s.workers i
      match w.phase with
      | .idle =>
          some (s.set i { w with
            phase := if w.stop then .ended else .acquiring s.key.now none })
      | _ => none
  | .acquireAlone i =>
      let w := s.workers i
      match w.phase with
      | .idle =>
          some (s.set i
            (if w.stop then { w with phase := .ended }
            else { w with phase := .top s.key.now, lastRenew := s.key.now }))
      | _ => none
  | .setNx i =>
      let w := s.workers i
      match w.phase with
      | .acquiring since none =>
          some { s.set i { w with phase := .acquiring since (some (s.key.acquire i).2) } with
            key := (s.key.acquire i).1 }
      | _ => none
  | .acquired i =>
      let w := s.workers i
      match w.phase with
      | .acquiring since (some true) =>
          some (s.set i { w with phase := .top s.key.now, lastRenew := since })
      | _ => none
  | .refused i =>
      let w := s.workers i
      match w.phase with
      | .acquiring _ _ => some (s.set i { w with phase := .idle })
      | _ => none
  | .head i reached =>
      let w := s.workers i
      match w.phase with
      | .top _ =>
          if w.stop then
            some { s.set i { w with phase := .ended } with
              key := if reached then s.key.release i else s.key }
          else some (s.set i { w with phase := .passing s.key.now })
      | _ => none
  | .pass i =>
      let w := s.workers i
      match w.phase with
      | .passing since => some (s.set i { w with phase := .passed (s.key.now - since) })
      | _ => none
  | .check i =>
      let w := s.workers i
      let goes (rest : Rest) : Phase :=
        if w.lastRenew + lockRenew ≤ s.key.now then .renewing s.key.now none rest
        else .looping s.key.now (rest.until_ s.key.now)
      match w.phase with
      | .passed elapsed => some (s.set i { w with phase := goes (.afterPass elapsed) })
      | .napping until_ wake =>
          if wake ≤ s.key.now then some (s.set i { w with phase := goes (.asleep until_) })
          else none
      | _ => none
  | .nap i =>
      let w := s.workers i
      match w.phase with
      | .looping _ until_ =>
          some (s.set i { w with
            phase :=
              if s.key.now < until_ ∧ w.stop = false then
                .napping until_ (s.key.now + min 2000 (until_ - s.key.now))
              else .top s.key.now })
      | _ => none
  | .renew i =>
      let w := s.workers i
      match w.phase with
      | .renewing since none rest =>
          some { s.set i { w with phase := .renewing since (some (s.key.renew i).2) rest } with
            key := (s.key.renew i).1 }
      | _ => none
  | .renewAlone i =>
      let w := s.workers i
      match w.phase with
      | .renewing _ none rest =>
          some (s.set i { w with
            phase := .looping s.key.now (rest.until_ s.key.now), lastRenew := s.key.now })
      | _ => none
  | .renewed i =>
      let w := s.workers i
      match w.phase with
      | .renewing _ (some true) rest =>
          some (s.set i { w with
            phase := .looping s.key.now (rest.until_ s.key.now), lastRenew := s.key.now })
      | _ => none
  | .unrenewed i =>
      let w := s.workers i
      match w.phase with
      | .renewing _ _ _ => some (s.set i { w with phase := .idle })
      | _ => none
  | .crash i => some (s.set i { s.workers i with phase := .gone })

/-- The step asks Redis where the code does, in a process with a client. -/
def Asks : Act ι → Prop
  | .acquireAlone _ | .renewAlone _ => False
  | _ => True

/-- The forms of a step that asks Redis. -/
inductive Moves (s : System ι) (a : Act ι) : System ι → Prop
  | wait {t : ℕ} (same : a = .wait t) : Moves s a { s with key := s.key.wait t }
  | stop (i : ι) : Moves s a (s.set i { s.workers i with stop := true })
  | start (i : ι) : Moves s a (s.set i { s.workers i with phase := .idle, stop := false })
  | leave (i : ι) (phase : Phase) (out : phase = .idle ∨ phase = .ended ∨ phase = .gone) :
      Moves s a (s.set i { s.workers i with phase })
  | acquire (i : ι) : Moves s a (s.set i { s.workers i with phase := .acquiring s.key.now none })
  | setNx {i : ι} {since : ℕ} (phase : (s.workers i).phase = .acquiring since none) :
      Moves s a { s.set i { s.workers i with
          phase := .acquiring since (some (s.key.acquire i).2) } with
        key := (s.key.acquire i).1 }
  | acquired {i : ι} {since : ℕ} (phase : (s.workers i).phase = .acquiring since (some true)) :
      Moves s a (s.set i { s.workers i with phase := .top s.key.now, lastRenew := since })
  | release (i : ι) : Moves s a { s.set i { s.workers i with phase := .ended } with
      key := s.key.release i }
  | pass {i : ι} {since : ℕ} (phase : (s.workers i).phase = .top since) :
      Moves s a (s.set i { s.workers i with phase := .passing s.key.now })
  | passed {i : ι} {since : ℕ} (phase : (s.workers i).phase = .passing since) :
      Moves s a (s.set i { s.workers i with phase := .passed (s.key.now - since) })
  | due {i : ι} (leads : (∃ elapsed, (s.workers i).phase = .passed elapsed) ∨
        ∃ until_ wake, (s.workers i).phase = .napping until_ wake) (rest : Rest) :
      Moves s a (s.set i { s.workers i with phase := .renewing s.key.now none rest })
  | fresh {i : ι} (leads : (∃ elapsed, (s.workers i).phase = .passed elapsed) ∨
        ∃ until_ wake, (s.workers i).phase = .napping until_ wake)
      (early : s.key.now < (s.workers i).lastRenew + lockRenew) (until_ : ℕ) :
      Moves s a (s.set i { s.workers i with phase := .looping s.key.now until_ })
  | nap {i : ι} {since until_ : ℕ} (phase : (s.workers i).phase = .looping since until_)
      (wake : ℕ) : Moves s a (s.set i { s.workers i with phase := .napping until_ wake })
  | top {i : ι} {since until_ : ℕ} (phase : (s.workers i).phase = .looping since until_) :
      Moves s a (s.set i { s.workers i with phase := .top s.key.now })
  | renew {i : ι} {since : ℕ} {rest : Rest}
      (phase : (s.workers i).phase = .renewing since none rest) :
      Moves s a { s.set i { s.workers i with
          phase := .renewing since (some (s.key.renew i).2) rest } with
        key := (s.key.renew i).1 }
  | renewed {i : ι} {since : ℕ} {rest : Rest}
      (phase : (s.workers i).phase = .renewing since (some true) rest) (until_ : ℕ) :
      Moves s a (s.set i { s.workers i with
        phase := .looping s.key.now until_, lastRenew := s.key.now })

theorem moves {s s' : System ι} {a : Act ι} (asks : Asks a) (stepped : s.step a = some s') :
    s.Moves a s' := by
  cases a with
  | acquireAlone i | renewAlone i => exact asks.elim
  | wait t =>
      cases stepped
      exact .wait rfl
  | stop i =>
      cases stepped
      exact .stop i
  | crash i =>
      cases stepped
      exact .leave i .gone (.inr (.inr rfl))
  | start i =>
      unfold step at stepped
      dsimp only at stepped
      split at stepped
      · cases stepped
        exact .start i
      · cases stepped
  | acquire i =>
      unfold step at stepped
      dsimp only at stepped
      split at stepped
      case h_2 => cases stepped
      case h_1 phase =>
        cases stepped
        split
        · exact .leave i .ended (.inr (.inl rfl))
        · exact .acquire i
  | refused i | unrenewed i =>
      unfold step at stepped
      dsimp only at stepped
      split at stepped
      · cases stepped
        exact .leave i .idle (.inl rfl)
      · cases stepped
  | head i reached =>
      unfold step at stepped
      dsimp only at stepped
      split at stepped
      case h_2 => cases stepped
      case h_1 phase =>
        split at stepped
        case isTrue =>
          cases stepped
          cases reached with
          | true => exact .release i
          | false => exact .leave i .ended (.inr (.inl rfl))
        case isFalse =>
          cases stepped
          exact .pass phase
  | check i =>
      unfold step at stepped
      dsimp only at stepped
      split at stepped
      case h_1 elapsed phase =>
        cases stepped
        split
        case isTrue => exact .due (.inl ⟨elapsed, phase⟩) _
        case isFalse early => exact .fresh (.inl ⟨elapsed, phase⟩) (Nat.lt_of_not_le early) _
      case h_2 until_ wake phase =>
        split at stepped
        case isFalse => cases stepped
        case isTrue =>
          cases stepped
          split
          case isTrue => exact .due (.inr ⟨until_, wake, phase⟩) _
          case isFalse early =>
            exact .fresh (.inr ⟨until_, wake, phase⟩) (Nat.lt_of_not_le early) _
      case h_3 => cases stepped
  | nap i =>
      unfold step at stepped
      dsimp only at stepped
      split at stepped
      case h_2 => cases stepped
      case h_1 since until_ phase =>
        cases stepped
        split
        · exact .nap phase _
        · exact .top phase
  | renewed i =>
      unfold step at stepped
      dsimp only at stepped
      split at stepped
      case h_2 => cases stepped
      case h_1 phase =>
        cases stepped
        exact .renewed phase _
  | pass i =>
      unfold step at stepped
      dsimp only at stepped
      split at stepped
      case h_2 => cases stepped
      case h_1 phase =>
        cases stepped
        exact .passed phase
  | setNx i | acquired i | renew i =>
      unfold step at stepped
      dsimp only at stepped
      split at stepped
      case h_2 => cases stepped
      case h_1 phase =>
        cases stepped
        constructor
        exact phase

end System

/-! ## The lock of the one that works -/

/-- How much a thread may be delayed. -/
structure Delays where
  /-- Between two statements, or when it wakes up. -/
  step : ℕ
  /-- A call to Redis. -/
  call : ℕ
  fits : lockRenew + 2 * step + 2 * call < lockTtl

variable {ι : Type} [DecidableEq ι] {d : Delays}

def Worker.due (d : Delays) (w : Worker) : Option ℕ :=
  match w.phase with
  | .acquiring since _ | .renewing since _ _ => some (since + d.call)
  | .top since | .looping since _ => some (since + d.step)
  | .idle | .passing _ | .passed _ | .napping _ _ | .ended | .gone => none

/-- Every process has a Redis client, and time does not pass a thread by that is due; a pass may
take any time. -/
def Prompt (d : Delays) (s : System ι) : Act ι → Prop
  | .wait t => ∀ i, ∀ due ∈ (s.workers i).due d, t ≤ due
  | a => System.Asks a

instance [Fintype ι] (s : System ι) : ∀ a, Decidable (Prompt d s a)
  | .wait t => inferInstanceAs (Decidable (∀ i, ∀ due ∈ (s.workers i).due d, t ≤ due))
  | .acquireAlone _ | .renewAlone _ => inferInstanceAs (Decidable False)
  | .stop _ | .start _ | .acquire _ | .setNx _ | .acquired _ | .refused _ | .head _ _ | .pass _
  | .check _ | .nap _ | .renew _ | .renewed _ | .unrenewed _ | .crash _ =>
      inferInstanceAs (Decidable True)

/-- The lock is the worker's for a lifetime after the last renewal. -/
def Worker.Holds (d : Delays) (key : Key ι) (i : ι) (w : Worker) : Prop :=
  key.Until i (w.lastRenew + lockTtl - d.call)

def Worker.Secure (d : Delays) (key : Key ι) (i : ι) (w : Worker) : Prop :=
  match w.phase with
  | .idle | .ended | .gone => True
  | .acquiring since answer => since ≤ key.now ∧ key.now ≤ since + d.call ∧
      (answer = some true → key.Until i (since + lockTtl))
  | .top since => w.Holds d key i ∧ since ≤ w.lastRenew + lockRenew + d.step + d.call ∧
      key.now ≤ since + d.step
  | .passing since => w.Holds d key i ∧ since ≤ w.lastRenew + lockRenew + 2 * d.step + d.call
  | .passed _ | .napping _ _ => w.Holds d key i
  | .looping since _ => w.Holds d key i ∧ since ≤ w.lastRenew + lockRenew ∧
      key.now ≤ since + d.step
  | .renewing since answer _ => w.Holds d key i ∧ since ≤ key.now ∧ key.now ≤ since + d.call ∧
      (answer = some true → key.Until i (since + lockTtl))

variable {key key' : Key ι} {i j : ι} {w : Worker} {s s' : System ι} {a : Act ι}

omit [DecidableEq ι] in
theorem Worker.Secure.of_phase {phase : Phase} (secure : w.Secure d key i)
    (known : w.phase = phase) : { w with phase }.Secure d key i := by
  subst known
  exact secure

omit [DecidableEq ι] in
/-- What the others do to the lock. -/
theorem Worker.Secure.of_key (secure : w.Secure d key i) (now : key'.now = key.now)
    (keeps : ∀ t, key.Until i t → key'.Until i t) : w.Secure d key' i := by
  unfold Worker.Secure at secure ⊢
  split at secure
  case h_1 | h_2 | h_3 => trivial
  case h_4 =>
    rw [now]
    exact ⟨secure.1, secure.2.1, fun done => keeps _ (secure.2.2 done)⟩
  case h_5 | h_9 =>
    rw [now]
    exact ⟨keeps _ secure.1, secure.2⟩
  case h_6 => exact ⟨keeps _ secure.1, secure.2⟩
  case h_7 | h_8 => exact keeps _ secure
  case h_10 =>
    rw [now]
    exact ⟨keeps _ secure.1, secure.2.1, secure.2.2.1, fun done => keeps _ (secure.2.2.2 done)⟩

omit [DecidableEq ι] in
theorem Worker.Secure.wait {t : ℕ} (secure : w.Secure d key i)
    (prompt : ∀ due ∈ w.due d, t ≤ due) : w.Secure d (key.wait t) i := by
  unfold Worker.Secure at secure ⊢
  unfold Worker.due at prompt
  split at secure
  case h_1 | h_2 | h_3 => trivial
  case h_4 since answer phase =>
    rw [phase] at prompt
    exact ⟨le_trans secure.1 (le_max_left ..), max_le secure.2.1 (prompt _ rfl),
      fun done => (secure.2.2 done).wait⟩
  case h_5 since phase | h_9 since until_ phase =>
    rw [phase] at prompt
    exact ⟨Lease.Key.Until.wait secure.1, secure.2.1, max_le secure.2.2 (prompt _ rfl)⟩
  case h_6 => exact ⟨Lease.Key.Until.wait secure.1, secure.2⟩
  case h_7 | h_8 => exact Lease.Key.Until.wait secure
  case h_10 since answer rest phase =>
    rw [phase] at prompt
    obtain ⟨mine, started, early, done⟩ := secure
    exact ⟨Lease.Key.Until.wait mine, le_trans started (le_max_left ..),
      max_le early (prompt _ rfl), fun answered => (done answered).wait⟩

def Secured (d : Delays) (key : Key ι) (workers : ι → Worker) : Prop :=
  ∀ i, (workers i).Secure d key i

theorem Secured.set {workers : ι → Worker}
    (others : ∀ j, j ≠ i → (workers j).Secure d key j) (mine : w.Secure d key i) :
    Secured d key (Function.update workers i w) :=
  (Function.forall_update_iff workers fun j (w : Worker) => w.Secure d key j).mpr ⟨mine, others⟩

theorem Secured.step :
    Preserves System.step (Prompt d) fun s : System ι => Secured d s.key s.workers := by
  intro s a s' secured prompt stepped
  have only {i : ι} {w : Worker} (mine : w.Secure d s.key i) :
      Secured d s.key (Function.update s.workers i w) :=
    Secured.set (fun j _ => secured j) mine
  have fits := d.fits
  have asks : System.Asks a := by
    cases a with
    | wait t => trivial
    | _ => exact prompt
  cases System.moves asks stepped with
  | wait same =>
      subst same
      exact fun i => (secured i).wait (prompt i)
  | stop i => exact only (secured i)
  | start i => exact only trivial
  | leave i phase out =>
      rcases out with rfl | rfl | rfl
      all_goals exact only trivial
  | acquire i => exact only ⟨le_refl _, Nat.le_add_right .., fun no => by cases no⟩
  | @setNx i since phase =>
      refine Secured.set (fun j _ => (secured j).of_key Lease.Key.acquire_now fun _ mine =>
        mine.acquire) ?_
      obtain ⟨started, early, _⟩ := (secured i).of_phase phase
      refine ⟨?_, ?_, fun got => ?_⟩
      · rw [Lease.Key.acquire_now]
        exact started
      · rw [Lease.Key.acquire_now]
        exact early
      · exact (Lease.Key.until_acquire (Option.some.inj got)).anti (Nat.add_le_add_right started _)
  | @acquired i since phase =>
      obtain ⟨started, early, done⟩ := (secured i).of_phase phase
      refine only ⟨(done rfl).anti (Nat.sub_le ..), ?_, Nat.le_add_right ..⟩
      change s.key.now ≤ since + lockRenew + d.step + d.call
      omega
  | release i =>
      exact Secured.set (fun j other => (secured j).of_key Lease.Key.release_now fun _ mine =>
        mine.release other) trivial
  | @pass i since phase =>
      obtain ⟨mine, fresh, early⟩ := (secured i).of_phase phase
      refine only ⟨mine, ?_⟩
      change s.key.now ≤ (s.workers i).lastRenew + lockRenew + 2 * d.step + d.call
      have fresh : since ≤ (s.workers i).lastRenew + lockRenew + d.step + d.call := fresh
      omega
  | @passed i since phase =>
      have secure := (secured i).of_phase phase
      exact only secure.1
  | @due i leads rest =>
      have mine : (s.workers i).Holds d s.key i := by
        rcases leads with ⟨elapsed, phase⟩ | ⟨until_, wake, phase⟩
        · exact (secured i).of_phase phase
        · exact (secured i).of_phase phase
      exact only ⟨mine, le_refl _, Nat.le_add_right .., fun no => by cases no⟩
  | @fresh i leads early until_ =>
      have mine : (s.workers i).Holds d s.key i := by
        rcases leads with ⟨elapsed, phase⟩ | ⟨until_, wake, phase⟩
        · exact (secured i).of_phase phase
        · exact (secured i).of_phase phase
      exact only ⟨mine, Nat.le_of_lt early, Nat.le_add_right ..⟩
  | @nap i since until_ phase wake =>
      have secure := (secured i).of_phase phase
      exact only secure.1
  | @top i since until_ phase =>
      obtain ⟨mine, fresh, early⟩ := (secured i).of_phase phase
      refine only ⟨mine, ?_, Nat.le_add_right ..⟩
      change s.key.now ≤ (s.workers i).lastRenew + lockRenew + d.step + d.call
      have fresh : since ≤ (s.workers i).lastRenew + lockRenew := fresh
      omega
  | @renew i since rest phase =>
      refine Secured.set (fun j _ => (secured j).of_key Lease.Key.renew_now fun _ mine =>
        mine.renew) ?_
      obtain ⟨mine, started, early, _⟩ := (secured i).of_phase phase
      refine ⟨Lease.Key.Until.renew mine, ?_, ?_, fun got => ?_⟩
      · rw [Lease.Key.renew_now]
        exact started
      · rw [Lease.Key.renew_now]
        exact early
      · exact (Lease.Key.until_renew (Option.some.inj got)).anti (Nat.add_le_add_right started _)
  | @renewed i since rest phase until_ =>
      obtain ⟨_, started, early, done⟩ := (secured i).of_phase phase
      refine only ⟨(done rfl).anti ?_, Nat.le_add_right .., Nat.le_add_right ..⟩
      change s.key.now + lockTtl - d.call ≤ since + lockTtl
      omega

theorem secured_of_run (run : Run System.step (Prompt d) {} s) : Secured d s.key s.workers :=
  run.invariant Secured.step fun _ => trivial

/-- A pass begins under the lock, and two passes overlap only if one of them has gone on for three
quarters of a minute. -/
theorem passes_apart (run : Run System.step (Prompt d) {} s) :
    (∀ i since, (s.workers i).phase = .top since → s.key.holder = some i) ∧
      ∀ i j since since', (s.workers i).phase = .passing since →
        (s.workers j).phase = .passing since' → i ≠ j →
        since + 45000 ≤ s.key.now + 2 * (d.step + d.call) ∨
          since' + 45000 ≤ s.key.now + 2 * (d.step + d.call) := by
  have secured := secured_of_run run
  have fits := d.fits
  have renewed : lockTtl = lockRenew + 45000 := rfl
  refine ⟨fun i since phase => ?_, fun i j since since' phase phase' other => ?_⟩
  · obtain ⟨mine, fresh, early⟩ := (secured i).of_phase phase
    refine mine.holder ?_
    change s.key.now < (s.workers i).lastRenew + lockTtl - d.call
    have fresh : since ≤ (s.workers i).lastRenew + lockRenew + d.step + d.call := fresh
    omega
  · obtain ⟨mine, began⟩ := (secured i).of_phase phase
    obtain ⟨yours, began'⟩ := (secured j).of_phase phase'
    have began : since ≤ (s.workers i).lastRenew + lockRenew + 2 * d.step + d.call := began
    have began' : since' ≤ (s.workers j).lastRenew + lockRenew + 2 * d.step + d.call := began'
    by_contra short
    -- Both would still have the lock.
    refine other (mine.unique yours ?_ ?_)
    · change s.key.now < (s.workers i).lastRenew + lockTtl - d.call
      omega
    · change s.key.now < (s.workers j).lastRenew + lockTtl - d.call
      omega

/-- A call to Redis in a second and a half, and a thread that is two seconds late. -/
def ordinary : Delays := ⟨2000, 1500, by decide⟩

/-- A pass of more than a minute, which the next leader does not wait for. -/
theorem passes_apart_long : ∃ s : System Bool,
    execGuarded System.step (Prompt ordinary) {} [.acquire false, .setNx false, .acquired false,
      .head false true, .wait 61000, .acquire true, .setNx true, .acquired true,
      .head true true] = some s ∧
    (0 + 45000 ≤ s.key.now + 7000 ∨ 61000 + 45000 ≤ s.key.now + 7000) := by
  have ran : (execGuarded System.step (Prompt ordinary) ({} : System Bool) [.acquire false,
      .setNx false, .acquired false, .head false true, .wait 61000, .acquire true, .setNx true,
      .acquired true, .head true true]).map (fun s =>
        ((s.workers false).phase, (s.workers true).phase)) =
      some (.passing 0, .passing 61000) := by
    decide +kernel
  obtain ⟨s, executed, view⟩ := Option.map_eq_some_iff.mp ran
  obtain ⟨first, second⟩ := Prod.mk.inj view
  exact ⟨s, executed, (passes_apart (Run.of_execGuarded executed)).2 false true _ _ first second
    Bool.false_ne_true⟩

end ReconcileRunner

end Avalant
