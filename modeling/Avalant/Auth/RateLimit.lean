import Avalant.Lib.Run
import Avalant.Lib.Window
import Mathlib.Algebra.Order.Field.Rat
import Mathlib.Data.Rat.Floor
import Mathlib.Tactic.Linarith
import Mathlib.Tactic.Positivity

/-!
`rate_limit.enforce`, for one bucket and one key.

Redis counts the calls of fixed windows, so what it accepts around the end of a window may be in one
interval of a window's length. The memory of a process keeps the times of its calls, but a call is
checked and recorded in two critical sections, so calls that are checked before others are recorded
do not see these.

A step is one pipeline that reaches Redis, or one critical section of a process; either reads the
clock.
-/

namespace Avalant

namespace RateLimit

open Transition

/-- The parameters of a `_Bucket`. -/
structure Bucket where
  maxAttempts : ℕ
  windowSec : ℕ
  blockSec : ℕ
  windowSec_pos : 0 < windowSec

/-- `_BUCKETS`. -/
def buckets : List (String × Bucket) :=
  [("payments_checkout", ⟨5, 60, 300, by decide⟩),
   ("promo_validate", ⟨10, 60, 300, by decide⟩),
   ("wallets_create", ⟨30, 3600, 900, by decide⟩),
   ("admin_write", ⟨60, 60, 120, by decide⟩),
   ("screener_public", ⟨120, 60, 120, by decide⟩)]

/-- A key in Redis; without a TTL it stays. -/
structure Counter where
  count : ℕ
  expiresAt : Option ℚ

/-- Where a call is decided. -/
inductive Backend where
  | redis
  | memory (process : ℕ)
deriving DecidableEq

structure State where
  now : ℚ := 0
  /-- The keys in Redis, by their window floor. -/
  counters : ℤ → Option Counter := fun _ => none
  /-- `_attempts[key]` of a process. -/
  attempts : ℕ → List ℚ := fun _ => []
  /-- The calls of a process between `check` and `record`. -/
  checked : ℕ → ℕ := fun _ => 0
  /-- The times of the calls that Redis has counted. -/
  incrs : List ℚ := []
  /-- The calls that were accepted. -/
  accepted : List (Backend × ℚ) := []

/-- What becomes of a pipeline that reaches Redis: its connection may be lost before the answer, or
before the `EXPIRE`. A call without an answer goes to the memory, as one without a client does. -/
inductive Outcome where
  | answered
  | unanswered
  | cut
deriving DecidableEq

inductive Act where
  | tick (now : ℚ)
  | pipeline (outcome : Outcome)
  | check (process : ℕ)
  | record (process : ℕ)

section

variable (b : Bucket)

/-- `int(time.time() // max(1, b.window_sec)) * b.window_sec`. -/
def windowFloor (t : ℚ) : ℤ := (t / (max 1 b.windowSec : ℕ)).floor * b.windowSec

/-- A key that has not expired. -/
def Counter.live (now : ℚ) (counter : Option Counter) : Option Counter :=
  counter.filter fun c => c.expiresAt.all fun expiry => now < expiry

/-- The key after a pipeline. -/
def Counter.incr (now : ℚ) (outcome : Outcome) (counter : Option Counter) : Counter :=
  let before := Counter.live now counter
  { count := before.elim 0 Counter.count + 1
    expiresAt := if outcome = .cut then before.bind Counter.expiresAt
      else some (now + (b.windowSec + 5)) }

/-- The times that a `check` keeps. -/
def State.kept (s : State) (process : ℕ) : List ℚ :=
  let cutoff := s.now - b.windowSec
  (s.attempts process).filter fun t => cutoff < t

def step (s : State) : Act → Option State
  | .tick now => if s.now ≤ now then some { s with now := now } else none
  | .pipeline outcome =>
      let floor := windowFloor b s.now
      let counter := Counter.incr b s.now outcome (s.counters floor)
      some { s with
        counters := Function.update s.counters floor (some counter)
        incrs := s.incrs ++ [s.now]
        accepted := s.accepted ++
          if outcome = .answered ∧ counter.count ≤ b.maxAttempts then [(.redis, s.now)] else [] }
  | .check process =>
      let attempts := Function.update s.attempts process (s.kept b process)
      if b.maxAttempts ≤ (s.kept b process).length then some { s with attempts := attempts }
      else some { s with
        attempts := attempts
        checked := Function.update s.checked process (s.checked process + 1)
        accepted := s.accepted ++ [(.memory process, s.now)] }
  | .record process =>
      if s.checked process = 0 then none
      else some { s with
        attempts := Function.update s.attempts process (s.attempts process ++ [s.now])
        checked := Function.update s.checked process (s.checked process - 1) }

/-- The times of the calls that a backend accepted. -/
def State.acceptedBy (s : State) (backend : Backend) : List ℚ :=
  (s.accepted.filter fun a => a.1 = backend).map Prod.snd

/-- No backend accepts more than `max_attempts` calls in an interval of the window's length. -/
def EveryWindow (s : State) : Prop :=
  ∀ backend, Window.Bounded b.maxAttempts (b.windowSec : ℚ) (s.acceptedBy backend)

/-- The calls that Redis counted in a window, in their order. -/
def State.incrsIn (s : State) (floor : ℤ) : List ℚ :=
  s.incrs.filter fun t => windowFloor b t = floor

/-- The calls that Redis counts in a window up to the limit, with those of the window before that
are not yet older than a window, are not more than the limit. -/
def NoBurst (s : State) : Prop :=
  let floor := windowFloor b s.now
  let number := (s.incrsIn b floor).length + 1
  number ≤ b.maxAttempts →
    Window.countSince (s.now - b.windowSec)
      ((s.incrsIn b (floor - b.windowSec)).take b.maxAttempts) + number ≤ b.maxAttempts

/-- The calls of a process that were checked and not yet recorded leave room for another one. -/
def NoOverlap (s : State) (process : ℕ) : Prop :=
  (s.kept b process).length < b.maxAttempts →
    (s.kept b process).length + s.checked process < b.maxAttempts

/-- Neither a burst around the end of a window, nor calls that do not see each other. -/
def Spaced (s : State) : Act → Prop
  | .pipeline .answered => NoBurst b s
  | .check process => NoOverlap b s process
  | _ => True

instance (s : State) (act : Act) : Decidable (Spaced b s act) := by
  unfold Spaced NoBurst NoOverlap
  split <;> infer_instance

/-! ## Fixed windows -/

theorem windowSec_pos' : (0 : ℚ) < b.windowSec := by exact_mod_cast b.windowSec_pos

theorem windowFloor_eq (t : ℚ) : windowFloor b t = (t / b.windowSec).floor * b.windowSec := by
  unfold windowFloor
  rw [max_eq_right (Nat.one_le_iff_ne_zero.mpr b.windowSec_pos.ne')]

theorem windowFloor_le (t : ℚ) : (windowFloor b t : ℚ) ≤ t := by
  rw [windowFloor_eq]
  push_cast
  have below : ((t / b.windowSec).floor : ℚ) ≤ t / b.windowSec := Rat.floor_le _
  rwa [le_div_iff₀ (windowSec_pos' b)] at below

theorem lt_windowFloor_add (t : ℚ) : t < windowFloor b t + b.windowSec := by
  rw [windowFloor_eq]
  push_cast
  have above := Rat.lt_floor_add_one (t / b.windowSec)
  push_cast at above
  rw [div_lt_iff₀ (windowSec_pos' b)] at above
  linarith

/-- A call that is not older than a window was made in the same window or in the one before. -/
theorem windowFloor_cases {t now : ℚ} (earlier : t ≤ now) (young : now - b.windowSec < t) :
    windowFloor b t = windowFloor b now ∨ windowFloor b t = windowFloor b now - b.windowSec := by
  have pos := b.windowSec_pos
  have low : windowFloor b now - b.windowSec < windowFloor b t + b.windowSec := by
    have bound : (windowFloor b now : ℚ) - b.windowSec < windowFloor b t + b.windowSec := by
      linarith [windowFloor_le b now, lt_windowFloor_add b t]
    exact_mod_cast bound
  have high : windowFloor b t < windowFloor b now + b.windowSec := by
    have bound : (windowFloor b t : ℚ) < windowFloor b now + b.windowSec := by
      linarith [windowFloor_le b t, lt_windowFloor_add b now]
    exact_mod_cast bound
  rw [windowFloor_eq, windowFloor_eq] at *
  generalize (t / b.windowSec).floor = k at *
  generalize (now / b.windowSec).floor = m at *
  have wide : (0 : ℤ) < b.windowSec := by exact_mod_cast pos
  have below : k < m + 1 := by
    refine lt_of_mul_lt_mul_right ?_ wide.le
    linarith
  have above : m - 1 < k + 1 := by
    refine lt_of_mul_lt_mul_right ?_ wide.le
    linarith
  have either : k = m ∨ k = m - 1 := by omega
  rcases either with rfl | rfl
  · exact Or.inl rfl
  · right
    ring

/-! ## What the counts say -/

structure Inv (s : State) : Prop where
  incrs_le : ∀ t ∈ s.incrs, t ≤ s.now
  accepted_le : ∀ backend, ∀ t ∈ s.acceptedBy backend, t ≤ s.now
  /-- A key counts its window, and does not expire before its end. -/
  counter : ∀ floor, (s.counters floor).elim (s.incrsIn b floor = []) fun c =>
    c.count = (s.incrsIn b floor).length ∧ ∀ expiry ∈ c.expiresAt, (floor : ℚ) + b.windowSec < expiry
  /-- Redis accepts among the first calls of a window. -/
  first : ∀ floor, ((s.acceptedBy .redis).filter fun t => windowFloor b t = floor).Sublist
    ((s.incrsIn b floor).take b.maxAttempts)
  /-- A call that a process accepted is kept, or still to be recorded. -/
  kept : ∀ process cutoff, s.now - b.windowSec ≤ cutoff →
    Window.countSince cutoff (s.acceptedBy (.memory process)) ≤
      Window.countSince cutoff (s.attempts process) + s.checked process
  bounded : EveryWindow b s

variable {b} {s s' : State}

theorem initial_inv : Inv b {} where
  incrs_le := by
    intro t member
    cases member
  accepted_le := by
    intro backend t member
    cases member
  counter := fun _ => rfl
  first := fun _ => List.nil_sublist _
  kept := fun _ _ _ => Nat.zero_le _
  bounded := fun _ => Window.bounded_nil _ _

/-- A call accepted by one backend leaves the others as they were. -/
theorem acceptedBy_concat {decider : Backend} {t : ℚ}
    (added : s'.accepted = s.accepted ++ [(decider, t)]) (backend : Backend) :
    s'.acceptedBy backend = s.acceptedBy backend ++ if decider = backend then [t] else [] := by
  unfold State.acceptedBy
  rw [added, List.filter_append, List.map_append]
  by_cases same : decider = backend
  · simp [same]
  · simp [same]

theorem incrsIn_concat {t : ℚ} (added : s'.incrs = s.incrs ++ [t]) (floor : ℤ) :
    s'.incrsIn b floor = s.incrsIn b floor ++ if windowFloor b t = floor then [t] else [] := by
  unfold State.incrsIn
  rw [added, List.filter_append]
  by_cases same : windowFloor b t = floor
  · simp [same]
  · simp [same]

theorem incrsIn_take_sublist {t : ℚ} (added : s'.incrs = s.incrs ++ [t]) (floor : ℤ) (n : ℕ) :
    ((s.incrsIn b floor).take n).Sublist ((s'.incrsIn b floor).take n) := by
  rw [incrsIn_concat added, List.take_append]
  exact List.sublist_append_left _ _

/-- The key of the current window is there if it was ever counted. -/
theorem Inv.count_incr (inv : Inv b s) (outcome : Outcome) :
    (Counter.incr b s.now outcome (s.counters (windowFloor b s.now))).count =
      (s.incrsIn b (windowFloor b s.now)).length + 1 := by
  have known := inv.counter (windowFloor b s.now)
  unfold Counter.incr Counter.live
  cases found : s.counters (windowFloor b s.now) with
  | none =>
      rw [found] at known
      change s.incrsIn b _ = [] at known
      rw [known]
      rfl
  | some c =>
      rw [found] at known
      obtain ⟨count, later⟩ := known
      have alive : (some c).filter (fun c => c.expiresAt.all fun expiry => s.now < expiry) =
          some c := by
        refine Option.filter_some_pos ?_
        cases ttl : c.expiresAt with
        | none => rfl
        | some expiry =>
            have less := (lt_windowFloor_add b s.now).trans (later expiry ttl)
            simpa using less
      dsimp only
      rw [alive]
      exact congrArg (· + 1) count

theorem Inv.expiry_incr (inv : Inv b s) (outcome : Outcome) :
    ∀ expiry ∈ (Counter.incr b s.now outcome (s.counters (windowFloor b s.now))).expiresAt,
      (windowFloor b s.now : ℚ) + b.windowSec < expiry := by
  intro expiry
  have known := inv.counter (windowFloor b s.now)
  unfold Counter.incr Counter.live
  dsimp only
  split
  case isTrue =>
    intro member
    obtain ⟨c, found, ttl⟩ := Option.bind_eq_some_iff.mp member
    have stored := (Option.mem_filter_iff.mp found).1
    rw [Option.mem_def.mp stored] at known
    exact known.2 expiry ttl
  case isFalse =>
    intro member
    rw [← Option.some_inj.mp member]
    linarith [windowFloor_le b s.now]

/-- The calls that Redis accepted and that are not older than a window. -/
theorem Inv.countSince_redis (inv : Inv b s) :
    Window.countSince (s.now - b.windowSec) (s.acceptedBy .redis) ≤
      Window.countSince (s.now - b.windowSec)
          ((s.incrsIn b (windowFloor b s.now - b.windowSec)).take b.maxAttempts) +
        (s.incrsIn b (windowFloor b s.now)).length := by
  have split := Window.countP_le_add (l := s.acceptedBy .redis)
    (p := fun t => decide (s.now - b.windowSec < t))
    (q := fun t => decide (s.now - b.windowSec < t) &&
      decide (windowFloor b t = windowFloor b s.now - b.windowSec))
    (r := fun t => decide (windowFloor b t = windowFloor b s.now)) (by
      intro t member young
      have young := of_decide_eq_true young
      rcases windowFloor_cases b (inv.accepted_le .redis t member) young with same | before
      · exact Or.inr (by simpa using same)
      · exact Or.inl (by simp [young, before]))
  have earlier := Window.countSince_le_of_sublist
    (inv.first (windowFloor b s.now - b.windowSec)) (s.now - b.windowSec)
  have own := (inv.first (windowFloor b s.now)).length_le
  have taken := (List.take_sublist b.maxAttempts (s.incrsIn b (windowFloor b s.now))).length_le
  unfold Window.countSince at earlier ⊢
  rw [List.countP_filter] at earlier
  rw [← List.countP_eq_length_filter] at own
  omega

/-- A process has kept, or will record, what it accepted and is not older than a window. -/
theorem Inv.countSince_memory (inv : Inv b s) (process : ℕ) :
    Window.countSince (s.now - b.windowSec) (s.acceptedBy (.memory process)) ≤
      (s.kept b process).length + s.checked process := by
  have counted := inv.kept process (s.now - b.windowSec) le_rfl
  have same : Window.countSince (s.now - b.windowSec) (s.attempts process) =
      (s.kept b process).length := List.countP_eq_length_filter
  omega

/-! ## Steps -/

theorem Inv.tick (inv : Inv b s) {now : ℚ} (later : s.now ≤ now) :
    Inv b { s with now := now } where
  incrs_le := fun t member => (inv.incrs_le t member).trans later
  accepted_le := fun backend t member => (inv.accepted_le backend t member).trans later
  counter := inv.counter
  first := inv.first
  kept := fun process cutoff old => inv.kept process cutoff (by linarith)
  bounded := inv.bounded

/-- What the counts of Redis keep, whatever is accepted of the call. -/
theorem Inv.counter_pipeline (inv : Inv b s) (outcome : Outcome) (floor : ℤ)
    (added : s'.incrs = s.incrs ++ [s.now])
    (counted : s'.counters = Function.update s.counters (windowFloor b s.now)
      (some (Counter.incr b s.now outcome (s.counters (windowFloor b s.now))))) :
    (s'.counters floor).elim (s'.incrsIn b floor = []) fun c =>
      c.count = (s'.incrsIn b floor).length ∧
        ∀ expiry ∈ c.expiresAt, (floor : ℚ) + b.windowSec < expiry := by
  rw [counted, incrsIn_concat added]
  by_cases own : floor = windowFloor b s.now
  · subst own
    rw [Function.update_self, if_pos rfl, List.length_append]
    exact ⟨inv.count_incr outcome, inv.expiry_incr outcome⟩
  · rw [Function.update_of_ne own, if_neg (Ne.symm own), List.append_nil]
    exact inv.counter floor

/-- A call that is accepted now is not later than now. -/
theorem Inv.accepted_le_concat (inv : Inv b s) {decider : Backend} (same : s'.now = s.now)
    (added : s'.accepted = s.accepted ++ [(decider, s.now)]) :
    ∀ backend, ∀ t ∈ s'.acceptedBy backend, t ≤ s'.now := by
  intro backend t member
  rw [acceptedBy_concat added] at member
  rw [same]
  rcases List.mem_append.mp member with before | now
  · exact inv.accepted_le backend t before
  · split at now
    · exact (List.mem_singleton.mp now).le
    · cases now

theorem Inv.pipeline_refused (inv : Inv b s) (outcome : Outcome) :
    Inv b { s with
      counters := Function.update s.counters (windowFloor b s.now)
        (some (Counter.incr b s.now outcome (s.counters (windowFloor b s.now))))
      incrs := s.incrs ++ [s.now] } where
  incrs_le := by
    intro t member
    rcases List.mem_append.mp member with before | now
    · exact inv.incrs_le t before
    · exact (List.mem_singleton.mp now).le
  accepted_le := inv.accepted_le
  counter := fun floor => inv.counter_pipeline outcome floor rfl rfl
  first := by
    intro floor
    exact (inv.first floor).trans (incrsIn_take_sublist rfl floor b.maxAttempts)
  kept := inv.kept
  bounded := inv.bounded

/-- An answer within the limit, where there is no burst. -/
theorem Inv.pipeline_accepted (inv : Inv b s) (outcome : Outcome) (noBurst : NoBurst b s)
    (within : (s.incrsIn b (windowFloor b s.now)).length + 1 ≤ b.maxAttempts) :
    Inv b { s with
      counters := Function.update s.counters (windowFloor b s.now)
        (some (Counter.incr b s.now outcome (s.counters (windowFloor b s.now))))
      incrs := s.incrs ++ [s.now]
      accepted := s.accepted ++ [(.redis, s.now)] } where
  incrs_le := (inv.pipeline_refused outcome).incrs_le
  accepted_le := inv.accepted_le_concat rfl rfl
  counter := fun floor => inv.counter_pipeline outcome floor rfl rfl
  first := by
    intro floor
    rw [acceptedBy_concat rfl, incrsIn_concat rfl, if_pos rfl, List.filter_append]
    by_cases own : windowFloor b s.now = floor
    · rw [if_pos own]
      subst own
      rw [List.take_of_length_le (by simpa using within)]
      refine List.Sublist.append ((inv.first _).trans (List.take_sublist _ _)) ?_
      exact List.filter_sublist
    · have elsewhere : List.filter (fun t => decide (windowFloor b t = floor)) [s.now] = [] := by
        simp [own]
      rw [if_neg own, elsewhere, List.append_nil, List.append_nil]
      exact inv.first floor
  kept := by
    intro process cutoff young
    rw [acceptedBy_concat rfl, if_neg (by simp), List.append_nil]
    exact inv.kept process cutoff young
  bounded := by
    intro backend
    rw [acceptedBy_concat rfl]
    by_cases redis : Backend.redis = backend
    · subst redis
      rw [if_pos rfl]
      refine (inv.bounded .redis).concat ?_
      have counted := inv.countSince_redis
      have few := noBurst within
      omega
    · rw [if_neg redis, List.append_nil]
      exact inv.bounded backend

/-- A check drops what is older than a window. -/
theorem Inv.prune (inv : Inv b s) (process : ℕ) :
    Inv b { s with attempts := Function.update s.attempts process (s.kept b process) } where
  incrs_le := inv.incrs_le
  accepted_le := inv.accepted_le
  counter := inv.counter
  first := inv.first
  kept := by
    intro process' cutoff young
    have counted := inv.kept process' cutoff young
    by_cases own : process' = process
    · subst own
      dsimp only
      rw [Function.update_self]
      unfold State.kept
      rw [Window.countSince_filter young]
      exact counted
    · dsimp only
      rw [Function.update_of_ne own]
      exact counted
  bounded := inv.bounded

theorem Inv.check_accepted (inv : Inv b s) {process : ℕ} (noOverlap : NoOverlap b s process)
    (fewer : (s.kept b process).length < b.maxAttempts) :
    Inv b { s with
      attempts := Function.update s.attempts process (s.kept b process)
      checked := Function.update s.checked process (s.checked process + 1)
      accepted := s.accepted ++ [(.memory process, s.now)] } where
  incrs_le := inv.incrs_le
  accepted_le := inv.accepted_le_concat rfl rfl
  counter := inv.counter
  first := by
    intro floor
    rw [acceptedBy_concat rfl, if_neg (by simp), List.append_nil]
    exact inv.first floor
  kept := by
    intro process' cutoff young
    have counted : Window.countSince cutoff (s.acceptedBy (.memory process')) ≤
        Window.countSince cutoff (Function.update s.attempts process (s.kept b process) process') +
          s.checked process' := (inv.prune process).kept process' cutoff young
    rw [acceptedBy_concat rfl, Window.countSince_append]
    by_cases own : process = process'
    · subst own
      have one : Window.countSince cutoff (if Backend.memory process = .memory process
          then [s.now] else []) ≤ 1 := by
        rw [if_pos rfl]
        exact List.countP_le_length
      dsimp only
      rw [Function.update_self] at counted
      rw [Function.update_self, Function.update_self]
      omega
    · have other : ¬Backend.memory process = .memory process' := by simpa using own
      dsimp only
      rw [if_neg other, Function.update_of_ne (Ne.symm own) _ s.checked]
      exact counted
  bounded := by
    intro backend
    rw [acceptedBy_concat rfl]
    by_cases own : Backend.memory process = backend
    · subst own
      rw [if_pos rfl]
      refine (inv.bounded (.memory process)).concat ?_
      exact (inv.countSince_memory process).trans_lt (noOverlap fewer)
    · rw [if_neg own, List.append_nil]
      exact inv.bounded backend

theorem Inv.record (inv : Inv b s) {process : ℕ} (waiting : s.checked process ≠ 0) :
    Inv b { s with
      attempts := Function.update s.attempts process (s.attempts process ++ [s.now])
      checked := Function.update s.checked process (s.checked process - 1) } where
  incrs_le := inv.incrs_le
  accepted_le := inv.accepted_le
  counter := inv.counter
  first := inv.first
  kept := by
    intro process' cutoff young
    change Window.countSince cutoff (s.acceptedBy (.memory process')) ≤ _
    have counted := inv.kept process' cutoff young
    by_cases own : process' = process
    · subst own
      dsimp only at counted ⊢
      rw [Function.update_self, Function.update_self, Window.countSince_append]
      by_cases past : cutoff < s.now
      · have one : Window.countSince cutoff [s.now] = 1 := by simp [Window.countSince, past]
        omega
      · -- nothing is accepted after now
        have none_yet : Window.countSince cutoff (s.acceptedBy (.memory process')) = 0 :=
          Window.countSince_eq_zero fun t member =>
            (inv.accepted_le _ t member).trans (not_lt.mp past)
        omega
    · dsimp only at counted ⊢
      rw [Function.update_of_ne own, Function.update_of_ne own]
      exact counted
  bounded := inv.bounded

theorem preserves_inv (b : Bucket) : Preserves (step b) (Spaced b) (Inv b) := by
  intro s act s' inv spaced stepped
  cases act with
  | tick now =>
      unfold step at stepped
      dsimp only at stepped
      split at stepped
      case isTrue later =>
        cases stepped
        exact inv.tick later
      case isFalse => cases stepped
  | pipeline outcome =>
      unfold step at stepped
      dsimp only at stepped
      rw [inv.count_incr] at stepped
      split at stepped
      case isTrue accepted =>
        obtain ⟨rfl, within⟩ := accepted
        cases stepped
        exact inv.pipeline_accepted .answered spaced within
      case isFalse =>
        cases stepped
        rw [List.append_nil]
        exact inv.pipeline_refused outcome
  | check process =>
      unfold step at stepped
      dsimp only at stepped
      split at stepped
      case isTrue =>
        cases stepped
        exact inv.prune process
      case isFalse fewer =>
        cases stepped
        exact inv.check_accepted spaced (not_le.mp fewer)
  | record process =>
      unfold step at stepped
      dsimp only at stepped
      split at stepped
      case isTrue => cases stepped
      case isFalse waiting =>
        cases stepped
        exact inv.record waiting

end

/-! ## Runs -/

/-- The bucket of `payments_checkout`. -/
def checkout : Bucket := ⟨5, 60, 300, by decide⟩

/-- Three calls before the end of a window and two after it, and one in memory. -/
def spacedCalls : List Act :=
  [.tick 59] ++ List.replicate 3 (.pipeline .answered) ++ [.tick 60] ++
    List.replicate 2 (.pipeline .answered) ++ [.pipeline .unanswered, .check 0, .record 0]

/-- Five calls at the end of a window, and five at the beginning of the next. -/
def burst : List Act :=
  [.tick 59] ++ List.replicate 5 (.pipeline .answered) ++ [.tick 60] ++
    List.replicate 5 (.pipeline .answered)

/-- Four calls in memory, and two more of which neither is recorded when the other is checked. -/
def overlapping : List Act :=
  (List.replicate 4 [.check 0, .record 0]).flatten ++ [.check 0, .check 0, .record 0, .record 0]

/-- The calls that a run accepts in an interval of a minute. -/
def acceptedIn (acts : List Act) (backend : Backend) (start : ℚ) : Option ℕ :=
  (exec (step checkout) {} acts).map fun s => Window.countIn start 60 (s.acceptedBy backend)

theorem not_everyWindow {acts : List Act} {backend : Backend} {start : ℚ} {n : ℕ}
    (accepted : acceptedIn acts backend start = some n) (more : 5 < n) :
    ∃ s, Run (step checkout) (fun _ _ => True) {} s ∧ ¬EveryWindow checkout s := by
  obtain ⟨s, executed, counted⟩ := Option.map_eq_some_iff.mp accepted
  refine ⟨s, Run.of_exec executed, fun every => ?_⟩
  have most : Window.countIn start 60 (s.acceptedBy backend) ≤ 5 := every backend start
  omega

end RateLimit

end Avalant
