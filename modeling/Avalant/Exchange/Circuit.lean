import Avalant.Lib.Run
import Mathlib.Algebra.Order.Field.Rat
import Mathlib.Algebra.Order.Ring.Unbundled.Rat
import Mathlib.Data.Option.Basic

/-!
`_CircuitBreaker`, for one exchange.

A step is the read of the open-until time in `allow`, or one critical section. `allow` that finds
the window over resets in a second step, and `fail` and `hard_fail` read the clock before they get
the lock. The open-until time is set and popped without a look at what it was, so a window is kept
where no step finds one in force that it ends earlier.
-/

namespace Avalant

namespace Circuit

open Transition

structure Breaker where
  threshold : ℕ := 10
  windowS : ℚ := 60
  cooldownS : ℚ := 60

structure State where
  now : ℚ := 0
  /-- The entry of `_open_until`. -/
  openUntil : Option ℚ := none
  /-- The entry of `_failures`. A missing one is as good as an empty one. -/
  failures : List ℚ := []
  /-- The calls of `allow` that found the window over and have not reset yet. -/
  resetting : ℕ := 0
  /-- The ends of the cooldowns that were recorded. -/
  announced : List ℚ := []
deriving DecidableEq

/-- What `allow` does after its read. It returns `True` after a reset, too. -/
inductive Verdict where
  | refuse
  | reset
  | proceed
deriving DecidableEq

def allow (openUntil : Option ℚ) (now : ℚ) : Verdict :=
  let until' := openUntil.getD 0
  if now < until' then .refuse
  else if until' ≠ 0 ∧ until' ≤ now then .reset
  else .proceed

namespace Breaker

variable (breaker : Breaker)

/-- The deque in `fail` once the failures older than the window are dropped. -/
def recent (failures : List ℚ) (read : ℚ) : List ℚ :=
  (failures ++ [read]).dropWhile fun t => t < read - breaker.windowS

def opens (failures : List ℚ) (read : ℚ) : Prop :=
  breaker.threshold ≤ (breaker.recent failures read).length

instance (failures : List ℚ) (read : ℚ) : Decidable (breaker.opens failures read) := by
  unfold opens
  infer_instance

end Breaker

/-- A new open-until time, with the failures cleared. -/
def openFor (s : State) (deadline : ℚ) : State :=
  { s with openUntil := some deadline, failures := [], announced := s.announced ++ [deadline] }

inductive Act where
  | tick (now : ℚ)
  | allow
  | reset
  | fail (read : ℚ)
  | hardFail (read : ℚ) (cooldownS : Option ℚ)
  | ok

def step (breaker : Breaker) (s : State) : Act → Option State
  | .tick now => if s.now ≤ now then some { s with now := now } else none
  | .allow =>
      if Circuit.allow s.openUntil s.now = .reset then
        some { s with resetting := s.resetting + 1 }
      else some s
  | .reset =>
      if 0 < s.resetting then
        some { s with openUntil := none, failures := [], resetting := s.resetting - 1 }
      else none
  | .fail read =>
      if read ≤ s.now then
        if breaker.opens s.failures read then some (openFor s (read + breaker.cooldownS))
        else some { s with failures := breaker.recent s.failures read }
      else none
  | .hardFail read cooldownS =>
      if read ≤ s.now then some (openFor s (read + cooldownS.getD breaker.cooldownS)) else none
  | .ok => some { s with failures := s.failures.drop (s.failures.length / 2) }

/-- `allow` returns `False` as long as a recorded cooldown has not ended. -/
def CooldownsKept (s : State) : Prop :=
  ∀ deadline ∈ s.announced, s.now < deadline → allow s.openUntil s.now = .refuse

instance (s : State) : Decidable (CooldownsKept s) :=
  inferInstanceAs (Decidable (∀ deadline ∈ s.announced, s.now < deadline →
    allow s.openUntil s.now = .refuse))

/-- The window in force, if there is one, ends at the deadline or before. -/
def EndsBy (s : State) (deadline : ℚ) : Prop :=
  ∀ u ∈ s.openUntil, s.now < u → u ≤ deadline

instance (s : State) (deadline : ℚ) : Decidable (EndsBy s deadline) :=
  inferInstanceAs (Decidable (∀ u ∈ s.openUntil, s.now < u → u ≤ deadline))

/-- No window is in force when one is popped, and none that lasts longer when one is set. -/
def KeepsWindow (breaker : Breaker) (s : State) : Act → Prop
  | .reset => ∀ u ∈ s.openUntil, u ≤ s.now
  | .fail read => breaker.opens s.failures read → EndsBy s (read + breaker.cooldownS)
  | .hardFail read cooldownS => EndsBy s (read + cooldownS.getD breaker.cooldownS)
  | _ => True

instance (breaker : Breaker) (s : State) (act : Act) : Decidable (KeepsWindow breaker s act) := by
  unfold KeepsWindow
  split <;> infer_instance

/-! ## The invariant -/

structure Inv (s : State) : Prop where
  now_nonneg : 0 ≤ s.now
  /-- A recorded cooldown that has not ended is covered by the open-until time. -/
  covered : ∀ deadline ∈ s.announced, s.now < deadline → ∃ u ∈ s.openUntil, deadline ≤ u
  recorded : ∀ u ∈ s.openUntil, u ∈ s.announced

variable {breaker : Breaker} {s s' : State}

theorem allow_eq_refuse {now u : ℚ} (before : now < u) : allow (some u) now = .refuse :=
  if_pos before

theorem allow_ne_refuse {openUntil : Option ℚ} {now : ℚ} (ended : openUntil.getD 0 ≤ now) :
    allow openUntil now ≠ .refuse := by
  unfold allow
  dsimp only
  rw [if_neg (not_lt.mpr ended)]
  split <;> intro refused <;> cases refused

theorem Inv.cooldownsKept (inv : Inv s) : CooldownsKept s := by
  intro deadline member before
  obtain ⟨u, stored, lasts⟩ := inv.covered deadline member before
  rw [Option.mem_def.mp stored]
  exact allow_eq_refuse (before.trans_le lasts)

theorem initial_inv : Inv {} where
  now_nonneg := le_rfl
  covered := by
    intro deadline member
    cases member
  recorded := by
    intro u stored
    cases stored

theorem Inv.tick (inv : Inv s) {now : ℚ} (later : s.now ≤ now) : Inv { s with now := now } where
  now_nonneg := inv.now_nonneg.trans later
  covered deadline member before := inv.covered deadline member (later.trans_lt before)
  recorded := inv.recorded

/-- A window is popped that is over. -/
theorem Inv.reset (inv : Inv s) (ended : ∀ u ∈ s.openUntil, u ≤ s.now) (resetting : ℕ) :
    Inv { s with openUntil := none, failures := [], resetting := resetting } where
  now_nonneg := inv.now_nonneg
  covered := by
    intro deadline member before
    obtain ⟨u, stored, lasts⟩ := inv.covered deadline member before
    exact absurd (ended u stored) (not_le.mpr (before.trans_le lasts))
  recorded := by
    intro u stored
    cases stored

/-- What is set lasts as long as what was in force. -/
theorem Inv.openFor (inv : Inv s) {deadline : ℚ} (endsBy : EndsBy s deadline) :
    Inv (openFor s deadline) where
  now_nonneg := inv.now_nonneg
  covered := by
    intro earlier member before
    refine ⟨deadline, rfl, ?_⟩
    rcases List.mem_append.mp member with old | own
    · obtain ⟨u, stored, lasts⟩ := inv.covered earlier old before
      exact lasts.trans (endsBy u stored (before.trans_le lasts))
    · exact (List.mem_singleton.mp own).le
  recorded := by
    intro u stored
    cases stored
    exact List.mem_append_right _ (List.mem_singleton_self deadline)

theorem preserves_inv : Preserves (step breaker) (KeepsWindow breaker) Inv := by
  intro s act s' inv keeps stepped
  unfold step at stepped
  cases act with
  | tick now =>
      obtain ⟨later, moved⟩ := Option.ite_none_right_eq_some.mp stepped
      cases moved
      exact inv.tick later
  | allow =>
      dsimp only at stepped
      split at stepped
      all_goals
        cases stepped
        exact ⟨inv.now_nonneg, inv.covered, inv.recorded⟩
  | reset =>
      obtain ⟨-, moved⟩ := Option.ite_none_right_eq_some.mp stepped
      cases moved
      exact inv.reset keeps _
  | fail read =>
      obtain ⟨-, recorded⟩ := Option.ite_none_right_eq_some.mp stepped
      split at recorded
      case isTrue opened =>
        cases recorded
        exact inv.openFor (keeps opened)
      case isFalse =>
        cases recorded
        exact ⟨inv.now_nonneg, inv.covered, inv.recorded⟩
  | hardFail read cooldownS =>
      obtain ⟨-, moved⟩ := Option.ite_none_right_eq_some.mp stepped
      cases moved
      exact inv.openFor keeps
  | ok =>
      cases stepped
      exact ⟨inv.now_nonneg, inv.covered, inv.recorded⟩

/-- Where no step ends a window in force earlier, every cooldown is kept. -/
theorem cooldownsKept_of_run (run : Run (step breaker) (KeepsWindow breaker) {} s) :
    CooldownsKept s :=
  (run.invariant preserves_inv initial_inv).cooldownsKept

/-! ## The condition is exact -/

/-- A window in force that is replaced by one that ends earlier is not kept to its end. -/
theorem broken_of_openFor (inv : Inv s) {deadline : ℚ} (shorter : ¬EndsBy s deadline) :
    ∃ now, s.now ≤ now ∧ ¬CooldownsKept { openFor s deadline with now := now } := by
  unfold EndsBy at shorter
  push Not at shorter
  obtain ⟨u, stored, inForce, longer⟩ := shorter
  refine ⟨max s.now deadline, le_max_left _ _, fun kept => ?_⟩
  have member : u ∈ s.announced ++ [deadline] := List.mem_append_left _ (inv.recorded u stored)
  have refused := kept u member (max_lt inForce longer)
  exact allow_ne_refuse (le_max_right s.now deadline) refused

/-- A step that does not keep the window leaves a clock at which a cooldown is not kept. -/
theorem broken_of_not_keepsWindow (inv : Inv s) {act : Act} (ends : ¬KeepsWindow breaker s act)
    (stepped : step breaker s act = some s') :
    ∃ now, s'.now ≤ now ∧ ¬CooldownsKept { s' with now := now } := by
  unfold step at stepped
  cases act with
  | tick now => exact absurd trivial ends
  | allow => exact absurd trivial ends
  | ok => exact absurd trivial ends
  | reset =>
      obtain ⟨-, moved⟩ := Option.ite_none_right_eq_some.mp stepped
      cases moved
      change ¬∀ u ∈ s.openUntil, u ≤ s.now at ends
      push Not at ends
      obtain ⟨u, stored, inForce⟩ := ends
      refine ⟨s.now, le_rfl, fun kept => ?_⟩
      exact allow_ne_refuse inv.now_nonneg (kept u (inv.recorded u stored) inForce)
  | fail read =>
      obtain ⟨-, recorded⟩ := Option.ite_none_right_eq_some.mp stepped
      change ¬(breaker.opens s.failures read → EndsBy s (read + breaker.cooldownS)) at ends
      obtain ⟨opened, shorter⟩ := Classical.not_imp.mp ends
      rw [if_pos opened] at recorded
      cases recorded
      exact broken_of_openFor inv shorter
  | hardFail read cooldownS =>
      obtain ⟨-, moved⟩ := Option.ite_none_right_eq_some.mp stepped
      cases moved
      exact broken_of_openFor inv ends

/-! ## Runs -/

/-- A ban of 180 s with failures reported during it, its end, and ten failures. -/
def banThenFailures : List Act :=
  [.hardFail 0 (some 180), .tick 10, .fail 5, .ok, .allow, .tick 180, .allow, .reset, .tick 200] ++
    List.replicate 10 (.fail 200) ++ [.tick 230, .allow]

theorem cooldownsKept_of_banThenFailures :
    ∃ s, s.openUntil = some 260 ∧ CooldownsKept s := by
  have opened : (execGuarded (step {}) (KeepsWindow {}) {} banThenFailures).map State.openUntil =
      some (some 260) := by decide +kernel
  obtain ⟨s, executed, window⟩ := Option.map_eq_some_iff.mp opened
  exact ⟨s, window, cooldownsKept_of_run (Run.of_execGuarded executed)⟩

/-- A ban of 180 s, and a rate limit of 60 s that another call in flight reports. -/
def shorterBan : List Act :=
  [.hardFail 0 (some 180), .tick 10, .hardFail 10 (some 60), .tick 75]

/-- Two calls of `allow` find a window over, and a call in flight reports a ban between their
resets. -/
def lateReset : List Act :=
  [.hardFail 0 (some 60), .tick 60, .allow, .allow, .reset, .hardFail 60 (some 180), .reset]

/-- A run at whose end a cooldown is not kept. -/
def Breaks (acts : List Act) : Prop :=
  ∃ s, exec (step {}) {} acts = some s ∧ Run (step {}) (fun _ _ => True) {} s ∧ ¬CooldownsKept s

theorem breaks_of_exec {acts : List Act}
    (ended : (exec (step {}) {} acts).map (fun s => decide (CooldownsKept s)) = some false) :
    Breaks acts := by
  obtain ⟨s, executed, broken⟩ := Option.map_eq_some_iff.mp ended
  exact ⟨s, executed, Run.of_exec executed, of_decide_eq_false broken⟩

theorem cooldown_not_kept : Breaks shorterBan ∧ Breaks lateReset :=
  ⟨breaks_of_exec (by decide +kernel), breaks_of_exec (by decide +kernel)⟩

end Circuit

end Avalant
