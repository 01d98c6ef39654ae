import Avalant.Lib.Run
import Avalant.Lib.Window
import Mathlib.Algebra.Order.Ring.Rat
import Mathlib.Tactic.Linarith

/-!
One supervised worker of the fetcher, `_WorkerProc` in `orderbook_ws_master.py`.

The supervisor thread spawns a process, polls it until it exits, counts the exit,
looks back over the last minute, and waits five seconds or a whole minute. The
process exits at any time, and so does the stop event get set, also between the
test of the event and the spawn. Times are seconds of a clock that does not go
back, and a wait may take longer than it was asked to.
-/

namespace Avalant

open Transition Window

namespace Fetcher

def restartCooldownS : ℚ := 5

def maxRestartsPerMin : ℕ := 6

/-- Where the supervisor thread is. -/
inductive Phase
  /-- Before the test of the loop. -/
  | top
  | spawning
  | polling
  /-- The exit is counted. -/
  | exited
  /-- In `stop_evt.wait`, until then. -/
  | waiting (until_ : ℚ)
  | ended
  deriving DecidableEq

/-- The thread may have left a process that runs. -/
def Phase.mayRun : Phase → Bool
  | .polling | .ended => true
  | .top | .spawning | .exited | .waiting _ => false

structure WorkerProc where
  now : ℚ := 0
  /-- `stop_evt`; `_stop` is only set after it. -/
  stopEvt : Bool := false
  phase : Phase := .top
  /-- The return codes of the processes, none while they run. `_proc` is the last. -/
  procs : List (Option ℤ) := []
  restartWindow : List ℚ := []
  startedAt : ℚ := 0
  exitCount : ℕ := 0
  lastExitRc : Option ℤ := none
  /-- For the statements: the times of all spawns. -/
  spawns : List ℚ := []
  /-- For the statements: the spawns after the stop. -/
  late : ℕ := 0

inductive Act
  | pass (seconds : ℚ)
  /-- A process that runs exits, or is killed. -/
  | exit (proc : ℕ) (rc : ℤ)
  | stop
  /-- The supervisor thread goes on. -/
  | go

namespace WorkerProc

/-- `_spawn`. -/
def spawn (w : WorkerProc) : WorkerProc :=
  { w with
    procs := w.procs ++ [none]
    restartWindow := w.restartWindow ++ [w.now]
    startedAt := w.now
    spawns := w.spawns ++ [w.now]
    late := if w.stopEvt then w.late + 1 else w.late }

/-- What `_too_many_restarts` keeps. -/
def pruned (w : WorkerProc) : List ℚ :=
  w.restartWindow.filter fun t => w.now - 60 ≤ t

def tooManyRestarts (w : WorkerProc) : Bool := maxRestartsPerMin < w.pruned.length

/-- The next step of `supervise`. -/
def supervise (w : WorkerProc) : Option WorkerProc :=
  match w.phase with
  | .top => some { w with phase := if w.stopEvt then .ended else .spawning }
  | .spawning => some { w.spawn with phase := .polling }
  | .polling =>
      if w.stopEvt then some { w with phase := .ended }
      else (w.procs.getLast?).map fun
        | none => w
        | some rc =>
            { w with phase := .exited, exitCount := w.exitCount + 1, lastExitRc := some rc }
  | .exited =>
      some { w with
        restartWindow := w.pruned
        phase := .waiting (w.now + if w.tooManyRestarts then 60 else restartCooldownS) }
  | .waiting u => if u ≤ w.now ∨ w.stopEvt then some { w with phase := .top } else none
  | .ended => none

def step (w : WorkerProc) : Act → Option WorkerProc
  | .pass seconds => if 0 ≤ seconds then some { w with now := w.now + seconds } else none
  | .exit i rc =>
      if w.procs[i]? = some none then some { w with procs := w.procs.set i (some rc) } else none
  | .stop => some { w with stopEvt := true }
  | .go => w.supervise

/-- `restarts_1m` of `snapshot`. -/
def restarts1m (w : WorkerProc) : ℕ :=
  (w.restartWindow.filter fun t => w.now - 60 ≤ t).length

/-! ## How often it restarts -/

/-- From this time on a spawn is five seconds after the others, and has at most six of them in the
minute before it. -/
structure Rested (u : ℚ) (spawns : List ℚ) : Prop where
  spaced : ∀ t ∈ spawns, t ≤ u - restartCooldownS
  fewer : countSince (u - 61) spawns < 7

theorem Rested.mono {u u' : ℚ} {spawns : List ℚ} (rested : Rested u spawns) (later : u ≤ u') :
    Rested u' spawns where
  spaced t member := (rested.spaced t member).trans (sub_le_sub_right later _)
  fewer := by
    refine Nat.lt_of_le_of_lt (List.countP_mono_left fun t _ young => ?_) rested.fewer
    exact decide_eq_true (lt_of_le_of_lt (sub_le_sub_right later 61) (of_decide_eq_true young))

/-- What the wait of the thread will have given. -/
def Ready (w : WorkerProc) : Prop :=
  match w.phase with
  | .top => w.stopEvt = false → Rested w.now w.spawns
  | .spawning => Rested w.now w.spawns
  | .waiting u => Rested u w.spawns
  | .polling | .exited | .ended => True

/-- The spawns of a process, and what the window has of them. -/
structure Paced (w : WorkerProc) : Prop where
  past : ∀ t ∈ w.spawns, t ≤ w.now
  window : ∃ cutoff ≤ w.now - 60, w.restartWindow = w.spawns.filter fun t => cutoff ≤ t
  spaced : Bounded 1 restartCooldownS w.spawns
  rate : Bounded 7 61 w.spawns
  ready : Ready w

variable {w w' : WorkerProc}

/-- The window has all spawns of the last minute. -/
theorem Paced.pruned_eq (paced : Paced w) :
    w.pruned = w.spawns.filter fun t => w.now - 60 ≤ t := by
  obtain ⟨cutoff, old, window⟩ := paced.window
  unfold pruned
  rw [window, List.filter_filter]
  refine List.filter_congr fun t _ => ?_
  rw [Bool.eq_iff_iff, Bool.and_eq_true_iff, decide_eq_true_eq, decide_eq_true_eq]
  exact ⟨And.left, fun young => ⟨young, old.trans young⟩⟩

/-- Both waits are long enough. -/
theorem Paced.rested (paced : Paced w) :
    Rested (w.now + if w.tooManyRestarts then 60 else restartCooldownS) w.spawns := by
  unfold tooManyRestarts
  rw [paced.pruned_eq]
  split
  case isTrue many =>
    refine ⟨fun t member => ?_, ?_⟩
    · have past := paced.past t member
      unfold restartCooldownS
      linarith
    · -- only the last one is that young
      have one := paced.spaced (w.now - 1)
      refine Nat.lt_of_le_of_lt ((List.countP_mono_left fun t member young => ?_).trans one)
        (by decide)
      have young := of_decide_eq_true young
      have past := paced.past t member
      unfold restartCooldownS
      exact decide_eq_true ⟨by linarith, by linarith⟩
  case isFalse few =>
    refine ⟨fun t member => ?_, ?_⟩
    · have past := paced.past t member
      linarith
    · have kept : (w.spawns.filter fun t => w.now - 60 ≤ t).length ≤ 6 :=
        Nat.not_lt.mp fun more => few (decide_eq_true more)
      rw [← List.countP_eq_length_filter] at kept
      refine Nat.lt_succ_of_le ((List.countP_mono_left fun t _ young => ?_).trans kept)
      have young := of_decide_eq_true young
      unfold restartCooldownS at young
      exact decide_eq_true (by linarith)

/-- A spawn at rest. -/
theorem Paced.spawn (paced : Paced w) (rested : Rested w.now w.spawns) :
    Paced { w.spawn with phase := .polling } where
  past t member := by
    rcases List.mem_append.mp member with old | new
    · exact paced.past t old
    · rw [List.mem_singleton.mp new]
      exact le_refl w.now
  window := by
    obtain ⟨cutoff, old, window⟩ := paced.window
    refine ⟨cutoff, old, ?_⟩
    change w.restartWindow ++ [w.now] = (w.spawns ++ [w.now]).filter _
    have young : [w.now].filter (fun t => cutoff ≤ t) = [w.now] :=
      List.filter_cons_of_pos (decide_eq_true (by linarith))
    rw [List.filter_append, window, young]
  spaced := by
    refine paced.spaced.concat (Nat.lt_of_le_of_lt (Nat.le_of_eq ?_) Nat.zero_lt_one)
    exact countSince_eq_zero rested.spaced
  rate := paced.rate.concat rested.fewer
  ready := trivial

theorem Paced.supervise (paced : Paced w) (stepped : w.supervise = some w') : Paced w' := by
  have ready := paced.ready
  unfold Ready at ready
  unfold WorkerProc.supervise at stepped
  cases phase : w.phase with
  | top =>
      rw [phase] at stepped ready
      cases stepped
      refine ⟨paced.past, paced.window, paced.spaced, paced.rate, ?_⟩
      unfold Ready
      cases stopped : w.stopEvt with
      | true => trivial
      | false => exact ready stopped
  | spawning =>
      rw [phase] at stepped ready
      cases stepped
      exact paced.spawn ready
  | polling =>
      rw [phase] at stepped
      dsimp only at stepped
      split at stepped
      case isTrue =>
        cases stepped
        exact ⟨paced.past, paced.window, paced.spaced, paced.rate, trivial⟩
      case isFalse =>
        obtain ⟨rc, _, same⟩ := Option.map_eq_some_iff.mp stepped
        cases rc with
        | none =>
            cases same
            exact paced
        | some rc =>
            cases same
            exact ⟨paced.past, paced.window, paced.spaced, paced.rate, trivial⟩
  | exited =>
      rw [phase] at stepped
      cases stepped
      exact ⟨paced.past, ⟨w.now - 60, le_refl _, paced.pruned_eq⟩, paced.spaced, paced.rate,
        paced.rested⟩
  | waiting u =>
      rw [phase] at stepped ready
      dsimp only at stepped ready
      split at stepped
      case isTrue elapsed =>
        cases stepped
        refine ⟨paced.past, paced.window, paced.spaced, paced.rate, fun going => ?_⟩
        rcases elapsed with elapsed | stopped
        · exact ready.mono elapsed
        · rw [show w.stopEvt = false from going] at stopped
          cases stopped
      case isFalse => cases stepped
  | ended =>
      rw [phase] at stepped
      cases stepped

theorem Paced.step (paced : Paced w) {a : Act} (stepped : w.step a = some w') : Paced w' := by
  have ready := paced.ready
  cases a with
  | pass seconds =>
      replace stepped : (if _ then _ else _) = some w' := stepped
      split at stepped
      case isTrue forward =>
        cases stepped
        have later : w.now ≤ w.now + seconds := by linarith
        obtain ⟨cutoff, old, window⟩ := paced.window
        refine ⟨fun t member => (paced.past t member).trans later,
          ⟨cutoff, old.trans (sub_le_sub_right later 60), window⟩, paced.spaced, paced.rate, ?_⟩
        unfold Ready at ready ⊢
        cases phase : w.phase with
        | top =>
            rw [phase] at ready
            exact fun going => (ready going).mono later
        | spawning =>
            rw [phase] at ready
            exact ready.mono later
        | waiting u =>
            rw [phase] at ready
            exact ready
        | polling | exited | ended => trivial
      case isFalse => cases stepped
  | exit i rc =>
      replace stepped : (if _ then _ else _) = some w' := stepped
      split at stepped
      case isTrue =>
        cases stepped
        exact ⟨paced.past, paced.window, paced.spaced, paced.rate, ready⟩
      case isFalse => cases stepped
  | stop =>
      cases stepped
      refine ⟨paced.past, paced.window, paced.spaced, paced.rate, ?_⟩
      unfold Ready at ready ⊢
      cases phase : w.phase with
      | top => exact fun going => by cases going
      | spawning | waiting u =>
          rw [phase] at ready
          exact ready
      | polling | exited | ended => trivial
  | go => exact paced.supervise stepped

/-! ## One process at a time -/

/-- The processes of a supervisor. -/
structure Single (w : WorkerProc) : Prop where
  last : ∀ i : ℕ, w.procs[i]? = some none → i + 1 = w.procs.length
  idle : w.phase.mayRun = false → ∀ i : ℕ, w.procs[i]? ≠ some none
  exits : w.phase ≠ .ended →
    w.exitCount + (if w.phase = .polling then 1 else 0) = w.procs.length
  late : w.late ≤ 1
  prompt : w.stopEvt = false ∨ w.phase.mayRun = false → w.late = 0

theorem Single.spawn (single : Single w) (phase : w.phase = .spawning) :
    Single { w.spawn with phase := .polling } := by
  have idle := single.idle (by rw [phase]; rfl)
  have exits := single.exits (by rw [phase]; exact Phase.noConfusion)
  have prompt : w.late = 0 := single.prompt (.inr (by rw [phase]; rfl))
  rw [phase, if_neg Phase.noConfusion] at exits
  refine ⟨fun i running => ?_, fun no => (by cases no), fun _ => ?_, ?_, ?_⟩
  · change i + 1 = (w.procs ++ [none]).length
    change (w.procs ++ [none])[i]? = some none at running
    rw [List.length_append, List.length_singleton]
    rcases Nat.lt_trichotomy i w.procs.length with before | last | after
    · rw [List.getElem?_append_left before] at running
      exact absurd running (idle i)
    · rw [last]
    · rw [List.getElem?_eq_none (by rw [List.length_append]; exact after)] at running
      cases running
  · change w.exitCount + 1 = (w.procs ++ [none]).length
    rw [List.length_append, List.length_singleton, ← exits]
  · change (if w.stopEvt then w.late + 1 else w.late) ≤ 1
    rw [prompt]
    split <;> decide
  · rintro (going | no)
    · change (if w.stopEvt then w.late + 1 else w.late) = 0
      rw [show w.stopEvt = false from going, prompt]
      rfl
    · cases no

theorem Single.supervise (single : Single w) (stepped : w.supervise = some w') :
    Single w' := by
  unfold WorkerProc.supervise at stepped
  cases phase : w.phase with
  | top =>
      rw [phase] at stepped
      cases stepped
      have idle := single.idle (by rw [phase]; rfl)
      have exits := single.exits (by rw [phase]; exact Phase.noConfusion)
      have prompt : w.late = 0 := single.prompt (.inr (by rw [phase]; rfl))
      rw [phase, if_neg Phase.noConfusion] at exits
      refine ⟨single.last, fun _ => idle, fun _ => ?_, single.late, fun _ => prompt⟩
      cases w.stopEvt <;> exact exits
  | spawning =>
      rw [phase] at stepped
      cases stepped
      exact single.spawn phase
  | polling =>
      rw [phase] at stepped
      dsimp only at stepped
      have exits := single.exits (by rw [phase]; exact Phase.noConfusion)
      rw [phase, if_pos rfl] at exits
      split at stepped
      case isTrue =>
        cases stepped
        refine ⟨single.last, fun no => (by cases no), fun no => absurd rfl no, single.late, ?_⟩
        rintro (going | no)
        · exact single.prompt (.inl going)
        · cases no
      case isFalse going =>
        obtain ⟨rc, known, same⟩ := Option.map_eq_some_iff.mp stepped
        cases rc with
        | none =>
            cases same
            exact single
        | some rc =>
            cases same
            refine ⟨single.last, fun _ i running => ?_, fun _ => exits, single.late,
              fun _ => single.prompt (.inl (Bool.eq_false_iff.mpr going))⟩
            have last := single.last i running
            rw [List.getLast?_eq_getElem?, ← last, Nat.add_sub_cancel, running] at known
            cases known
  | exited =>
      rw [phase] at stepped
      cases stepped
      have idle := single.idle (by rw [phase]; rfl)
      have exits := single.exits (by rw [phase]; exact Phase.noConfusion)
      have prompt : w.late = 0 := single.prompt (.inr (by rw [phase]; rfl))
      rw [phase, if_neg Phase.noConfusion] at exits
      exact ⟨single.last, fun _ => idle, fun _ => exits, single.late, fun _ => prompt⟩
  | waiting u =>
      rw [phase] at stepped
      dsimp only at stepped
      have idle := single.idle (by rw [phase]; rfl)
      have exits := single.exits (by rw [phase]; exact Phase.noConfusion)
      have prompt : w.late = 0 := single.prompt (.inr (by rw [phase]; rfl))
      rw [phase, if_neg Phase.noConfusion] at exits
      split at stepped
      case isTrue =>
        cases stepped
        exact ⟨single.last, fun _ => idle, fun _ => exits, single.late, fun _ => prompt⟩
      case isFalse => cases stepped
  | ended =>
      rw [phase] at stepped
      cases stepped

theorem Single.step (single : Single w) {a : Act} (stepped : w.step a = some w') :
    Single w' := by
  cases a with
  | pass seconds =>
      replace stepped : (if _ then _ else _) = some w' := stepped
      split at stepped
      case isTrue =>
        cases stepped
        exact ⟨single.last, single.idle, single.exits, single.late, single.prompt⟩
      case isFalse => cases stepped
  | exit i rc =>
      replace stepped : (if _ then _ else _) = some w' := stepped
      split at stepped
      case isTrue =>
        cases stepped
        have before : ∀ j : ℕ, (w.procs.set i (some rc))[j]? = some none →
            w.procs[j]? = some none := by
          intro j running
          rw [List.getElem?_set] at running
          split at running
          case isTrue =>
            split at running
            · cases running
            · cases running
          case isFalse => exact running
        refine ⟨fun j running => ?_, fun no j running => single.idle no j (before j running), ?_,
          single.late, single.prompt⟩
        · exact (single.last j (before j running)).trans List.length_set.symm
        · intro going
          exact (single.exits going).trans List.length_set.symm
      case isFalse => cases stepped
  | stop =>
      cases stepped
      refine ⟨single.last, single.idle, single.exits, single.late, ?_⟩
      rintro (no | idle)
      · cases no
      · exact single.prompt (.inr idle)
  | go => exact single.supervise stepped

/-! ## Runs -/

theorem Paced.init : Paced {} where
  past t member := by cases member
  window := ⟨-60, by decide +kernel, rfl⟩
  spaced := bounded_nil 1 _
  rate := bounded_nil 7 _
  ready := fun _ => ⟨fun t member => (by cases member), Nat.zero_lt_succ 6⟩

theorem Single.init : Single {} where
  last i running := by cases running
  idle _ i running := by cases running
  exits _ := rfl
  late := Nat.zero_le 1
  prompt _ := rfl

/-- However the worker crashes, it is started at most seven times in any minute and never twice in
five seconds, no two of its processes run at a time, and at most one is started after the stop. -/
theorem restarts_bounded (run : Run step (fun _ _ => True) {} w) :
    (∀ start, w.spawns.countP (fun t => start ≤ t ∧ t ≤ start + 60) ≤ maxRestartsPerMin + 1) ∧
      Bounded 1 restartCooldownS w.spawns ∧ w.restarts1m ≤ maxRestartsPerMin + 1 ∧
      (∀ i j : ℕ, w.procs[i]? = some none → w.procs[j]? = some none → i = j) ∧
      (w.phase ≠ .ended →
        w.exitCount + (if w.phase = .polling then 1 else 0) = w.procs.length) ∧
      w.late ≤ 1 := by
  have paced := run.invariant (I := Paced) (fun _ _ _ paced _ stepped => paced.step stepped)
    Paced.init
  have single := run.invariant (I := Single) (fun _ _ _ single _ stepped => single.step stepped)
    Single.init
  have minute : ∀ start,
      w.spawns.countP (fun t => start ≤ t ∧ t ≤ start + 60) ≤ maxRestartsPerMin + 1 := by
    intro start
    refine (List.countP_mono_left fun t _ inside => ?_).trans (paced.rate start)
    obtain ⟨after, before⟩ := of_decide_eq_true inside
    exact decide_eq_true ⟨after, by linarith⟩
  refine ⟨minute, paced.spaced, ?_, fun i j first second => ?_, single.exits, single.late⟩
  · change w.pruned.length ≤ _
    rw [paced.pruned_eq, ← List.countP_eq_length_filter]
    refine (List.countP_mono_left fun t member young => ?_).trans (minute (w.now - 60))
    have past := paced.past t member
    exact decide_eq_true ⟨of_decide_eq_true young, by linarith⟩
  · exact Nat.succ_injective ((single.last i first).trans (single.last j second).symm)

/-- Each process exits at once; after the seventh the thread backs off, and the stop comes between
the test of the event and the last spawn. -/
def crashLoop : List Act :=
  (List.range 6).flatMap (fun i => [.go, .go, .exit i 1, .go, .go, .pass 5, .go]) ++
    [.go, .go, .exit 6 1, .go, .go, .pass 60, .go, .go, .stop, .go]

theorem restarts_bounded_crashLoop : ∃ w : WorkerProc,
    exec step {} crashLoop = some w ∧
      (w.spawns, w.exitCount, w.late) = ([0, 5, 10, 15, 20, 25, 30, 90], 7, 1) ∧
      ∀ start, w.spawns.countP (fun t => start ≤ t ∧ t ≤ start + 60) ≤ 7 := by
  have ran : (exec step {} crashLoop).map (fun w => (w.spawns, w.exitCount, w.late)) =
      some ([0, 5, 10, 15, 20, 25, 30, 90], 7, 1) := by
    decide +kernel
  obtain ⟨w, executed, view⟩ := Option.map_eq_some_iff.mp ran
  exact ⟨w, executed, view,
    (restarts_bounded (Run.of_exec_of_forall (fun _ _ _ => trivial) executed)).1⟩

end WorkerProc

end Fetcher

end Avalant
