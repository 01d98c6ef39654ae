import Avalant.Trigger.Workers

/-!
Terminal trigger states.

`fired`, `failed` and `cancelled` are meant to be final. Two writers cancel rows
without regard to a worker that holds them: the reconciler's statement takes
`firing` rows, and a user's cancel writes the row it checked earlier and all of
its children. The worker that returns from its venue call then writes its own
outcome over the cancel, and a child that fired is rewritten as cancelled.

`Sys.CancelClear` names the commits at which this happens; in every run without
such a commit a terminal status is final.
-/

namespace Avalant

open Relational Transition

/-- In every run whose steps `ok` admits, a terminal trigger keeps its status. -/
def TriggerTerminal (ok : Sys → Action → Prop) : Prop :=
  ∀ ⦃wallets tradeOrders tradePositions seq s s'⦄,
    Run Sys.step ok (Sys.init wallets tradeOrders tradePositions seq) s →
    Run Sys.step ok s s' →
    ∀ ⦃tid row⦄, s.db.triggers.get? tid = some row → row.status.Terminal →
      ∃ row', s'.db.triggers.get? tid = some row' ∧ row'.status = row.status

/-! ## The condition -/

/-- The task about to commit cancels no trigger a worker holds, and a user's cancel neither
reaches its trigger nor a child of it after it fired or failed. -/
def Sys.CancelsClear (s : Sys) : Task → Prop
  | .reconcileArbs w =>
      ∀ row ∈ s.db.triggers.rows, (∃ pid ∈ w.cancels, row.arbPositionId = some pid) →
        ¬ s.Held row.id
  | .cancelling tid =>
      ∀ row ∈ s.db.triggers.rows, row.parentTriggerId = some tid ∨ row.id = tid →
        ¬ s.Held row.id ∧ row.status ≠ .fired ∧ row.status ≠ .failed
  | _ => True

instance (s : Sys) : DecidablePred s.CancelsClear
  | .reconcileArbs w =>
      inferInstanceAs (Decidable (∀ row ∈ s.db.triggers.rows,
        (∃ pid ∈ w.cancels, row.arbPositionId = some pid) → ¬ s.Held row.id))
  | .cancelling tid =>
      inferInstanceAs (Decidable (∀ row ∈ s.db.triggers.rows,
        row.parentTriggerId = some tid ∨ row.id = tid →
          ¬ s.Held row.id ∧ row.status ≠ .fired ∧ row.status ≠ .failed))
  | .claimed .. | .openLegs .. | .closing .. | .closeLegs .. | .finishing ..
  | .reconcileTrades .. | .reconcileNext .. | .patching .. | .attaching .. =>
      inferInstanceAs (Decidable True)

/-- No commit of this step cancels over a worker or over an outcome. -/
def Sys.CancelClear (s : Sys) (a : Action) : Prop :=
  s.OnCommit a s.CancelsClear

instance (s : Sys) (a : Action) : Decidable (s.CancelClear a) :=
  inferInstanceAs (Decidable (s.OnCommit a _))

variable {s s' : Sys} {k tid : Nat} {row : ArbTriggerOrder}

/-- Under the condition, a commit that overrides a settled row is by its worker, or cancels a
row that is not held and neither fired nor failed. -/
theorem Task.Overrides.clear {task : Task} (overrides : task.Overrides row)
    (clear : s.CancelsClear task) (found : s.db.triggers.get? tid = some row) :
    (∃ w, task = .finishing row.id w) ∨
      (¬ s.Held row.id ∧ (row.status.Terminal → row.status = .cancelled)) := by
  have member := Table.mem_of_get? found
  cases overrides with
  | own w => exact Or.inl ⟨w, rfl⟩
  | reconcile pid linked listed active =>
      refine Or.inr ⟨clear row member ⟨pid, listed, linked⟩, fun terminal => ?_⟩
      rw [TriggerStatus.not_active_iff.mpr terminal] at active
      cases active
  | cancel parent covered =>
      obtain ⟨free, notFired, notFailed⟩ := clear row member covered
      refine Or.inr ⟨free, fun terminal => ?_⟩
      rcases terminal with fired | failed | cancelled
      · exact absurd fired notFired
      · exact absurd failed notFailed
      · exact cancelled

/-! ## Runs -/

/-- A held trigger is `firing`. -/
def HeldFiring (s : Sys) : Prop :=
  ∀ ⦃k tid⦄, s.Holds k tid →
    ∃ row, s.db.triggers.get? tid = some row ∧ row.status = .firing

theorem HeldFiring.step {a : Action} (firing : HeldFiring s) (exclusive : WorkerExclusive s)
    (clear : s.CancelClear a) (stepped : s.step a = some s') : HeldFiring s' := by
  have shape := Sys.shape stepped
  intro k tid holds
  rcases shape.holds holds with before | ⟨seen, pos, books, now, row, rfl, rfl, found, pending⟩
  · obtain ⟨row, found, isFiring⟩ := firing before
    have fixed : row.status.editable = false := by rw [isFiring]; rfl
    have keyed : row.id = tid := Table.key_of_get? found
    obtain ⟨row', found', moved⟩ := shape.status_of_not_editable found fixed
    refine ⟨row', found', ?_⟩
    rcases moved with kept | ⟨k', task, rfl, holding, overrides, -⟩
    · exact kept.trans isFiring
    · rcases overrides.clear (clear task holding) found with ⟨w, rfl⟩ | ⟨free, -⟩
      · -- its own worker committed, so nobody holds it any more
        have same : k = k' := exclusive.unique before ⟨_, holding, congrArg some keyed⟩
        subst same
        obtain ⟨task, after, -⟩ := holds
        rw [shape.released holding] at after
        cases after
      · exact absurd (keyed ▸ before.held) free
  · cases shape with
    | load loads isLoad => cases isLoad
    | claim selected unused found' pending' =>
        refine ⟨_, Db.order_commit_of_some found, ?_⟩
        have keyed : row.id = seen.id := Table.key_of_get? found
        change (claimRow seen.id row).status = .firing
        rw [claimRow, if_pos ⟨keyed, pending⟩]

/-- One step under the condition keeps a terminal status. -/
theorem Sys.terminal_step {a : Action} (firing : HeldFiring s) (clear : s.CancelClear a)
    (stepped : s.step a = some s') (found : s.db.triggers.get? tid = some row)
    (terminal : row.status.Terminal) :
    ∃ row', s'.db.triggers.get? tid = some row' ∧ row'.status = row.status := by
  have fixed : row.status.editable = false := by
    rcases terminal with same | same | same <;> rw [same] <;> rfl
  have keyed : row.id = tid := Table.key_of_get? found
  obtain ⟨row', found', moved⟩ := (Sys.shape stepped).status_of_not_editable found fixed
  refine ⟨row', found', ?_⟩
  rcases moved with kept | ⟨k, task, rfl, holding, overrides, outcome⟩
  · exact kept
  · have own : ¬ ∃ w, task = .finishing row.id w := by
      intro given
      rcases given with ⟨w, rfl⟩
      obtain ⟨held, foundHeld, isFiring⟩ := firing ⟨_, holding, congrArg some keyed⟩
      rw [found] at foundHeld
      cases foundHeld
      rw [isFiring] at terminal
      rcases terminal with impossible | impossible | impossible <;> cases impossible
    rcases overrides.clear (clear task holding) found with mine | ⟨-, alreadyCancelled⟩
    · exact absurd mine own
    · rcases outcome with mine | cancelled
      · exact absurd mine own
      · rw [cancelled, alreadyCancelled terminal]

/-- If no cancel commits over a worker or over an outcome, terminal trigger states are final,
for any number of workers, reconcile passes and requests in any interleaving. -/
theorem triggerTerminal_of_cancelClear {ok : Sys → Action → Prop}
    (within : ∀ s a, ok s a → s.CancelClear a) : TriggerTerminal ok := by
  intro wallets tradeOrders tradePositions seq s s' reached later tid row found terminal
  have invariant : Preserves Sys.step Sys.CancelClear fun s =>
      WorkerExclusive s ∧ HeldFiring s :=
    Preserves.and (fun _ _ _ exclusive _ stepped => exclusive.step stepped)
      fun _ _ _ exclusive firing clear stepped => firing.step exclusive clear stepped
  have initially : HeldFiring (Sys.init wallets tradeOrders tradePositions seq) := by
    intro k tid given
    rcases given with ⟨task, at_k, -⟩
    cases at_k
  have now := (reached.mono within).invariant invariant ⟨WorkerExclusive.init _ _ _ _, initially⟩
  refine (later.mono within).stable
    (P := fun s => ∃ row', s.db.triggers.get? tid = some row' ∧ row'.status = row.status)
    invariant ?_ now ⟨row, found, rfl⟩
  intro s a s' given0 given1 clear stepped
  rcases given0 with ⟨-, firing⟩
  rcases given1 with ⟨row', found', same⟩
  obtain ⟨row'', found'', kept⟩ :=
    Sys.terminal_step firing clear stepped found' (same ▸ terminal)
  exact ⟨row'', found'', kept.trans same⟩

theorem triggerTerminal_cancelClear : TriggerTerminal Sys.CancelClear :=
  triggerTerminal_of_cancelClear fun _ _ clear => clear

/-- The whole life of a trigger runs under the condition. -/
example :
    (execGuarded Sys.step Sys.CancelClear freshSys (.create 9 (openRequest 2 1) 1000 ::
      beginPortion 1 2 1 ++ endPortion 1 ++ beginPortion 2 2 1 ++ endPortion 2 ++
      emptyReconcile 3)).isSome = true := by
  decide +kernel

/-! ## Without the condition -/

/-- The reconciler cancels the trigger; the portion returns and re-arms it. -/
theorem triggerTerminal_broken_by_reconcile :
    ¬ TriggerTerminal (fun _ _ => True) ∧
      (triggerAfter closedInFlight 1).map ArbTriggerOrder.status = some .cancelled ∧
      (triggerAfter (closedInFlight ++ endPortion 2) 1).map ArbTriggerOrder.status =
        some .pending := by
  have cancelled : (triggerAfter closedInFlight 1).map ArbTriggerOrder.status =
      some .cancelled := by decide +kernel
  have rearmed : (triggerAfter (closedInFlight ++ endPortion 2) 1).map
      ArbTriggerOrder.status = some .pending := by decide +kernel
  refine ⟨fun always => ?_, cancelled, rearmed⟩
  obtain ⟨row', foundAfter, isPending⟩ := Option.map_eq_some_iff.mp rearmed
  obtain ⟨middle, last, first, -, reached, later, readLast⟩ := Run.split_exec foundAfter
  obtain ⟨row, foundBefore, isCancelled⟩ := Option.map_eq_some_iff.mp cancelled
  have readMiddle : middle.db.triggers.get? 1 = some row := by
    simpa [triggerAfter, first] using foundBefore
  obtain ⟨row'', found, same⟩ := always reached later readMiddle (Or.inr (Or.inr isCancelled))
  rw [readLast] at found
  cases found
  rw [isPending, isCancelled] at same
  cases same

end Avalant
