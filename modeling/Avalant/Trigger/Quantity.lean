import Avalant.Trigger.Terms

/-!
The quantity an opening trigger orders over its life.

The target of a trigger is a number of portions, `ceil(total / portion)`, and
every portion orders the full `portion_size_token`: nothing cuts the last one
down, and a patch may set a portion larger than the total. What the trigger
orders stays within its total exactly as long as the portions it still has to
order fit, which is checked here at the two places where the terms of a trigger
are set: a create and the commit of a patch.
-/

namespace Avalant

open Relational Transition

/-- In every run whose steps `ok` admits, a claim leads to one portion at most, and no
portion takes a trigger without infinite fill over its total. -/
def QuantityBound (ok : Sys → Action → Prop) : Prop :=
  ∀ ⦃wallets tradeOrders tradePositions seq s⦄,
    Run Sys.step ok (Sys.init wallets tradeOrders tradePositions seq) s →
    (s.portions.map Portion.claim).Nodup ∧ PortionsBounded s.portions

/-! ## Portions still to come -/

/-- The portions a worker's trigger still orders when all of them fill. -/
def Task.portionsLeft (t : Terms) : Task → Nat
  | .claimed _ _ => t.left
  | .openLegs _ _ => t.goal - (t.filled + 1)
  | .finishing _ w =>
      if w.order.status.any TriggerStatus.editable then
        ({ t with filled := w.order.portionsFilled.getD t.filled } : Terms).left
      else 0
  | _ => 0

/-- The trigger has room for what it still orders, waiting or in the hands of a worker. -/
def Sys.HasRoom (s : Sys) (row : ArbTriggerOrder) : Prop :=
  (row.status.editable = true → row.terms.Fits row.terms.left (ordered row.id s.portions)) ∧
    ∀ taskRow ∈ s.tasks.rows, taskRow.task.worker = some row.id →
      row.terms.Fits (taskRow.task.portionsLeft row.terms) (ordered row.id s.portions)

instance (s : Sys) (row : ArbTriggerOrder) : Decidable (s.HasRoom row) :=
  inferInstanceAs (Decidable (_ ∧ ∀ taskRow ∈ _, _ → _))

/-- A patch about to commit leaves its trigger room. -/
def Sys.PatchFits (s : Sys) : Task → Prop
  | .patching tid set =>
      ∀ row ∈ s.db.triggers.rows, row.id = tid → s.HasRoom (set.apply row)
  | _ => True

instance (s : Sys) : DecidablePred s.PatchFits
  | .patching tid _ =>
      inferInstanceAs (Decidable (∀ row ∈ s.db.triggers.rows, row.id = tid → _))
  | .claimed .. | .openLegs .. | .closing .. | .closeLegs .. | .finishing ..
  | .reconcileTrades .. | .reconcileNext .. | .reconcileArbs .. | .cancelling .. | .attaching .. =>
      inferInstanceAs (Decidable True)

/-- The whole portions of a new trigger fit into its total. -/
def Action.createFits : Action → Prop
  | .create userId body now =>
      (body.order userId now).terms.Fits (body.order userId now).terms.left 0
  | _ => True

instance : DecidablePred Action.createFits
  | .create userId body now =>
      inferInstanceAs (Decidable
        ((body.order userId now).terms.Fits (body.order userId now).terms.left 0))
  | .promote .. | .claim .. | .start .. | .openReturn .. | .closeReturn .. | .raised ..
  | .commit .. | .drop .. | .reconcile .. | .reconcileNext .. | .cancel .. | .patch ..
  | .attach .. | .manualClose .. => inferInstanceAs (Decidable True)

/-- The terms set by this step leave room for the portions still to come. -/
def Sys.RoomLeft (s : Sys) (a : Action) : Prop :=
  a.createFits ∧ s.OnCommit a s.PatchFits

instance (s : Sys) (a : Action) : Decidable (s.RoomLeft a) :=
  inferInstanceAs (Decidable (_ ∧ _))

variable {s s' : Sys} {j k tid : Nat} {row row' : ArbTriggerOrder} {a : Action}

/-! ## Room is kept -/

/-- Every trigger has room for what it still orders, and the portions so far were bounded. -/
structure Roomy (s : Sys) : Prop where
  waiting : ∀ ⦃tid row⦄, s.db.triggers.get? tid = some row → row.status.editable = true →
    row.terms.Fits row.terms.left (ordered tid s.portions)
  held : ∀ ⦃tid row k task⦄, s.db.triggers.get? tid = some row → s.task? k = some task →
    task.worker = some tid →
    row.terms.Fits (task.portionsLeft row.terms) (ordered tid s.portions)
  bounded : PortionsBounded s.portions

/-- A waiting trigger orders nothing in a step. -/
theorem Sys.Shape.ordered_of_editable (shape : s.Shape a s') (exclusive : WorkerExclusive s)
    (found : s.db.triggers.get? tid = some row) (editable : row.status.editable = true) :
    Avalant.ordered tid s'.portions = Avalant.ordered tid s.portions := by
  rcases shape.ordered tid with same | ⟨k, claim, holding, -⟩
  · exact same
  · obtain ⟨row', found', settled⟩ := exclusive.held ⟨_, holding, rfl⟩
    rw [found] at found'
    cases found'
    rw [editable] at settled
    cases settled

theorem Roomy.waiting_step (roomy : Roomy s) (exclusive : WorkerExclusive s)
    (sound : QuantitiesSound s) (fits : s.RoomLeft a) (shape : s.Shape a s')
    (found : s'.db.triggers.get? tid = some row') (editable : row'.status.editable = true) :
    row'.terms.Fits row'.terms.left (ordered tid s'.portions) := by
  rcases shape.terms found with ⟨row, foundOld, ⟨terms, waits⟩ | ⟨k, task, rfl, holding, sets⟩⟩ |
    ⟨-, above, created⟩
  · rw [terms, shape.ordered_of_editable exclusive foundOld (waits editable)]
    exact roomy.waiting foundOld (waits editable)
  · have keyed : row.id = tid := Table.key_of_get? foundOld
    subst keyed
    have samePortions : s'.portions = s.portions := by
      cases shape with
      | load _ isLoad => cases isLoad
      | commit => rfl
    rw [samePortions]
    cases sets with
    | own w terms status =>
        obtain ⟨row'', foundAgain, settled⟩ := exclusive.held ⟨_, holding, rfl⟩
        rw [foundOld] at foundAgain
        cases foundAgain
        rw [status settled] at editable
        have fits := roomy.held foundOld holding rfl
        cases next : w.order.status with
        | none =>
            rw [next, Option.getD_none, settled] at editable
            cases editable
        | some status =>
            rw [next, Option.getD_some] at editable
            rw [Task.portionsLeft, next, Option.any_some, if_pos editable] at fits
            rw [terms]
            exact fits.refill _
    | patch set terms status =>
        rw [terms]
        have room := fits.2 _ holding row (Table.mem_of_get? foundOld) rfl
        exact room.1 (status ▸ editable)
  · by_cases opens : row'.kind = .open_
    · obtain ⟨userId, body, now, rows, rfl, -, terms⟩ := created opens
      have nothing : ordered tid s'.portions = 0 := by
        refine ordered_eq_zero fun p member => ?_
        have samePortions : s'.portions = s.portions := by
          cases shape with
          | load _ isLoad => cases isLoad
          | create => rfl
        have below := sound.seen p (samePortions ▸ member)
        omega
      rw [terms, nothing]
      exact fits.1
    · exact Terms.fits_of_kind opens

/-- What a returned opening portion writes to its trigger: one more portion and the status
that follows, or a failure. -/
theorem Db.finishOpen_order (d : Db) (order : ArbTriggerOrder) (qty : ℚ)
    (long short : LegResult) (now : Time) :
    (d.finishOpen order qty long short now).order =
        { portionsFilled := some (order.portionsFilled + 1)
          status := Python.dirty order.status order.nextStatus } ∨
      (d.finishOpen order qty long short now).order.status = some .failed := by
  have keeps : ∀ (long short : Fill) status w,
      (d.accumulatePosition order long short status now w).order = w.order := by
    intro long short status w
    unfold accumulatePosition
    split <;> rfl
  unfold finishOpen
  split
  case h_1 => exact Or.inl (keeps _ _ _ _)
  case h_2 => exact Or.inr (congrArg OrderSet.status (keeps _ _ _ _))
  case h_3 => exact Or.inr (congrArg OrderSet.status (keeps _ _ _ _))
  case h_4 => exact Or.inr rfl

theorem Task.portionsLeft_of_settled {t : Terms} {w : WorkerWrite} {status : TriggerStatus}
    (written : w.order.status = some status) (settled : status.editable = false) :
    Task.portionsLeft t (.finishing tid w) = 0 := by
  simp [portionsLeft, written, settled]

theorem finishClose_settled (pid : Nat) (long short : LegResult) (now : Time) :
    ∃ status, (finishClose pid long short now).order.status = some status ∧
      status.editable = false := by
  unfold finishClose
  split
  case h_1 => exact ⟨.fired, rfl, rfl⟩
  case h_2 => exact ⟨.failed, rfl, rfl⟩
  case h_3 => exact ⟨.failed, rfl, rfl⟩

/-- A portion that starts is within the total, and leaves room for the rest. -/
theorem Roomy.start {claim : Nat} {qty : ℚ} (roomy : Roomy s) (sound : QuantitiesSound s)
    (holding : s.task? k = some (.claimed tid claim)) (found : s.db.triggers.get? tid = some row)
    (started : s.db.startPortion row = .openLegs qty) (bounded : row.infiniteFill = false) :
    (∃ total, row.totalQtyToken = some total ∧ ordered tid s.portions + qty ≤ total) ∧
      row.terms.Fits (row.terms.goal - (row.terms.filled + 1)) (ordered tid s.portions + qty) := by
  obtain ⟨opens, size, -⟩ := Db.startPortion_openLegs started
  have fits : row.terms.Fits row.terms.left (ordered tid s.portions) :=
    roomy.held found holding rfl
  have oneLess : row.terms.left = row.terms.goal - (row.terms.filled + 1) + 1 := by
    unfold Terms.left
    omega
  rw [oneLess] at fits
  exact fits.order (sound.row found opens) opens bounded size

/-- A loaded worker has room for what it still orders. -/
theorem Sys.Loads.room {task : Task} {portions : List Portion} (loads : s.Loads k task portions)
    (roomy : Roomy s) (sound : QuantitiesSound s) (found : s.db.triggers.get? tid = some row)
    (worker : task.worker = some tid) :
    row.terms.Fits (task.portionsLeft row.terms) (ordered tid portions) := by
  cases loads with
  | refused holding _ started =>
      obtain ⟨kind, message, rfl⟩ := Db.startPortion_refused started
      rw [Task.portionsLeft_of_settled rfl rfl]
      exact Terms.fits_zero _ _
  | closing => exact Terms.fits_zero _ _
  | @openLegs _ claim _ qty holding foundOrder started =>
      cases worker
      rw [found] at foundOrder
      cases foundOrder
      by_cases bounded : row.infiniteFill = false
      · have sum := ordered_cons_self
          ⟨tid, claim, qty, row.totalQtyToken, row.infiniteFill⟩ s.portions
        rw [sum]
        exact (roomy.start sound holding found started bounded).2
      · exact fun _ finite => absurd finite bounded
  | @openReturn _ qty order long short now holding foundOrder =>
      cases worker
      rw [found] at foundOrder
      cases foundOrder
      by_cases bounded : row.infiniteFill = false
      · rcases s.db.finishOpen_order row qty long short now with same | failed
        · simp only [Task.portionsLeft, same]
          split
          case isTrue waits =>
            obtain ⟨status, written, editable⟩ := (Option.any_eq_true _ _).mp waits
            obtain ⟨-, rfl⟩ := Python.dirty_eq_some_iff.mp written
            have more := row.goal_of_nextStatus bounded editable
            have fits := roomy.held found holding rfl
            have rest : ({ row.terms with filled := row.portionsFilled + 1 } : Terms).left =
                row.terms.goal - (row.terms.filled + 1) := by
              change max 1 (row.terms.goal - (row.portionsFilled + 1)) =
                row.terms.goal - (row.portionsFilled + 1)
              omega
            rw [Option.getD_some, rest]
            exact fits
          case isFalse => exact Terms.fits_zero _ _
        · rw [Task.portionsLeft_of_settled failed rfl]
          exact Terms.fits_zero _ _
      · exact fun _ finite => absurd finite bounded
  | closeReturn holding =>
      obtain ⟨status, written, settled⟩ := finishClose_settled _ _ _ _
      rw [Task.portionsLeft_of_settled written settled]
      exact Terms.fits_zero _ _
  | raised =>
      rw [Task.portionsLeft_of_settled rfl rfl]
      exact Terms.fits_zero _ _
  | reconcile | reconcileNext | cancel | patch | attach => cases worker

/-- A worker that is not the one stepping keeps its room. -/
theorem Roomy.other_worker {task : Task} (roomy : Roomy s) (exclusive : WorkerExclusive s)
    (fits : s.RoomLeft a) (shape : s.Shape a s') (found : s'.db.triggers.get? tid = some row')
    (worker : task.worker = some tid) (still : s'.task? j = some task)
    (holding : s.task? j = some task) :
    row'.terms.Fits (task.portionsLeft row'.terms) (ordered tid s'.portions) := by
  have same : ordered tid s'.portions = ordered tid s.portions := by
    rcases shape.ordered tid with same | ⟨k, claim, holdingK, qty, after⟩
    · exact same
    · have own : k = j := exclusive.unique ⟨_, holdingK, rfl⟩ ⟨_, holding, worker⟩
      subst own
      rw [holding] at holdingK
      cases holdingK
      rw [still] at after
      cases after
  rw [same]
  rcases shape.terms found with ⟨row, foundOld, ⟨terms, -⟩ | ⟨k, task', rfl, holdingK, sets⟩⟩ |
    ⟨absent, -⟩
  · rw [terms]
    exact roomy.held foundOld holding worker
  · have keyed : row.id = tid := Table.key_of_get? foundOld
    subst keyed
    cases sets with
    | own w =>
        have own : k = j := exclusive.unique ⟨_, holdingK, rfl⟩ ⟨_, holding, worker⟩
        subst own
        rw [shape.released holdingK] at still
        cases still
    | patch set terms =>
        rw [terms]
        obtain ⟨taskRow, stored, rfl⟩ := Option.map_eq_some_iff.mp holding
        have room := fits.2 _ holdingK row (Table.mem_of_get? foundOld) rfl
        exact room.2 taskRow (Table.mem_of_get? stored) worker
  · obtain ⟨row, foundOld, -⟩ := exclusive.held ⟨_, holding, worker⟩
    rw [absent] at foundOld
    cases foundOld

theorem Roomy.held_step {task : Task} (roomy : Roomy s) (exclusive : WorkerExclusive s)
    (sound : QuantitiesSound s) (fits : s.RoomLeft a) (shape : s.Shape a s')
    (found : s'.db.triggers.get? tid = some row') (holding : s'.task? j = some task)
    (worker : task.worker = some tid) :
    row'.terms.Fits (task.portionsLeft row'.terms) (ordered tid s'.portions) := by
  have other := roomy.other_worker exclusive fits shape found worker holding
  cases shape with
  | promote | create | idle => exact other holding
  | @claim _ seen _ _ _ row selected unused foundSeen pending =>
      rw [Sys.task?_setTask] at holding
      split at holding
      case isTrue =>
        cases holding
        cases worker
        rw [Db.order_commit_of_some foundSeen, Option.some.injEq] at found
        subst found
        have terms : ((claimTxn seen.id).order s.db.arbPositionSeq row).terms = row.terms :=
          claimRow_terms seen.id row
        have waits : row.status.editable = true := by
          rw [pending]
          rfl
        rw [terms]
        exact roomy.waiting foundSeen waits
      case isFalse => exact other holding
  | load loads =>
      rw [Sys.task?_setTask] at holding
      split at holding
      case isTrue =>
        cases holding
        exact loads.room roomy sound found worker
      case isFalse => exact other holding
  | @commit k before x next _ writes =>
      rw [Sys.task?_goOn] at holding
      split at holding
      case isTrue =>
        subst holding
        cases before <;> cases writes
        · exact Terms.fits_zero _ _
        · cases worker
      case isFalse => exact other holding
  | drop =>
      rw [Sys.task?_erase] at holding
      split at holding
      case isTrue => cases holding
      case isFalse => exact other holding

theorem Roomy.bounded_step (roomy : Roomy s) (sound : QuantitiesSound s) (shape : s.Shape a s') :
    PortionsBounded s'.portions := by
  rcases shape.portions with same | ⟨k, tid, claim, qty, order, holding, found, started, rfl⟩
  · rw [same]
    exact roomy.bounded
  · refine ⟨fun bounded => ?_, roomy.bounded⟩
    rw [ordered_cons_self]
    exact (roomy.start sound holding found started bounded).1

theorem Roomy.step (roomy : Roomy s) (exclusive : WorkerExclusive s) (sound : QuantitiesSound s)
    (fits : s.RoomLeft a) (stepped : s.step a = some s') : Roomy s' where
  waiting _ _ found editable :=
    roomy.waiting_step exclusive sound fits (Sys.shape stepped) found editable
  held _ _ _ _ found holding worker :=
    roomy.held_step exclusive sound fits (Sys.shape stepped) found holding worker
  bounded := roomy.bounded_step sound (Sys.shape stepped)

/-- If every create and every patch leaves room for the portions still to come, no trigger
without infinite fill orders more than its total, whatever fails, is retried, is cancelled or
is edited in between. -/
theorem quantityBound_of_roomLeft {ok : Sys → Action → Prop}
    (within : ∀ s a, ok s a → s.RoomLeft a) : QuantityBound ok := by
  intro wallets tradeOrders tradePositions seq s reached
  have invariant : Preserves Sys.step Sys.RoomLeft fun s =>
      ((((s.db.Sequenced ∧ WorkerExclusive s) ∧ ClaimOnce s) ∧ QuantitiesSound s) ∧ Roomy s) := by
    refine Preserves.and (Preserves.and (Preserves.and (Preserves.and ?_ ?_) ?_) ?_) ?_
    · exact fun _ _ _ sequenced _ stepped => Sys.sequenced_step sequenced stepped
    · exact fun _ _ _ _ exclusive _ stepped => exclusive.step stepped
    · exact fun _ _ _ _ once _ stepped => once.step stepped
    · exact fun _ _ _ held sound _ stepped => sound.step held.1.1 stepped
    · exact fun _ _ _ held roomy fits stepped => roomy.step held.1.1.2 held.2 fits stepped
  have initially : QuantitiesSound (Sys.init wallets tradeOrders tradePositions seq) ∧
      Roomy (Sys.init wallets tradeOrders tradePositions seq) := by
    refine ⟨⟨fun tid row found => ?_, fun k tid set holding => ?_, fun p member => ?_⟩,
      ⟨fun tid row found => ?_, fun tid row k task found => ?_, trivial⟩⟩
    · cases found
    · cases holding
    · cases member
    · cases found
    · cases found
  have now := (reached.mono within).invariant invariant
    ⟨⟨⟨⟨Sys.sequenced_init _ _ _ _, WorkerExclusive.init _ _ _ _⟩, ClaimOnce.init _ _ _ _⟩,
      initially.1⟩, initially.2⟩
  exact ⟨now.1.1.2.once, now.2.bounded⟩

theorem quantityBound_roomLeft : QuantityBound Sys.RoomLeft :=
  quantityBound_of_roomLeft fun _ _ fits => fits

/-- A patch between two portions and the rest of the run keep the condition. -/
example :
    (execGuarded Sys.step Sys.RoomLeft freshSys
      (.create 9 (openRequest 3 1) 1000 :: beginPortion 1 3 1 ++ endPortion 1 ++
        [.patch 2 9 1 { totalQtyToken := some 2 }, .commit 2] ++
        beginPortion 3 2 1 ++ endPortion 3)).isSome = true := by
  decide +kernel

/-! ## Without the condition -/

/-- The quantities the trigger orders when all portions fill. -/
def orderedAfter (actions : List Action) : Option ℚ :=
  (exec Sys.step freshSys actions).map fun s => ordered 1 s.portions

/-- A total of 10 in portions of 3: four portions are ordered, 12 in all. -/
def fourPortions : List Action :=
  .create 9 (openRequest 10 3) 1000 ::
    (beginPortion 1 10 3 ++ endPortion 1 ++ beginPortion 2 10 3 ++ endPortion 2 ++
      beginPortion 3 10 3 ++ endPortion 3 ++ beginPortion 4 10 3)

theorem quantityBound_broken_by_remainder :
    ¬ QuantityBound (fun _ _ => True) ∧ orderedAfter fourPortions = some 12 := by
  have reached : orderedAfter fourPortions = some 12 := by decide +kernel
  refine ⟨fun always => ?_, reached⟩
  obtain ⟨s, executed, twelve⟩ := Option.map_eq_some_iff.mp reached
  have last : (exec Sys.step freshSys fourPortions).map (fun s => s.portions.head?) =
      some (some ⟨1, 3, 3, some 10, false⟩) := by decide +kernel
  rw [executed, Option.map_some, Option.some.injEq] at last
  obtain ⟨earlier, portions⟩ := List.head?_eq_some_iff.mp last
  have bounded := (always (Run.of_exec executed)).2
  rw [portions] at bounded twelve
  obtain ⟨total, inForce, within⟩ := bounded.1 rfl
  cases inForce
  rw [twelve] at within
  norm_num at within

end Avalant
