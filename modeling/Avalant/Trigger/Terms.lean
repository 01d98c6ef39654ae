import Avalant.Trigger.Closing

/-!
The terms of a trigger, that is the columns that say how much it orders, and the portions it
has ordered.

A row's terms are set by a create and by a patch; its worker counts portions. No other writer
touches them. A claim number is drawn once and leaves with the portion it pays for, so a
claim leads to one portion at most in every run.
-/

namespace Avalant

open Relational Transition

/-! ## What was ordered -/

/-- The quantity a trigger has ordered. -/
def ordered (tid : Nat) (portions : List Portion) : ℚ :=
  ((portions.filter fun p => p.trigger == tid).map Portion.qty).sum

/-- Each portion (newest first) kept its trigger within the total it then had. -/
def PortionsBounded : List Portion → Prop
  | [] => True
  | p :: earlier =>
      (p.infinite = false →
        ∃ total, p.total = some total ∧ ordered p.trigger (p :: earlier) ≤ total) ∧
      PortionsBounded earlier

theorem ordered_cons_self (p : Portion) (portions : List Portion) :
    ordered p.trigger (p :: portions) = ordered p.trigger portions + p.qty := by
  simp [ordered, add_comm]

theorem ordered_cons_of_ne {p : Portion} {tid : Nat} (other : p.trigger ≠ tid)
    (portions : List Portion) : ordered tid (p :: portions) = ordered tid portions := by
  simp [ordered, other]

theorem ordered_eq_zero {tid : Nat} {portions : List Portion}
    (unseen : ∀ p ∈ portions, p.trigger ≠ tid) : ordered tid portions = 0 := by
  have none_left : portions.filter (fun p => p.trigger == tid) = [] := by
    simpa using unseen
  simp [ordered, none_left]

/-! ## Terms of a trigger -/

/-- The columns that say how much a trigger still orders. -/
structure Terms where
  kind : TriggerKind
  total : Option ℚ
  portion : Option ℚ
  filled : Nat
  target : Option Nat
  infinite : Bool
  deriving DecidableEq, Repr

def ArbTriggerOrder.terms (row : ArbTriggerOrder) : Terms :=
  ⟨row.kind, row.totalQtyToken, row.portionSizeToken, row.portionsFilled, row.portionsTarget,
    row.infiniteFill⟩

namespace Terms

/-- The number of filled portions after which the trigger fires. -/
def goal (t : Terms) : Nat :=
  match t.target with
  | none | some 0 => 1
  | some n => n

/-- The portions a waiting trigger still orders when all of them fill: one at least. -/
def left (t : Terms) : Nat :=
  max 1 (t.goal - t.filled)

/-- `n` more portions fit into the total of an opening trigger without infinite fill. -/
def Fits (t : Terms) (n : Nat) (ordered : ℚ) : Prop :=
  t.kind = .open_ → t.infinite = false → 0 < n →
    ∃ qty ∈ Python.or_ t.portion t.total, ∃ total ∈ t.total, ordered + n * qty ≤ total

instance (t : Terms) (n : Nat) (ordered : ℚ) : Decidable (t.Fits n ordered) :=
  inferInstanceAs (Decidable (_ → _ → _ → ∃ qty ∈ _, _))

/-- No negative quantity. -/
def NonNeg (t : Terms) : Prop :=
  (∀ qty ∈ t.portion, 0 ≤ qty) ∧ ∀ qty ∈ t.total, 0 ≤ qty

variable {t : Terms} {ordered : ℚ} {n : Nat}

theorem fits_zero (t : Terms) (ordered : ℚ) : t.Fits 0 ordered :=
  fun _ _ some_left => absurd some_left (lt_irrefl 0)

theorem fits_of_kind (closes : t.kind ≠ .open_) : t.Fits n ordered :=
  fun opens => absurd opens closes

/-- What fits does not depend on the count of filled portions. -/
theorem Fits.refill (fits : t.Fits n ordered) (filled : Nat) :
    ({ t with filled } : Terms).Fits n ordered :=
  fits

theorem NonNeg.qty (nonNeg : t.NonNeg) {qty : ℚ} (size : qty ∈ Python.or_ t.portion t.total) :
    0 ≤ qty := by
  unfold Python.or_ at size
  split at size
  · exact nonNeg.1 qty size
  · exact nonNeg.2 qty size

/-- One of the portions that fit is ordered. -/
theorem Fits.order {qty : ℚ} (fits : t.Fits (n + 1) ordered) (nonNeg : t.NonNeg)
    (opens : t.kind = .open_) (bounded : t.infinite = false)
    (size : qty ∈ Python.or_ t.portion t.total) :
    (∃ total, t.total = some total ∧ ordered + qty ≤ total) ∧ t.Fits n (ordered + qty) := by
  obtain ⟨qty', size', total, inForce, room⟩ := fits opens bounded n.succ_pos
  have same : qty' = qty := Option.mem_unique size' size
  subst same
  have sum : ordered + (n + 1 : ℕ) * qty' = ordered + qty' + n * qty' := by
    push_cast
    ring
  have rest : 0 ≤ n * qty' := mul_nonneg n.cast_nonneg (nonNeg.qty size)
  refine ⟨⟨total, inForce, ?_⟩, fun _ _ _ => ⟨qty', size, total, inForce, ?_⟩⟩
  · linarith
  · linarith

end Terms

/-- `order.portions_target or 1`. -/
theorem ArbTriggerOrder.goal_cast (row : ArbTriggerOrder) :
    Python.orZero (Python.or_ (row.portionsTarget.map Nat.cast) (some 1)) =
      (row.terms.goal : ℚ) := by
  unfold Terms.goal terms
  rcases row.portionsTarget with _ | _ | n
  · simp
  · simp
  · have nonzero : ((n + 1 : ℕ) : ℚ) ≠ 0 := Nat.cast_ne_zero.mpr n.succ_ne_zero
    simp only [Option.map_some]
    rw [Python.or_of_truthy _ ((Python.truthy_some _).mpr nonzero), Python.orZero_some]

/-- A filled portion leaves the trigger waiting only if its goal is not reached. -/
theorem ArbTriggerOrder.goal_of_nextStatus {row : ArbTriggerOrder}
    (bounded : row.infiniteFill = false) (waits : row.nextStatus.editable = true) :
    row.portionsFilled + 1 < row.terms.goal := by
  by_contra reached
  have filled : (row.terms.goal : ℚ) ≤ (row.portionsFilled + 1 : ℕ) :=
    Nat.cast_le.mpr (by omega)
  unfold nextStatus at waits
  rw [goal_cast, if_neg (by simp [bounded]), if_pos filled] at waits
  cases waits

variable {s s' : Sys} {j k tid : Nat} {row row' : ArbTriggerOrder} {a : Action}

/-! ## What a step does to the terms -/

theorem promoteRow_terms (now : Time) (row : ArbTriggerOrder) :
    (promoteRow now row).terms = row.terms := by
  unfold promoteRow
  split <;> rfl

theorem promoteRow_editable (now : Time) (row : ArbTriggerOrder)
    (editable : (promoteRow now row).status.editable = true) : row.status.editable = true := by
  by_contra settled
  rw [promoteRow_of_not_editable now (by simpa using settled)] at editable
  exact settled editable

theorem claimRow_terms (seen : Nat) (row : ArbTriggerOrder) :
    (claimRow seen row).terms = row.terms := by
  unfold claimRow
  split <;> rfl

theorem claimRow_editable (seen : Nat) (row : ArbTriggerOrder)
    (editable : (claimRow seen row).status.editable = true) :
    claimRow seen row = row := by
  unfold claimRow at editable ⊢
  split at editable
  case isTrue => cases editable
  case isFalse other => exact if_neg other

/-- The writers of the terms of a row: its own worker counts a portion, a patch sets them. -/
inductive Task.SetsTerms (row row' : ArbTriggerOrder) : Task → Prop
  | own (w : WorkerWrite)
      (terms : row'.terms =
        { row.terms with filled := w.order.portionsFilled.getD row.portionsFilled })
      (status : row.status.editable = false →
        row'.status = w.order.status.getD row.status) :
      SetsTerms row row' (.finishing row.id w)
  | patch (set : PatchSet) (terms : row'.terms = (set.apply row).terms)
      (status : row'.status = row.status) :
      SetsTerms row row' (.patching row.id set)

/-- A commit sets the terms of a row, or keeps them and does not make it waiting. -/
theorem Task.txn_terms {task next x} (writes : Task.txn task = some (x, next))
    (row : ArbTriggerOrder) :
    task.SetsTerms row (x.orders.run row) ∨
      ((x.orders.run row).terms = row.terms ∧
        ((x.orders.run row).status.editable = true → row.status.editable = true)) := by
  cases task with
  | claimed | openLegs | closeLegs | reconcileNext => cases writes
  | closing | reconcileTrades | attaching =>
      cases writes
      exact Or.inr ⟨rfl, id⟩
  | finishing self w =>
      cases writes
      change Task.SetsTerms row (w.runOrder self row) _ ∨
        (w.runOrder self row).terms = _ ∧ ((w.runOrder self row).status.editable = true → _)
      have frame := runStmts_frame self w.stmts row
      unfold WorkerWrite.runOrder
      split
      case isTrue own =>
        subst own
        refine Or.inl (.own w ?_ fun settled => ?_)
        · rw [frame]
          rfl
        · rw [runStmts_of_not_editable row.id w.stmts settled]
          rfl
      case isFalse =>
        refine Or.inr ⟨?_, fun editable => ?_⟩
        · rw [frame]
          rfl
        · by_contra settled
          rw [runStmts_of_not_editable self w.stmts (by simpa using settled)] at editable
          exact settled editable
  | reconcileArbs w =>
      cases writes
      change Task.SetsTerms row (cancelLinked w.cancels row) _ ∨
        (cancelLinked w.cancels row).terms = _ ∧
          ((cancelLinked w.cancels row).status.editable = true → _)
      unfold cancelLinked
      split
      case isTrue => exact Or.inr ⟨rfl, fun editable => by cases editable⟩
      case isFalse => exact Or.inr ⟨rfl, id⟩
  | cancelling tid =>
      cases writes
      change Task.SetsTerms row (cancelRow tid row) _ ∨ (cancelRow tid row).terms = _ ∧
        ((cancelRow tid row).status.editable = true → _)
      unfold cancelRow
      split
      case isTrue => exact Or.inr ⟨rfl, fun editable => by cases editable⟩
      case isFalse => exact Or.inr ⟨rfl, id⟩
  | patching tid set =>
      cases writes
      simp only [PatchSet.txn, setClauses, key_arbTriggerOrder]
      by_cases own : row.id = tid
      · subst own
        rw [List.lookup_cons_self]
        exact Or.inl (.patch set rfl rfl)
      · have other : List.lookup row.id [(tid, set)] = none := by
          rw [List.lookup_cons, beq_false_of_ne own]
          rfl
        rw [other]
        exact Or.inr ⟨rfl, id⟩

/-- Where a row of the next state comes from. -/
theorem Sys.Shape.terms (shape : s.Shape a s') (found : s'.db.triggers.get? tid = some row') :
    (∃ row, s.db.triggers.get? tid = some row ∧
      ((row'.terms = row.terms ∧
          (row'.status.editable = true → row.status.editable = true)) ∨
        ∃ k task, a = .commit k ∧ s.task? k = some task ∧ task.SetsTerms row row')) ∨
      (s.db.triggers.get? tid = none ∧ s.db.triggerSeq ≤ tid ∧
        (row'.kind = .open_ → ∃ userId body now rows, a = .create userId body now ∧
          s.db.createArbOrder userId body now = .ok rows ∧
          row'.terms = (body.order userId now).terms)) := by
  cases shape with
  | promote now =>
      rcases Db.order_commit found with ⟨row, foundOld, rfl⟩ | ⟨-, -, -, new, member, -⟩
      · exact Or.inl ⟨row, foundOld, Or.inl ⟨promoteRow_terms now row, promoteRow_editable now row⟩⟩
      · cases member
  | @claim _ seen =>
      rcases Db.order_commit found with ⟨row, foundOld, rfl⟩ | ⟨-, -, -, new, member, -⟩
      · refine Or.inl ⟨row, foundOld, Or.inl ⟨claimRow_terms seen.id row, fun editable => ?_⟩⟩
        have same : claimRow seen.id row = row := claimRow_editable seen.id row editable
        exact same ▸ editable
      · cases member
  | load | drop | idle => exact Or.inl ⟨row', found, Or.inl ⟨rfl, id⟩⟩
  | @commit k task x next holding writes =>
      rcases Db.order_commit found with ⟨row, foundOld, rfl⟩ | ⟨absent, above, -, new, member, rfl⟩
      · refine Or.inl ⟨row, foundOld, ?_⟩
        rcases Task.txn_terms writes row with sets | kept
        · refine Or.inr ⟨k, task, rfl, holding, ?_⟩
          cases sets with
          | own w terms status => exact .own w terms status
          | patch set terms status => exact .patch set terms status
        · exact Or.inl kept
      · refine Or.inr ⟨absent, above, fun opens => ?_⟩
        cases task with
        | attaching pos body =>
            cases writes
            rcases (AttachTpSl.mem_rows member).1 with isTp | isSl
            · exact absurd (isTp.symm.trans opens) (by decide)
            · exact absurd (isSl.symm.trans opens) (by decide)
        | claimed | openLegs | closeLegs | reconcileNext => cases writes
        | closing | finishing | reconcileTrades | reconcileArbs | cancelling | patching =>
            cases writes
            cases member
  | @create userId body now rows accepted =>
      rcases Db.order_commit found with ⟨row, foundOld, rfl⟩ | ⟨absent, above, -, new, member, rfl⟩
      · exact Or.inl ⟨row, foundOld, Or.inl ⟨rfl, id⟩⟩
      · refine Or.inr ⟨absent, above, fun opens => ?_⟩
        rcases Db.mem_createArbOrder accepted member with rfl | ⟨isTp | isSl, -, -⟩
        · exact ⟨userId, body, now, rows, rfl, accepted, rfl⟩
        · exact absurd (isTp.symm.trans opens) (by decide)
        · exact absurd (isSl.symm.trans opens) (by decide)

/-- A step orders nothing, or starts one portion of a claimed opening trigger. -/
theorem Sys.Shape.portions (shape : s.Shape a s') :
    s'.portions = s.portions ∨
      ∃ k tid claim qty order, s.task? k = some (.claimed tid claim) ∧
        s.db.triggers.get? tid = some order ∧ s.db.startPortion order = .openLegs qty ∧
        s' = { s with
          tasks := s.setTask k (.openLegs tid qty)
          portions := ⟨tid, claim, qty, order.totalQtyToken, order.infiniteFill⟩ :: s.portions } := by
  cases shape with
  | load loads isLoad =>
      cases loads with
      | openLegs holding found started => exact Or.inr ⟨_, _, _, _, _, holding, found, started, rfl⟩
      | refused | closing | openReturn | closeReturn | raised | reconcile | reconcileNext | cancel
      | patch | attach => exact Or.inl rfl
  | promote | claim | commit | create | drop | idle => exact Or.inl rfl

/-- Only a portion of the trigger itself adds to what it ordered, and its worker orders it. -/
theorem Sys.Shape.ordered (shape : s.Shape a s') (tid : Nat) :
    ordered tid s'.portions = ordered tid s.portions ∨
      ∃ k claim, s.task? k = some (.claimed tid claim) ∧ ∃ qty, s'.task? k = some (.openLegs tid qty) := by
  rcases shape.portions with same | ⟨k, tid', claim, qty, order, holding, -, -, rfl⟩
  · rw [same]
    exact Or.inl rfl
  · by_cases own : tid' = tid
    · subst own
      exact Or.inr ⟨k, claim, holding, qty, by simp⟩
    · exact Or.inl (ordered_cons_of_ne own _)

/-! ## One portion for a claim -/

/-- A claim number is drawn once, and leaves its task with the portion it orders. -/
structure ClaimOnce (s : Sys) : Prop where
  drawn : ∀ ⦃k tid claim⦄, s.task? k = some (.claimed tid claim) →
    claim < s.claims ∧ ∀ p ∈ s.portions, p.claim ≠ claim
  unique : ∀ ⦃j k tid tid' claim⦄, s.task? j = some (.claimed tid claim) →
    s.task? k = some (.claimed tid' claim) → j = k
  used : ∀ p ∈ s.portions, p.claim < s.claims
  once : (s.portions.map Portion.claim).Nodup

/-- A claimed task was claimed before, or by this step under the next number. -/
theorem Sys.Shape.claimed {claim : Nat} (shape : s.Shape a s')
    (holding : s'.task? j = some (.claimed tid claim)) :
    s.task? j = some (.claimed tid claim) ∨
      (claim = s.claims ∧ s'.claims = s.claims + 1 ∧ s'.portions = s.portions ∧
        ∃ seen seenPos books now, a = .claim j seen seenPos books now) := by
  rcases shape.origin holding with before | ⟨seen, seenPos, books, now, _, step, same, -, -, next,
    portions⟩ | ⟨_, loads⟩ | ⟨task, _, -, writes⟩
  · exact Or.inl before
  · cases same
    exact Or.inr ⟨rfl, next, portions, seen, seenPos, books, now, step⟩
  · cases loads
  · cases task <;> cases writes

theorem Sys.Shape.claims_le (shape : s.Shape a s') : s.claims ≤ s'.claims := by
  cases shape <;> simp

/-- Every step of every party keeps it. -/
theorem ClaimOnce.step (once : ClaimOnce s) (stepped : s.step a = some s') : ClaimOnce s' := by
  have shape := Sys.shape stepped
  have unique : ∀ ⦃j k tid tid' claim⦄, s'.task? j = some (.claimed tid claim) →
      s'.task? k = some (.claimed tid' claim) → j = k := by
    intro j k tid tid' claim atJ atK
    rcases shape.claimed atJ with beforeJ | ⟨rfl, -, -, _, _, _, _, claimJ⟩
    · rcases shape.claimed atK with beforeK | ⟨rfl, -⟩
      · exact once.unique beforeJ beforeK
      · exact absurd (once.drawn beforeJ).1 (lt_irrefl _)
    · rcases shape.claimed atK with beforeK | ⟨-, -, -, _, _, _, _, claimK⟩
      · exact absurd (once.drawn beforeK).1 (lt_irrefl _)
      · rw [claimJ] at claimK
        cases claimK
        rfl
  rcases shape.portions with same | ⟨k, tid, claim, qty, order, holding, -, -, rfl⟩
  · refine ⟨fun j tid claim atJ => ?_, unique, fun p member => ?_, same ▸ once.once⟩
    · rcases shape.claimed atJ with before | ⟨rfl, more, -⟩
      · obtain ⟨below, unused⟩ := once.drawn before
        exact ⟨lt_of_lt_of_le below shape.claims_le, same ▸ unused⟩
      · refine ⟨by omega, fun p member => ?_⟩
        exact (once.used p (same ▸ member)).ne
    · exact lt_of_lt_of_le (once.used p (same ▸ member)) shape.claims_le
  · obtain ⟨below, unused⟩ := once.drawn holding
    refine ⟨fun j tid' claim' atJ => ?_, unique, fun p member => ?_, ?_⟩
    · rw [Sys.task?_setTask] at atJ
      split at atJ
      case isTrue => cases atJ
      case isFalse other =>
        obtain ⟨below', unused'⟩ := once.drawn atJ
        refine ⟨below', fun p member => ?_⟩
        rcases List.mem_cons.mp member with rfl | earlier
        · intro same
          subst same
          exact other (once.unique atJ holding)
        · exact unused' p earlier
    · rcases List.mem_cons.mp member with rfl | earlier
      · exact below
      · exact once.used p earlier
    · refine List.nodup_cons.mpr ⟨fun member => ?_, once.once⟩
      obtain ⟨p, earlier, same⟩ := List.mem_map.mp member
      exact unused p earlier same

theorem ClaimOnce.init (wallets : Table Wallet) (tradeOrders : Table TradeOrder)
    (tradePositions : Table TradePosition) (seq : Nat) :
    ClaimOnce (Sys.init wallets tradeOrders tradePositions seq) where
  drawn := by
    intro k tid claim holding
    cases holding
  unique := by
    intro j k tid tid' claim holding
    cases holding
  used := by
    intro p member
    cases member
  once := List.nodup_nil

/-! ## Quantities are not negative -/

/-- The quantities a patch sets are not negative. -/
def PatchSet.NonNeg (set : PatchSet) : Prop :=
  (∀ qty, set.portionSizeToken = some (some qty) → 0 ≤ qty) ∧
    ∀ qty, set.totalQtyToken = some (some qty) → 0 ≤ qty

theorem PatchSet.NonNeg.apply {set : PatchSet} (setNonNeg : set.NonNeg)
    (nonNeg : row.terms.NonNeg) : (set.apply row).terms.NonNeg := by
  constructor
  · intro qty given
    change set.portionSizeToken.getD row.portionSizeToken = some qty at given
    cases written : set.portionSizeToken with
    | none =>
        rw [written, Option.getD_none] at given
        exact nonNeg.1 qty given
    | some value =>
        rw [written, Option.getD_some] at given
        exact setNonNeg.1 qty (written.trans (congrArg some given))
  · intro qty given
    change set.totalQtyToken.getD row.totalQtyToken = some qty at given
    cases written : set.totalQtyToken with
    | none =>
        rw [written, Option.getD_none] at given
        exact nonNeg.2 qty given
    | some value =>
        rw [written, Option.getD_some] at given
        exact setNonNeg.2 qty (written.trans (congrArg some given))

theorem positiveField_some {x : Option ℚ} (positive : positiveField x = true) {qty : ℚ}
    (given : x = some qty) : 0 < qty := by
  subst given
  simpa [positiveField] using positive

/-- A changed column is a field of the request, so it passed the field's check. -/
theorem dirty_or_positive {field loaded : Option ℚ} (positive : positiveField field = true)
    {qty : ℚ} (written : Python.dirty loaded (field.or loaded) = some (some qty)) : 0 ≤ qty := by
  obtain ⟨changed, new⟩ := Python.dirty_eq_some_iff.mp written
  cases field with
  | none => exact absurd rfl changed
  | some value => exact (positiveField_some positive new.symm).le

theorem Db.patchOrder_nonNeg {d : Db} {userId : Nat} {body : ArbOrderPatch} {set : PatchSet}
    (accepted : d.patchOrder userId tid body = .ok set) : set.NonNeg := by
  unfold patchOrder at accepted
  split at accepted
  case isFalse => cases accepted
  case isTrue wellFormed =>
    split at accepted
    case h_1 => cases accepted
    case h_2 order found =>
      split at accepted
      case isFalse => cases accepted
      case isTrue =>
        cases accepted
        simp only [ArbOrderPatch.wellFormed, Bool.and_eq_true] at wellFormed
        obtain ⟨⟨⟨total, portion⟩, -⟩, -⟩ := wellFormed
        have portionSet : (body.assign order).portionSizeToken =
            body.portionSizeToken.or order.portionSizeToken := by
          unfold ArbOrderPatch.assign
          split <;> rfl
        have totalSet : (body.assign order).totalQtyToken =
            body.totalQtyToken.or order.totalQtyToken := by
          unfold ArbOrderPatch.assign
          split <;> rfl
        constructor
        · intro qty written
          simp only [PatchSet.diff, portionSet] at written
          exact dirty_or_positive portion written
        · intro qty written
          simp only [PatchSet.diff, totalSet] at written
          exact dirty_or_positive total written

theorem ArbOrderCreate.quantities_of_valid {m : ArbOrderCreate} (valid : m.validate = .ok ()) :
    0 < m.totalQtyToken ∧ positiveField m.portionSizeToken = true := by
  unfold validate at valid
  by_cases total : m.totalQtyToken ≤ 0
  · rw [if_pos total] at valid
    cases valid
  · rw [if_neg total] at valid
    cases portion : positiveField m.portionSizeToken with
    | true => exact ⟨not_le.mp total, rfl⟩
    | false =>
        rw [portion, if_pos (by rfl)] at valid
        cases valid

theorem Db.valid_of_createArbOrder {d : Db} {userId : Nat} {body : ArbOrderCreate} {now : Time}
    {rows : List ArbTriggerOrder} (accepted : d.createArbOrder userId body now = .ok rows) :
    body.validate = .ok () := by
  unfold createArbOrder at accepted
  cases valid : body.validate with
  | error message =>
      rw [valid] at accepted
      cases accepted
  | ok => rfl

theorem Db.createArbOrder_nonNeg {d : Db} {userId : Nat} {body : ArbOrderCreate} {now : Time}
    {rows : List ArbTriggerOrder} (accepted : d.createArbOrder userId body now = .ok rows) :
    (body.order userId now).terms.NonNeg := by
  obtain ⟨total, portion⟩ :=
    ArbOrderCreate.quantities_of_valid (Db.valid_of_createArbOrder accepted)
  constructor
  · intro qty given
    exact (positiveField_some portion given).le
  · intro qty given
    cases given
    exact total.le

/-- No opening trigger and no patch in flight carries a negative quantity, and portions are of
triggers that exist. -/
structure QuantitiesSound (s : Sys) : Prop where
  row : ∀ ⦃tid row⦄, s.db.triggers.get? tid = some row → row.kind = .open_ → row.terms.NonNeg
  patch : ∀ ⦃k tid set⦄, s.task? k = some (.patching tid set) → set.NonNeg
  seen : ∀ p ∈ s.portions, p.trigger < s.db.triggerSeq

theorem Sys.Shape.patching {set : PatchSet} (shape : s.Shape a s')
    (holding : s'.task? j = some (.patching tid set)) :
    s.task? j = some (.patching tid set) ∨ set.NonNeg := by
  rcases shape.task holding with before | ⟨portions, loads⟩ | follows
  · exact Or.inl before
  · cases loads with
    | patch unused accepted => exact Or.inr (Db.patchOrder_nonNeg accepted)
  · cases follows

theorem Sys.Shape.triggerSeq_le (shape : s.Shape a s') : s.db.triggerSeq ≤ s'.db.triggerSeq := by
  cases shape <;> simp [Db.commit]

theorem QuantitiesSound.step (sound : QuantitiesSound s) (sequenced : s.db.Sequenced)
    (stepped : s.step a = some s') : QuantitiesSound s' := by
  have shape := Sys.shape stepped
  refine ⟨fun tid row' found opens => ?_, fun j tid set holding => ?_, fun p member => ?_⟩
  · rcases shape.terms found with ⟨row, foundOld, ⟨terms, -⟩ | ⟨k, task, -, holding, sets⟩⟩ |
      ⟨-, -, created⟩
    · have opened : row.kind = .open_ := (congrArg Terms.kind terms).symm.trans opens
      rw [terms]
      exact sound.row foundOld opened
    · cases sets with
      | own w terms =>
          have opened : row.kind = .open_ := (congrArg Terms.kind terms).symm.trans opens
          rw [terms]
          exact sound.row foundOld opened
      | patch set terms =>
          have opened : row.kind = .open_ := (congrArg Terms.kind terms).symm.trans opens
          rw [terms]
          exact (sound.patch holding).apply (sound.row foundOld opened)
    · obtain ⟨userId, body, now, rows, -, accepted, terms⟩ := created opens
      rw [terms]
      exact Db.createArbOrder_nonNeg accepted
  · rcases shape.patching holding with before | nonNeg
    · exact sound.patch before
    · exact nonNeg
  · refine lt_of_lt_of_le ?_ shape.triggerSeq_le
    rcases shape.portions with same | ⟨k, tid, claim, qty, order, -, found, -, rfl⟩
    · exact sound.seen p (same ▸ member)
    · rcases List.mem_cons.mp member with rfl | earlier
      · exact sequenced.order found
      · exact sound.seen p earlier

end Avalant
