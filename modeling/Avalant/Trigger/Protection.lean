import Avalant.Trigger.Closing

/-!
Take-profit and stop-loss children of an opening trigger.

`create_arb_order` adds the children before there is a position, so they carry
the id of their parent and no `arb_position_id`; when the parent fires they are
promoted by status alone. Nothing ever writes their link: the children of every
trigger stay unlinked in every reachable state, and a promoted child that is
claimed finds "no open position to close". A child without a portion has no
quantity at all and is skipped by every tick.

A TP or SL attached to an existing position carries the link from the start,
and that one does close it.
-/

namespace Avalant

open Relational Transition

variable {s s' : Sys} {k tid : Nat} {row : ArbTriggerOrder}

/-! ## Children stay unlinked -/

/-- The trigger an opening worker will link to the position it inserts. -/
def Task.opensFor : Task → Option Nat
  | .openLegs tid _ => some tid
  | .finishing tid w => if w.newPosition.isSome then some tid else none
  | _ => none

/-- Children carry no link, and what is about to link a trigger is not about a child. -/
structure ChildrenUnlinked (s : Sys) : Prop where
  child : ∀ ⦃tid row⦄, s.db.triggers.get? tid = some row → row.parentTriggerId ≠ none →
    row.kind ≠ .open_ ∧ row.arbPositionId = none
  opens : ∀ ⦃k task tid⦄, s.task? k = some task → task.opensFor = some tid →
    ∃ row, s.db.triggers.get? tid = some row ∧ row.kind = .open_
  paired : ∀ ⦃k w⦄, s.task? k = some (.reconcileArbs w) →
    ∀ insert ∈ w.inserts, insert.linkTrigger = none

theorem finishClose_newPosition (pid : Nat) (long short : LegResult) (now : Time) :
    (finishClose pid long short now).newPosition = none := by
  unfold finishClose
  split <;> rfl

/-- An opening worker loaded an opening trigger, or was one before the load. -/
theorem Sys.Loads.opensFor {task : Task} {portions : List Portion}
    (loads : s.Loads k task portions) (opens : task.opensFor = some tid) :
    (∃ row, s.db.triggers.get? tid = some row ∧ row.kind = .open_) ∨
      ∃ before, s.task? k = some before ∧ before.opensFor = some tid := by
  cases loads with
  | refused holding found started =>
      obtain ⟨kind, message, rfl⟩ := Db.startPortion_refused started
      cases opens
  | openLegs holding found started =>
      cases opens
      exact Or.inl ⟨_, found, (Db.startPortion_openLegs started).1⟩
  | openReturn holding found =>
      simp only [Task.opensFor] at opens
      split at opens
      case isTrue =>
        cases opens
        exact Or.inr ⟨_, holding, rfl⟩
      case isFalse => cases opens
  | closeReturn holding =>
      simp [Task.opensFor, finishClose_newPosition] at opens
  | closing | raised | reconcile | reconcileNext | cancel | patch | attach => cases opens

theorem Sys.Loads.paired {w : ArbWrites} {portions : List Portion}
    (loads : s.Loads k (.reconcileArbs w) portions) :
    ∀ insert ∈ w.inserts, insert.linkTrigger = none := by
  cases loads with
  | reconcileNext =>
      intro insert member
      obtain ⟨symbol, -, inBucket⟩ := List.mem_flatMap.mp member
      exact (mem_pairBucket inBucket).2

/-- Positions are linked to triggers by opening workers only. -/
theorem Task.txn_links {task next x} {insert : PositionInsert}
    (writes : Task.txn task = some (x, next)) (member : insert ∈ x.newPositions)
    (links : insert.linkTrigger = some tid) :
    task.opensFor = some tid ∨ ∃ w, task = .reconcileArbs w ∧ insert ∈ w.inserts := by
  cases task with
  | claimed | openLegs | closeLegs | reconcileNext => cases writes
  | closing | reconcileTrades | cancelling | patching | attaching =>
      cases writes
      cases member
  | finishing self w =>
      cases writes
      obtain ⟨new, isNew, rfl⟩ := List.mem_map.mp member
      cases links
      have some_new : w.newPosition.isSome = true := by
        rw [Option.mem_toList.mp isNew]
        rfl
      exact Or.inl (if_pos some_new)
  | reconcileArbs w =>
      cases writes
      exact Or.inr ⟨w, rfl, member⟩

/-- A row that is no opening trigger keeps its link through a commit. -/
theorem ChildrenUnlinked.link {task next x} (unlinked : ChildrenUnlinked s)
    (holding : s.task? k = some task) (writes : task.txn = some (x, next))
    (found : s.db.triggers.get? tid = some row) (closes : row.kind ≠ .open_) :
    (x.order s.db.arbPositionSeq row).arbPositionId = row.arbPositionId := by
  have keyed : row.id = tid := Table.key_of_get? found
  have untouched : ∀ insert ∈ x.newPositions,
      (insert.linkTrigger == some row.id) = false := by
    intro insert member
    by_contra links
    have linksRow : insert.linkTrigger = some row.id := by simpa using links
    rcases Task.txn_links writes member linksRow with opens | ⟨w, rfl, fromPair⟩
    · obtain ⟨opened, foundOpened, isOpen⟩ := unlinked.opens holding opens
      rw [keyed, found] at foundOpened
      cases foundOpened
      exact closes isOpen
    · rw [unlinked.paired holding insert fromPair] at linksRow
      cases linksRow
  change linked _ x.newPositions _ _ = _
  rw [linked_of_none _ untouched]
  exact (Task.txn_keepsIdentity writes row).2.2

/-- Rows stay, and keep their kind. -/
theorem Sys.Shape.kind {a : Action} (shape : s.Shape a s')
    (found : s.db.triggers.get? tid = some row) :
    ∃ row', s'.db.triggers.get? tid = some row' ∧ row'.kind = row.kind := by
  cases shape with
  | promote now =>
      exact ⟨_, Db.order_commit_of_some found, (promoteTxn_keepsIdentity now row).1⟩
  | @claim _ seen =>
      exact ⟨_, Db.order_commit_of_some found, (claimTxn_keepsIdentity seen.id row).1⟩
  | commit _ writes =>
      exact ⟨_, Db.order_commit_of_some found, (Task.txn_keepsIdentity writes row).1⟩
  | create => exact ⟨_, Db.order_commit_of_some found, rfl⟩
  | load | drop | idle => exact ⟨row, found, rfl⟩

theorem ChildrenUnlinked.child_step {a : Action} (unlinked : ChildrenUnlinked s)
    (shape : s.Shape a s') (found : s'.db.triggers.get? tid = some row)
    (isChild : row.parentTriggerId ≠ none) : row.kind ≠ .open_ ∧ row.arbPositionId = none := by
  cases shape with
  | promote now =>
      rcases Db.order_commit found with ⟨old, foundOld, rfl⟩ | ⟨-, -, -, new, member, -⟩
      · obtain ⟨kind, parent, link⟩ := promoteTxn_keepsIdentity now old
        obtain ⟨closes, free⟩ := unlinked.child foundOld (parent ▸ isChild)
        exact ⟨fun opens => closes (kind.symm.trans opens), link.trans free⟩
      · cases member
  | @claim _ seen =>
      rcases Db.order_commit found with ⟨old, foundOld, rfl⟩ | ⟨-, -, -, new, member, -⟩
      · obtain ⟨kind, parent, link⟩ := claimTxn_keepsIdentity seen.id old
        obtain ⟨closes, free⟩ := unlinked.child foundOld (parent ▸ isChild)
        exact ⟨fun opens => closes (kind.symm.trans opens), link.trans free⟩
      · cases member
  | load | drop | idle => exact unlinked.child found isChild
  | @commit k task x next holding writes =>
      rcases Db.order_commit found with ⟨old, foundOld, rfl⟩ | ⟨-, -, -, new, member, rfl⟩
      · obtain ⟨kind, parent, -⟩ := Task.txn_keepsIdentity writes old
        obtain ⟨closes, free⟩ := unlinked.child foundOld (parent ▸ isChild)
        exact ⟨fun opens => closes (kind.symm.trans opens),
          (unlinked.link holding writes foundOld closes).trans free⟩
      · cases task with
        | attaching pos body =>
            cases writes
            exact absurd (AttachTpSl.mem_rows member).2.1 isChild
        | claimed | openLegs | closeLegs | reconcileNext => cases writes
        | closing | finishing | reconcileTrades | reconcileArbs | cancelling | patching =>
            cases writes
            cases member
  | create accepted =>
      rcases Db.order_commit found with ⟨old, foundOld, rfl⟩ | ⟨-, -, -, new, member, rfl⟩
      · exact unlinked.child foundOld isChild
      · rcases Db.mem_createArbOrder accepted member with rfl | ⟨isTp | isSl, -, free⟩
        · exact absurd rfl isChild
        · exact ⟨fun opens => absurd (isTp.symm.trans opens) (by decide), free⟩
        · exact ⟨fun opens => absurd (isSl.symm.trans opens) (by decide), free⟩

theorem ChildrenUnlinked.step {a : Action} (unlinked : ChildrenUnlinked s)
    (stepped : s.step a = some s') : ChildrenUnlinked s' := by
  have shape := Sys.shape stepped
  refine ⟨fun tid row found isChild => unlinked.child_step shape found isChild,
    fun j task tid holding opens => ?_, fun j w holding => ?_⟩
  · have opened : ∃ row, s.db.triggers.get? tid = some row ∧ row.kind = .open_ := by
      rcases shape.task holding with before | ⟨portions, loads⟩ | follows
      · exact unlinked.opens before opens
      · rcases loads.opensFor opens with loaded | ⟨earlier, held, opensEarlier⟩
        · exact loaded
        · exact unlinked.opens held opensEarlier
      · cases follows <;> cases opens
    obtain ⟨row, found, isOpen⟩ := opened
    obtain ⟨row', found', same⟩ := shape.kind found
    exact ⟨row', found', same.trans isOpen⟩
  · rcases shape.task holding with before | ⟨portions, loads⟩ | follows
    · exact unlinked.paired before
    · exact loads.paired
    · cases follows

theorem ChildrenUnlinked.init (wallets : Table Wallet) (tradeOrders : Table TradeOrder)
    (tradePositions : Table TradePosition) (seq : Nat) :
    ChildrenUnlinked (Sys.init wallets tradeOrders tradePositions seq) where
  child := by
    intro tid row found
    cases found
  opens := by
    intro k task tid holding
    cases holding
  paired := by
    intro k w holding
    cases holding

/-! ## Protection that works -/

/-- The venues a TP or SL closes on: its own, else those of the position. -/
def ArbTriggerOrder.closePair (order : ArbTriggerOrder) (pos : ArbPosition) : PairRef :=
  ⟨(Python.nonEmpty order.longExchange).or (some pos.longExchange),
    (Python.nonEmpty order.longSymbol).or (some pos.longSymbol),
    (Python.nonEmpty order.shortExchange).or (some pos.shortExchange),
    (Python.nonEmpty order.shortSymbol).or (some pos.shortSymbol)⟩

/-- The books are deep enough for the position, and the exit spread meets the condition of
the child. -/
def CloseDue (books : Books) (child : ArbTriggerOrder) (pos : ArbPosition) (now : Time) : Prop :=
  ∃ spread, computeExitSpread books (child.closePair pos) pos.longQty now = some spread ∧
    conditionMet child.kind child.triggerSpreadPct spread = true

/-- The next tick claims the child and starts to close the position. -/
def Sys.ExecutesClose (s : Sys) (child : ArbTriggerOrder) (pos : ArbPosition) (books : Books)
    (now : Time) : Prop :=
  ∀ k, s.task? k = none → ∃ s₁ s₂,
    s.step (.claim k child (child.arbPositionId.bind s.db.arbPositions.get?) books now) = some s₁ ∧
    s₁.step (.start k) = some s₂ ∧
    s₂.task? k = some (.closing child.id pos.id { status := some .closing })

/-- The child waits, is linked to the position, and closes it in the next tick in which its
condition holds. -/
def Sys.Protects (s : Sys) (pos : ArbPosition) (child : ArbTriggerOrder) : Prop :=
  child.status = .pending ∧ child.arbPositionId = some pos.id ∧
    ∀ books now, CloseDue books child pos now → s.ExecutesClose child pos books now

/-- Every child of the trigger that was not cancelled protects the position. -/
def Sys.ProtectionWorks (s : Sys) (parent : ArbTriggerOrder) (pos : ArbPosition) : Prop :=
  ∀ ⦃cid child⦄, s.db.triggers.get? cid = some child →
    child.parentTriggerId = some parent.id → child.status ≠ .cancelled → s.Protects pos child

/-- Every child of the trigger was cancelled. -/
def Sys.ChildrenCancelled (s : Sys) (parent : ArbTriggerOrder) : Prop :=
  ∀ ⦃cid child⦄, s.db.triggers.get? cid = some child →
    child.parentTriggerId = some parent.id → child.status = .cancelled

/-- An opening trigger fired and its position is open on both legs. -/
def Sys.FiredOpen (s : Sys) (parent : ArbTriggerOrder) (pos : ArbPosition) : Prop :=
  s.db.triggers.get? parent.id = some parent ∧ parent.kind = .open_ ∧ parent.status = .fired ∧
    parent.arbPositionId = some pos.id ∧ s.db.arbPositions.get? pos.id = some pos ∧
    pos.status = .open_ ∧ 0 < pos.longQty ∧ 0 < pos.shortQty

instance (s : Sys) (parent : ArbTriggerOrder) (pos : ArbPosition) :
    Decidable (s.FiredOpen parent pos) :=
  inferInstanceAs (Decidable (_ ∧ _ ∧ _ ∧ _ ∧ _ ∧ _ ∧ _ ∧ _))

/-! ## A linked child closes -/

theorem readBookForLeg_exchange {books : Books} {exchange symbol : Option String} {now : Time}
    {book : Book} (read : readBookForLeg books exchange symbol now = some book) :
    ∃ name, Python.nonEmpty exchange = some name := by
  obtain ⟨name, found, -⟩ := Option.bind_eq_some_iff.mp read
  exact ⟨name, found⟩

/-- A due TP or SL that carries its position and a portion is selected by the tick. -/
theorem tickFires_of_closeDue {books : Books} {child : ArbTriggerOrder} {pos : ArbPosition}
    {now : Time} {qty : ℚ} (kind : child.kind = .tp ∨ child.kind = .sl)
    (size : child.portionQty = some qty) (positive : 0 < qty) (held : 0 < pos.longQty)
    (due : CloseDue books child pos now) : tickFires books child (some pos) now = true := by
  obtain ⟨spread, computed, met⟩ := due
  have wholePosition : Python.or_ (some pos.longQty) (some qty) = some pos.longQty :=
    Python.or_of_truthy _ ((Python.truthy_some _).mpr held.ne')
  have target : tickTarget child (some pos) = some (child.closePair pos, pos.longQty) := by
    unfold tickTarget
    rw [size]
    simp only [if_neg (not_le.mpr positive), if_pos kind, wholePosition, Python.orZero_some]
    rfl
  obtain ⟨longBook, readLong, rest⟩ := Option.bind_eq_some_iff.mp computed
  obtain ⟨shortBook, readShort, -⟩ := Option.bind_eq_some_iff.mp rest
  obtain ⟨longName, longNamed⟩ := readBookForLeg_exchange readLong
  obtain ⟨shortName, shortNamed⟩ := readBookForLeg_exchange readShort
  have closes : child.kind ≠ .open_ := by
    rcases kind with isTp | isSl
    · rw [isTp]
      decide
    · rw [isSl]
      decide
  have spreads : tickSpread books child (some pos) now = some spread := by
    simp only [tickSpread, target, Option.bind_eq_bind, Option.bind_some, longNamed, shortNamed,
      if_neg closes]
    exact computed
  simp only [tickFires, spreads]
  exact met

/-- What attaching to a position gives: a waiting TP or SL with its link and a portion closes
the position as soon as it is due. -/
theorem Sys.executesClose_of_linked {child : ArbTriggerOrder} {pos : ArbPosition}
    {books : Books} {now : Time} {qty : ℚ}
    (found : s.db.triggers.get? child.id = some child) (pending : child.status = .pending)
    (kind : child.kind = .tp ∨ child.kind = .sl) (linked : child.arbPositionId = some pos.id)
    (foundPos : s.db.arbPositions.get? pos.id = some pos) (closable : pos.status.closable = true)
    (wallets : pos.longWalletId.getD 0 ≠ 0 ∧ pos.shortWalletId.getD 0 ≠ 0)
    (size : child.portionQty = some qty) (positive : 0 < qty) (held : 0 < pos.longQty)
    (due : CloseDue books child pos now) : s.ExecutesClose child pos books now := by
  intro k unused
  have seenPos : child.arbPositionId.bind s.db.arbPositions.get? = some pos := by
    rw [linked]
    exact foundPos
  have selected := tickFires_of_closeDue kind size positive held due
  have isPending : (s.db.triggers.get? child.id).any (fun row => row.status == .pending) = true :=
    by simp [found, pending]
  have claimed : s.step (.claim k child (some pos) books now) =
      some
        { s with
          db := s.db.commit (claimTxn child.id)
          tasks := s.setTask k (.claimed child.id s.claims)
          claims := s.claims + 1 } :=
    if_pos ⟨selected, unused, isPending⟩
  have refreshed : (s.db.commit (claimTxn child.id)).triggers.get? child.id =
      some { child with status := .firing } := by
    rw [Db.order_commit_of_some found]
    change some (claimRow child.id child) = _
    rw [claimRow, if_pos ⟨rfl, pending⟩]
  have samePos : (s.db.commit (claimTxn child.id)).arbPositions.get? pos.id = some pos := by
    rw [Db.position_commit_id rfl rfl]
    exact foundPos
  have started : (s.db.commit (claimTxn child.id)).startPortion { child with status := .firing } =
      .closing pos.id { status := some .closing } := by
    have dispatched : (s.db.commit (claimTxn child.id)).startPortion
        { child with status := .firing } =
          (s.db.commit (claimTxn child.id)).startClose { child with status := .firing } := by
      rcases kind with isTp | isSl
      · simp only [Db.startPortion, isTp]
      · simp only [Db.startPortion, isSl]
    rw [dispatched]
    simp only [Db.startClose, linked, Option.bind_some, samePos, if_pos closable, if_pos wallets]
  rw [seenPos]
  refine ⟨_, { s with
    db := s.db.commit (claimTxn child.id)
    tasks := (Sys.setTask
      { s with
        db := s.db.commit (claimTxn child.id)
        tasks := s.setTask k (.claimed child.id s.claims)
        claims := s.claims + 1 } k (.closing child.id pos.id { status := some .closing }))
    claims := s.claims + 1 }, claimed, ?_, ?_⟩
  · simp only [step, Sys.start, Sys.task?_setTask, if_pos, refreshed, started]
  · simp

/-! ## An unlinked child does not -/

theorem Sys.childrenUnlinked {ok : Sys → Action → Prop} {wallets : Table Wallet}
    {tradeOrders : Table TradeOrder} {tradePositions : Table TradePosition} {seq : Nat}
    (reached : Run Sys.step ok (Sys.init wallets tradeOrders tradePositions seq) s) :
    ChildrenUnlinked s :=
  reached.invariant (fun _ _ _ unlinked _ stepped => unlinked.step stepped)
    (ChildrenUnlinked.init _ _ _ _)

/-- In every reachable state, the children of a trigger protect its position exactly when all
of them were cancelled, that is when there is no protection left. -/
theorem protectionWorks_iff_childrenCancelled {ok : Sys → Action → Prop}
    {wallets : Table Wallet} {tradeOrders : Table TradeOrder}
    {tradePositions : Table TradePosition} {seq : Nat}
    (reached : Run Sys.step ok (Sys.init wallets tradeOrders tradePositions seq) s)
    (parent : ArbTriggerOrder) (pos : ArbPosition) :
    s.ProtectionWorks parent pos ↔ s.ChildrenCancelled parent := by
  have unlinked := Sys.childrenUnlinked reached
  constructor
  · intro works cid child found isChild
    by_contra alive
    obtain ⟨-, linked, -⟩ := works found isChild alive
    obtain ⟨-, free⟩ := unlinked.child found (by simp [isChild])
    rw [free] at linked
    cases linked
  · intro cancelled cid child found isChild alive
    exact absurd (cancelled found isChild) alive

/-! ## A promoted child -/

/-- An open trigger of one portion with a take-profit of the same size. -/
def protectedRequest : ArbOrderCreate :=
  { openRequest 1 1 with tp := some { triggerSpreadPct := 1, portionSizeToken := some 1 } }

/-- The trigger is created and its only portion fills. -/
def protectedRun : List Action :=
  [.create 9 protectedRequest 1000,
   .claim 1 { protectedRequest.order 9 1000 with id := 1 } none deepBooks 1000, .start 1] ++
    endPortion 1

/-- Books on which closing the position of `protectedRun` pays 1.9 %. -/
def convergedBooks : Books where
  flat :=
    [("bybit:BTC", { asks := [(106, 1000)], bids := [(105, 1000)], ts := some 1001 }),
     ("okx:BTC", { asks := [(103, 1000)], bids := [(102, 1000)], ts := some 1001 })]

/-- The row of the take-profit as a tick loads it after its promotion. -/
def promotedChild : ArbTriggerOrder :=
  { makeChild { protectedRequest.order 9 1000 with id := 1 } .tp
      { triggerSpreadPct := 1, portionSizeToken := some 1 } with id := 2, status := .pending }

theorem exists_firedOpen : ∃ s parent pos, exec Sys.step freshSys protectedRun = some s ∧
    s.FiredOpen parent pos ∧ parent.id = 1 := by
  have found : (exec Sys.step freshSys protectedRun).any (fun s =>
      (s.db.triggers.get? 1).any fun parent =>
        (s.db.arbPositions.get? 1).any fun pos =>
          decide (s.FiredOpen parent pos ∧ parent.id = 1)) = true := by
    decide +kernel
  obtain ⟨s, executed, found⟩ := (Option.any_eq_true _ _).mp found
  obtain ⟨parent, -, found⟩ := (Option.any_eq_true _ _).mp found
  obtain ⟨pos, -, fired⟩ := (Option.any_eq_true _ _).mp found
  exact ⟨s, parent, pos, executed, of_decide_eq_true fired⟩

/-- The equivalence on a trigger that fired with its position open. -/
theorem protectionWorks_iff_childrenCancelled_fired :
    ∃ (s : Sys) (parent : ArbTriggerOrder) (pos : ArbPosition), s.FiredOpen parent pos ∧
      (s.ProtectionWorks parent pos ↔ s.ChildrenCancelled parent) := by
  obtain ⟨s, parent, pos, executed, fired, -⟩ := exists_firedOpen
  exact ⟨s, parent, pos, fired,
    protectionWorks_iff_childrenCancelled (Run.of_exec executed) parent pos⟩

/-- In every run, the children of a fired trigger whose position is open protect it. -/
def PromotedProtection : Prop :=
  ∀ ⦃wallets tradeOrders tradePositions seq s⦄,
    Run Sys.step (fun _ _ => True) (Sys.init wallets tradeOrders tradePositions seq) s →
    ∀ ⦃parent pos⦄, s.FiredOpen parent pos → s.ProtectionWorks parent pos

/-- The promoted take-profit waits without a link; the tick in which it is due marks it
failed. -/
theorem promotedProtection_broken_by_unlinked_child :
    ¬ PromotedProtection ∧
      triggerAfter protectedRun 2 = some promotedChild ∧
      promotedChild.arbPositionId = none ∧
      (triggerAfter (protectedRun ++ [.claim 2 promotedChild none convergedBooks 1001, .start 2,
        .commit 2]) 2).map (fun row => (row.status, row.errorMessage)) =
          some (.failed, some "no open position to close") := by
  have promoted : triggerAfter protectedRun 2 = some promotedChild := by decide +kernel
  refine ⟨fun works => ?_, promoted, rfl, by decide +kernel⟩
  obtain ⟨s, parent, pos, executed, fired, isFirst⟩ := exists_firedOpen
  have found : s.db.triggers.get? 2 = some promotedChild := by
    simpa [triggerAfter, executed] using promoted
  have isChild : promotedChild.parentTriggerId = some parent.id := by
    rw [isFirst]
    rfl
  obtain ⟨-, linked, -⟩ := works (Run.of_exec executed) fired found isChild (by decide)
  cases linked

end Avalant
