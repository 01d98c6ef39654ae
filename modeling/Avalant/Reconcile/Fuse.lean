import Avalant.Reconcile.AutoPair

/-!
The reconcile fuse: what a pass does to rows that rest on a wallet whose fetch
failed.

The pass is specified row by row: the status after it is a function of the row,
of the live quantity observed for its legs, and of nothing else. A wallet that
did not answer contributes no live row (`Db.liveByFp_of_failed`), so its legs
are observed at quantity zero, exactly like the legs of a wallet that answered
with an empty list; the rows that survive a failed fetch are those with nothing
left to close.
-/

namespace Avalant

open Relational

/-! ## Legs observed gone -/

/-- The live quantity observed for a leg. -/
def observedQty (live : List LiveRow) (fp : Fingerprint) : ℚ :=
  liveQty (liveByFp live fp)

/-- A leg with a recorded quantity is observed at zero. -/
def ArbPosition.LegGone (ap : ArbPosition) (live : List LiveRow) : Prop :=
  (0 < ap.longQty ∧ observedQty live ap.longFp = 0) ∨
    (0 < ap.shortQty ∧ observedQty live ap.shortFp = 0)

/-- Nothing of the position is left: both legs are gone, or the position was
partial and its remaining leg is. -/
def ArbPosition.AllGone (ap : ArbPosition) (live : List LiveRow) : Prop :=
  ((0 < ap.longQty ∧ observedQty live ap.longFp = 0) ∧
      (0 < ap.shortQty ∧ observedQty live ap.shortFp = 0)) ∨
    (ap.status = .partial_ ∧ ap.LegGone live)

instance (ap : ArbPosition) (live : List LiveRow) : Decidable (ap.LegGone live) :=
  inferInstanceAs (Decidable (_ ∨ _))

instance (ap : ArbPosition) (live : List LiveRow) : Decidable (ap.AllGone live) :=
  inferInstanceAs (Decidable (_ ∨ _))

theorem ArbPosition.AllGone.legGone {ap : ArbPosition} {live : List LiveRow}
    (gone : ap.AllGone live) : ap.LegGone live := by
  rcases gone with ⟨long, -⟩ | ⟨-, leg⟩
  · exact Or.inl long
  · exact leg

/-- `closed_legs` is the pair of gone flags, both set for a partial position with
one of them. -/
theorem ArbPosition.closedLegs_eq (ap : ArbPosition) (long short : ℚ) :
    ap.closedLegs long short =
      if ap.status = .partial_ ∧ ((0 < ap.longQty ∧ long = 0) ∨ (0 < ap.shortQty ∧ short = 0))
      then (true, true)
      else (decide (0 < ap.longQty ∧ long = 0), decide (0 < ap.shortQty ∧ short = 0)) := by
  have longFlag : (decide (long = 0) && decide (0 < ap.longQty)) =
      decide (0 < ap.longQty ∧ long = 0) := by
    rw [Bool.decide_and, Bool.and_comm]
  have shortFlag : (decide (short = 0) && decide (0 < ap.shortQty)) =
      decide (0 < ap.shortQty ∧ short = 0) := by
    rw [Bool.decide_and, Bool.and_comm]
  simp only [closedLegs, longFlag, shortFlag]
  by_cases isPartial : ap.status = .partial_
  · by_cases longGone : 0 < ap.longQty ∧ long = 0
    · simp [isPartial, longGone]
    · by_cases shortGone : 0 < ap.shortQty ∧ short = 0
      · simp only [isPartial, longGone, shortGone, if_true, if_false, and_self, or_true]
      · simp only [isPartial, longGone, shortGone, if_true, if_false, or_self, and_false]
  · simp only [isPartial, if_false, false_and]

theorem ArbPosition.closedLegs_both_iff (ap : ArbPosition) (live : List LiveRow) :
    ap.closedLegs (observedQty live ap.longFp) (observedQty live ap.shortFp) = (true, true) ↔
      ap.AllGone live := by
  rw [closedLegs_eq]
  unfold AllGone LegGone
  split
  case isTrue partialGone => exact iff_of_true rfl (Or.inr partialGone)
  case isFalse whole => simp [whole]

theorem ArbPosition.closedLegs_none_iff (ap : ArbPosition) (live : List LiveRow) :
    ap.closedLegs (observedQty live ap.longFp) (observedQty live ap.shortFp) =
        (false, false) ↔ ¬ ap.LegGone live := by
  rw [closedLegs_eq]
  unfold LegGone
  split
  case isTrue partialGone => exact iff_of_false (by simp) (not_not.mpr partialGone.2)
  case isFalse => rw [Prod.mk.injEq, decide_eq_false_iff_not, decide_eq_false_iff_not, not_or]

theorem ArbPosition.finalised_iff (ap : ArbPosition) (live : List LiveRow) :
    ap.finalised live = true ↔ ap.AllGone live := by
  rw [← closedLegs_both_iff]
  exact beq_iff_eq

/-- The status a pass gives a position it walks. -/
theorem ArbPosition.reconcile_status (ap : ArbPosition) (live : List LiveRow)
    (children : List TradePosition) (now : Time) :
    (ap.reconcile live children now).status =
      if ap.AllGone live then .closed
      else if ap.LegGone live then .partial_ else ap.status := by
  have both := ap.closedLegs_both_iff live
  have none := ap.closedLegs_none_iff live
  have all : ap.AllGone live → ap.LegGone live := ArbPosition.AllGone.legGone
  rcases legs : ap.closedLegs (observedQty live ap.longFp) (observedQty live ap.shortFp)
    with ⟨longClosed, shortClosed⟩
  rw [legs] at both none
  simp only [observedQty] at legs
  simp only [reconcile, legs]
  cases longClosed <;> cases shortClosed <;> simp at both none
  · simp [both, none]
  · simp [both, none]
  · simp [both, none]
  · simp [both, finalise]

/-! ## One pass, row by row -/

section Pass

variable (d : Db) (userId : Nat) (outcome : Nat → FetchOutcome) (now : Time)

/-- A single-leg row the pass considers open. -/
def TradePosition.Considered (row : TradePosition) : Prop :=
  row.userId = userId ∧ row.status = .open_ ∧ row.kind = .single

/-- An arbitrage position the pass walks. -/
def ArbPosition.Walked (ap : ArbPosition) : Prop :=
  ap.userId = userId ∧ ap.status.live = true

instance (row : TradePosition) : Decidable (row.Considered userId) :=
  inferInstanceAs (Decidable (_ ∧ _))

instance (ap : ArbPosition) : Decidable (ap.Walked userId) :=
  inferInstanceAs (Decidable (_ ∧ _))

variable {d}

/-- The first transaction closes the considered rows without a live position. -/
theorem Db.trade_reconcileTrades {id : Nat} {row : TradePosition} (live : List LiveRow)
    (found : d.tradePositions.get? id = some row) :
    ∃ row', (d.commit (d.reconcileTrades userId live now).txn).tradePositions.get? id =
        some row' ∧
      row'.status =
        if row.Considered userId ∧ liveByFp live row.fp = none then .closed else row.status := by
  refine ⟨_, Db.trade_commit_of_some found, ?_⟩
  have written := setClauses_where
    (fun row => row.userId == userId && row.status == .open_ && row.kind == .single)
    (fun row => TradePositionSet.diff row (d.settleSingle userId live now row))
    TradePositionSet.apply (fun _ _ => rfl) found
  have considered :
      (row.userId == userId && row.status == .open_ && row.kind == .single) = true ↔
        row.Considered userId := by
    simp [TradePosition.Considered, and_assoc]
  simp only [considered] at written
  refine (congrArg TradePosition.status written).trans ?_
  by_cases mine : row.Considered userId
  · simp [mine, TradePositionSet.apply_diff_status, Db.settleSingle_status]
  · simp [mine]

/-- The first transaction touches neither positions nor triggers. -/
@[simp] theorem Db.position_reconcileTrades (w : TradeWrites) (pid : Nat) :
    (d.commit w.txn).arbPositions.get? pid = d.arbPositions.get? pid :=
  Db.position_commit_id rfl rfl pid

theorem Txn.order_of_trades (w : TradeWrites) (seq : Nat) (row : ArbTriggerOrder) :
    w.txn.order seq row = row := rfl

@[simp] theorem Db.order_reconcileTrades (w : TradeWrites) (tid : Nat) :
    (d.commit w.txn).triggers.get? tid = d.triggers.get? tid := by
  simp only [Db.commit, numbered, Table.insertAll, TradeWrites.txn, List.mapIdx_nil,
    List.foldl_nil, Table.get?_map]
  cases d.triggers.get? tid with
  | none => rfl
  | some row => exact congrArg some (Txn.order_of_trades w _ row)

/-- The second transaction keeps the status of every single-leg row. -/
theorem Db.trade_reconcileArbs {id : Nat} {row : TradePosition} (w : ArbWrites)
    (found : d.tradePositions.get? id = some row) :
    ∃ row', (d.commit w.txn).tradePositions.get? id = some row' ∧ row'.status = row.status :=
  ⟨_, Db.trade_commit_of_some found, rfl⟩

/-- The second transaction gives a walked position its reconciled status. -/
theorem Db.position_reconcileArbs {pid : Nat} {ap : ArbPosition} (live : List LiveRow)
    (found : d.arbPositions.get? pid = some ap) :
    ∃ ap', (d.commit (d.reconcileArbs userId live now).txn).arbPositions.get? pid = some ap' ∧
      ap'.status =
        if ap.Walked userId ∧ ap.AllGone live then .closed
        else if ap.Walked userId ∧ ap.LegGone live then .partial_ else ap.status := by
  refine ⟨_, Db.position_commit_of_some found, ?_⟩
  have written := setClauses_where
    (fun ap => ap.userId == userId && ap.status.live)
    (fun ap => PositionSet.diff ap (ap.reconcile live
      (d.tradePositions.where_ fun ch => ch.arbPositionId == some ap.id) now))
    PositionSet.apply PositionSet.apply_id found
  refine (congrArg ArbPosition.status written).trans ?_
  have walked : (ap.userId == userId && ap.status.live) = true ↔ ap.Walked userId := by
    simp [ArbPosition.Walked]
  simp only [walked]
  by_cases mine : ap.Walked userId
  · rw [if_pos mine, PositionSet.apply_diff_status, ArbPosition.reconcile_status]
    simp [mine]
  · simp [mine]

/-- The trigger is linked to a walked position of which nothing is left. -/
def Db.LinkedFinalised (d : Db) (userId : Nat) (live : List LiveRow) (t : ArbTriggerOrder) : Prop :=
  ∃ pid ap, t.arbPositionId = some pid ∧ d.arbPositions.get? pid = some ap ∧
    ap.Walked userId ∧ ap.AllGone live

/-- The second transaction cancels the active triggers of the finalised positions. -/
theorem Db.order_reconcileArbs {tid : Nat} {t : ArbTriggerOrder} (live : List LiveRow)
    (found : d.triggers.get? tid = some t) :
    ∃ t', (d.commit (d.reconcileArbs userId live now).txn).triggers.get? tid = some t' ∧
      (t.status.active = true ∧ d.LinkedFinalised userId live t →
        t'.status = .cancelled) ∧
      (¬ (t.status.active = true ∧ d.LinkedFinalised userId live t) →
        t'.status = t.status) := by
  refine ⟨_, Db.order_commit_of_some found, ?_⟩
  change (_ → (cancelLinked _ t).status = _) ∧ (_ → (cancelLinked _ t).status = _)
  have listed : ((d.reconcileArbs userId live now).cancels.any fun pid =>
      t.arbPositionId == some pid) = true ↔ d.LinkedFinalised userId live t := by
    simp only [Db.reconcileArbs, Db.openArbs, List.any_map, List.any_eq_true,
      List.mem_filter, Table.mem_where, ArbPosition.finalised_iff]
    constructor
    · intro given
      rcases given with ⟨ap, ⟨⟨stored, selected⟩, gone⟩, link⟩
      exact ⟨ap.id, ap, by simpa using link, stored,
        by simpa [ArbPosition.Walked] using selected, gone⟩
    · intro given
      rcases given with ⟨pid, ap, link, stored, walked, gone⟩
      have keyed : ap.id = pid := Table.key_of_get? stored
      subst keyed
      exact ⟨ap, ⟨⟨stored, by simpa [ArbPosition.Walked] using walked⟩, gone⟩,
        by simp [link]⟩
  unfold cancelLinked
  constructor
  · intro given
    rcases given with ⟨active, linked⟩
    rw [if_pos (by simp [active, listed.mpr linked])]
  · intro spared
    rw [if_neg]
    rw [Bool.and_eq_true, listed]
    exact fun both => spared both.symm

/-! ## The fuse -/

def TradePosition.RestsOn (row : TradePosition) (wid : Nat) : Prop :=
  row.legAWalletId = some wid

def ArbPosition.RestsOn (ap : ArbPosition) (wid : Nat) : Prop :=
  ap.longWalletId = some wid ∨ ap.shortWalletId = some wid

/-- A trigger rests on its own wallets and on those of the position it is linked to. -/
def ArbTriggerOrder.RestsOn (d : Db) (t : ArbTriggerOrder) (wid : Nat) : Prop :=
  t.longWalletId = some wid ∨ t.shortWalletId = some wid ∨
    ∃ pid ap, t.arbPositionId = some pid ∧ d.arbPositions.get? pid = some ap ∧ ap.RestsOn wid

variable (d)

/-- One pass keeps the status of everything that rests on a wallet whose fetch failed. -/
structure ReconcileFuse : Prop where
  single : ∀ ⦃wid⦄, d.FetchFailed userId outcome wid → ∀ ⦃id row⦄,
    d.tradePositions.get? id = some row → row.RestsOn wid →
    ∃ row', (d.reconcileUser userId outcome now).tradePositions.get? id = some row' ∧
      row'.status = row.status
  position : ∀ ⦃wid⦄, d.FetchFailed userId outcome wid → ∀ ⦃pid ap⦄,
    d.arbPositions.get? pid = some ap → ap.RestsOn wid →
    ∃ ap', (d.reconcileUser userId outcome now).arbPositions.get? pid = some ap' ∧
      ap'.status = ap.status
  trigger : ∀ ⦃wid⦄, d.FetchFailed userId outcome wid → ∀ ⦃tid t⦄,
    d.triggers.get? tid = some t → t.RestsOn d wid →
    ∃ t', (d.reconcileUser userId outcome now).triggers.get? tid = some t' ∧
      t'.status = t.status

/-- Nothing that rests on a failed wallet can be closed: no single-leg row of the user is
open on it, no live position of the user on it has a leg observed gone, and no active
trigger on it is linked to a position of which nothing is left. -/
structure FailedWalletsIdle : Prop where
  single : ∀ ⦃wid⦄, d.FetchFailed userId outcome wid → ∀ ⦃id row⦄,
    d.tradePositions.get? id = some row → row.RestsOn wid → ¬ row.Considered userId
  position : ∀ ⦃wid⦄, d.FetchFailed userId outcome wid → ∀ ⦃pid ap⦄,
    d.arbPositions.get? pid = some ap → ap.RestsOn wid → ap.Walked userId →
    ¬ ap.LegGone (d.listUserPositions userId outcome)
  trigger : ∀ ⦃wid⦄, d.FetchFailed userId outcome wid → ∀ ⦃tid t⦄,
    d.triggers.get? tid = some t → t.RestsOn d wid → t.status.active = true →
    ¬ d.LinkedFinalised userId (d.listUserPositions userId outcome) t

variable {d} {userId outcome}

/-- A row resting on a failed wallet is not among the live positions. -/
theorem TradePosition.RestsOn.unseen {row : TradePosition} {wid : Nat}
    (rests : row.RestsOn wid) (failed : d.FetchFailed userId outcome wid) :
    liveByFp (d.listUserPositions userId outcome) row.fp = none := by
  apply Db.liveByFp_of_failed
  have onWallet : row.fp.walletId = wid := by
    unfold TradePosition.fp
    rw [show row.legAWalletId = some wid from rests, Option.getD_some]
  rw [onWallet]
  exact failed

variable (userId outcome)

/-- A single-leg row keeps its status unless it is considered and unseen. -/
theorem Db.trade_kept_iff {id : Nat} {row : TradePosition}
    (found : d.tradePositions.get? id = some row) :
    (∃ row', (d.reconcileUser userId outcome now).tradePositions.get? id = some row' ∧
        row'.status = row.status) ↔
      ¬ (row.Considered userId ∧
        liveByFp (d.listUserPositions userId outcome) row.fp = none) := by
  obtain ⟨settled, settledStored, status⟩ := Db.trade_reconcileTrades userId now
    (d.listUserPositions userId outcome) found
  obtain ⟨row', stored, kept⟩ := Db.trade_reconcileArbs
    ((d.commit (d.reconcileTrades userId _ now).txn).reconcileArbs userId
      (d.listUserPositions userId outcome) now) settledStored
  have after : (d.reconcileUser userId outcome now).tradePositions.get? id = some row' := stored
  rw [after]
  simp only [Option.some.injEq, exists_eq_left', kept, status]
  by_cases closes : row.Considered userId ∧
      liveByFp (d.listUserPositions userId outcome) row.fp = none
  · rw [if_pos closes, closes.1.2.1]
    simp [closes]
  · rw [if_neg closes]
    simp [closes]

/-- A position keeps its status unless it is walked and has a leg gone. -/
theorem Db.position_kept_iff {pid : Nat} {ap : ArbPosition}
    (found : d.arbPositions.get? pid = some ap) :
    (∃ ap', (d.reconcileUser userId outcome now).arbPositions.get? pid = some ap' ∧
        ap'.status = ap.status) ↔
      ¬ (ap.Walked userId ∧ ap.LegGone (d.listUserPositions userId outcome)) := by
  obtain ⟨ap', stored, status⟩ := Db.position_reconcileArbs
    (d := d.commit (d.reconcileTrades userId (d.listUserPositions userId outcome) now).txn)
    userId now (d.listUserPositions userId outcome) (by simpa using found)
  have after : (d.reconcileUser userId outcome now).arbPositions.get? pid = some ap' := stored
  rw [after]
  simp only [Option.some.injEq, exists_eq_left', status]
  by_cases walked : ap.Walked userId
  · have live := walked.2
    by_cases gone : ap.AllGone (d.listUserPositions userId outcome)
    · have notClosed : PositionStatus.closed ≠ ap.status := fun closed => by
        rw [← closed] at live
        cases live
      simp [walked, gone, gone.legGone, notClosed]
    · by_cases leg : ap.LegGone (d.listUserPositions userId outcome)
      · have notPartial : PositionStatus.partial_ ≠ ap.status := fun isPartial =>
          gone (Or.inr ⟨isPartial.symm, leg⟩)
        simp [walked, gone, leg, notPartial]
      · simp [gone, leg]
  · simp [walked]

/-- A trigger keeps its status unless it is active and linked to a finalised position. -/
theorem Db.order_kept_iff {tid : Nat} {t : ArbTriggerOrder}
    (found : d.triggers.get? tid = some t) :
    (∃ t', (d.reconcileUser userId outcome now).triggers.get? tid = some t' ∧
        t'.status = t.status) ↔
      ¬ (t.status.active = true ∧
        d.LinkedFinalised userId (d.listUserPositions userId outcome) t) := by
  obtain ⟨t', stored, cancelled, kept⟩ := Db.order_reconcileArbs
    (d := d.commit (d.reconcileTrades userId (d.listUserPositions userId outcome) now).txn)
    userId now (d.listUserPositions userId outcome) (by simpa using found)
  simp only [Db.LinkedFinalised, Db.position_reconcileTrades] at cancelled kept
  have after : (d.reconcileUser userId outcome now).triggers.get? tid = some t' := stored
  rw [after]
  simp only [Option.some.injEq, exists_eq_left']
  constructor
  · intro same cancels
    have active := cancels.1
    rw [← same, cancelled cancels] at active
    cases active
  · exact kept

/-- One pass keeps the status of everything resting on failed wallets exactly when
nothing resting on them can be closed. A failed fetch and an empty account are
indistinguishable to the pass, so the fuse is the condition itself. -/
theorem reconcileFuse_iff_failedWalletsIdle (d : Db) :
    ReconcileFuse d userId outcome now ↔ FailedWalletsIdle d userId outcome := by
  constructor
  · intro fuse
    constructor
    · intro wid failed id row found rests considered
      exact (Db.trade_kept_iff userId outcome now found).mp (fuse.single failed found rests)
        ⟨considered, rests.unseen failed⟩
    · intro wid failed pid ap found rests walked leg
      exact (Db.position_kept_iff userId outcome now found).mp
        (fuse.position failed found rests) ⟨walked, leg⟩
    · intro wid failed tid t found rests active linked
      exact (Db.order_kept_iff userId outcome now found).mp
        (fuse.trigger failed found rests) ⟨active, linked⟩
  · intro idle
    constructor
    · intro wid failed id row found rests
      exact (Db.trade_kept_iff userId outcome now found).mpr fun closes =>
        idle.single failed found rests closes.1
    · intro wid failed pid ap found rests
      exact (Db.position_kept_iff userId outcome now found).mpr fun closes =>
        idle.position failed found rests closes.1 closes.2
    · intro wid failed tid t found rests
      exact (Db.order_kept_iff userId outcome now found).mpr fun cancels =>
        idle.trigger failed found rests cancels.1 cancels.2

end Pass

/-- One user with an open hedge on wallets 1 and 2 and a stop-loss linked to it. -/
def hedgedDb : Db where
  wallets := Table.insertAll Table.empty
    [⟨1, 9, .exchange, "bybit", .screener, false⟩, ⟨2, 9, .exchange, "okx", .screener, false⟩]
  tradeOrders := Table.empty
  tradePositions := Table.empty
  arbPositions := Table.insert Table.empty
    { id := 1, userId := 9, longExchange := "bybit", longSymbol := "BTC", longWalletId := some 1
      shortExchange := "okx", shortSymbol := "BTC", shortWalletId := some 2
      targetQtyToken := some 1, leverage := some 3, marginMode := "isolated"
      entrySpreadPct := none, longEntryPrice := some 100, shortEntryPrice := some 101
      longQty := 1, shortQty := 1, openedAt := some 0, exitSpreadPct := none
      longExitPrice := none, shortExitPrice := none, realizedPnlUsd := none, closedAt := none
      status := .open_, closedExternally := false }
  triggers := Table.insert Table.empty
    { id := 1, userId := 9, arbPositionId := some 1, parentTriggerId := none, kind := .sl
      triggerSpreadPct := some (-1), longExchange := some "bybit", longSymbol := some "BTC"
      longWalletId := some 1, shortExchange := some "okx", shortSymbol := some "BTC"
      shortWalletId := some 2, totalQtyToken := none, portionSizeToken := none
      portionsFilled := 0, portionsTarget := none, infiniteFill := false, activateAt := none
      leverage := some 3, marginMode := "isolated", reduceOnly := true, status := .pending
      errorKind := none, errorMessage := none }
  tradePositionSeq := 1
  arbPositionSeq := 2
  triggerSeq := 2

/-- Both fetches time out: the pass marks the live hedge closed and cancels its stop-loss. -/
theorem reconcileFuse_broken_by_timeout :
    ¬ ReconcileFuse hedgedDb 9 (fun _ => .timeout) 60 ∧
      ((hedgedDb.reconcileUser 9 (fun _ => .timeout) 60).arbPositions.get? 1).map
          ArbPosition.status = some .closed ∧
      ((hedgedDb.reconcileUser 9 (fun _ => .timeout) 60).triggers.get? 1).map
          ArbTriggerOrder.status = some .cancelled := by
  have closed : ((hedgedDb.reconcileUser 9 (fun _ => .timeout) 60).arbPositions.get? 1).map
      ArbPosition.status = some .closed := by decide +kernel
  refine ⟨fun fuse => ?_, closed, by decide +kernel⟩
  have failed : hedgedDb.FetchFailed 9 (fun _ => .timeout) 1 :=
    ⟨⟨1, 9, .exchange, "bybit", .screener, false⟩, by decide +kernel, rfl, rfl⟩
  obtain ⟨ap, found⟩ : ∃ ap, hedgedDb.arbPositions.get? 1 = some ap := ⟨_, rfl⟩
  obtain ⟨ap', stored, kept⟩ := fuse.position failed found (by cases found; exact Or.inl rfl)
  rw [stored, Option.map_some, kept] at closed
  cases found
  cases closed

end Avalant
