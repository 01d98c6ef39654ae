import Avalant.Trigger.Portion
import Mathlib.Algebra.Order.BigOperators.Group.List
import Mathlib.Data.List.Induction
import Mathlib.Tactic.Linarith

/-!
What the portions of a trigger come to on its position.

`accumulate_position` folds the two fills of a portion into one row, each leg with its own average. A
leg that failed is folded in with price 0 and quantity 0, which weighs nothing as long as the leg has
a quantity; before that, `vwap_merge` takes over the price 0.
-/

namespace Avalant

open Relational

/-! ## Legs -/

inductive Leg
  | long | short
  deriving DecidableEq, Repr

/-- The two fills of a portion, and when they are folded in. -/
structure PortionFill where
  long : Fill
  short : Fill
  foldedAt : Time
  deriving DecidableEq, Repr

def PortionFill.fill (p : PortionFill) : Leg → Fill
  | .long => p.long
  | .short => p.short

def ArbPosition.recordedPrice (pos : ArbPosition) : Leg → Option ℚ
  | .long => pos.longEntryPrice
  | .short => pos.shortEntryPrice

def ArbPosition.recordedQty (pos : ArbPosition) : Leg → ℚ
  | .long => pos.longQty
  | .short => pos.shortQty

/-- The leg was filled. -/
structure Fill.Filled (f : Fill) : Prop where
  price : 0 < f.price
  qty : 0 < f.qty

/-- What the caller passes for a leg that failed. -/
def Fill.Failed (f : Fill) : Prop := f = ⟨0, 0⟩

/-- Each leg of a portion is filled, or failed. -/
def PortionFill.Reported (p : PortionFill) : Prop :=
  ∀ leg, (p.fill leg).Filled ∨ (p.fill leg).Failed

theorem Fill.Filled.not_failed {f : Fill} (filled : f.Filled) : ¬f.Failed := by
  intro failed
  have positive := filled.qty
  rw [show f = ⟨0, 0⟩ from failed] at positive
  exact lt_irrefl 0 positive

theorem PortionFill.Reported.qty_nonneg {p : PortionFill} (reported : p.Reported) (leg : Leg) :
    0 ≤ (p.fill leg).qty := by
  rcases reported leg with filled | failed
  · exact filled.qty.le
  · rw [show p.fill leg = ⟨0, 0⟩ from failed]

/-! ## The row -/

/-- `accumulate_position`, on the row of the trigger or on the one that it creates. -/
def ArbTriggerOrder.foldPortion (trigger : ArbTriggerOrder) (pos : Option ArbPosition)
    (p : PortionFill) : Option ArbPosition :=
  some ((pos.getD (trigger.newPosition p.foldedAt)).accumulate p.long p.short p.foldedAt)

/-- The row after a sequence of portions. -/
def ArbTriggerOrder.portions (trigger : ArbTriggerOrder) (ps : List PortionFill) :
    Option ArbPosition :=
  ps.foldl trigger.foldPortion none

/-- The SET clause for the row that a trigger is linked to. -/
theorem Db.accumulatePosition_linked {d : Db} {trigger : ArbTriggerOrder} {pos : ArbPosition}
    (linked : trigger.arbPositionId.bind d.arbPositions.get? = some pos) (p : PortionFill)
    (status : PositionStatus) (w : WorkerWrite) :
    ∃ set, (d.accumulatePosition trigger p.long p.short status p.foldedAt w).position =
        some (pos.id, set) ∧
      (trigger.foldPortion (some pos) p).map (fun row => { row with status }) =
        some (set.apply pos) := by
  unfold Db.accumulatePosition
  rw [linked]
  refine ⟨_, rfl, congrArg some ?_⟩
  simp [PositionSet.diff, PositionSet.apply, ArbPosition.accumulate]

/-- The row that is inserted for a trigger without one. -/
theorem Db.accumulatePosition_unlinked {d : Db} {trigger : ArbTriggerOrder}
    (unlinked : trigger.arbPositionId.bind d.arbPositions.get? = none) (p : PortionFill)
    (status : PositionStatus) (w : WorkerWrite) :
    (d.accumulatePosition trigger p.long p.short status p.foldedAt w).newPosition =
      (trigger.foldPortion none p).map (fun row => { row with status }) := by
  unfold Db.accumulatePosition
  rw [unlinked]
  rfl

/-! ## Books -/

/-- A leg is recorded with the quantity of its fills, at their average price. -/
structure ArbPosition.Accounts (pos : ArbPosition) (leg : Leg) (fills : List Fill) : Prop where
  qty : pos.recordedQty leg = (fills.map Fill.qty).sum
  cost : (pos.recordedPrice leg).getD 0 * pos.recordedQty leg =
    (fills.map fun f => f.price * f.qty).sum

/-- A leg is recorded as before. -/
def ArbPosition.SameLeg (pos pos' : ArbPosition) (leg : Leg) : Prop :=
  pos.recordedPrice leg = pos'.recordedPrice leg ∧ pos.recordedQty leg = pos'.recordedQty leg

/-- After every portion each leg accounts for its fills, and a failed leg is as it was. -/
def ArbTriggerOrder.Accounted (trigger : ArbTriggerOrder) (ps : List PortionFill) : Prop :=
  ∀ before p after, ps = before ++ p :: after →
    ∀ pos, trigger.portions (before ++ [p]) = some pos → ∀ leg,
      pos.Accounts leg ((before ++ [p]).map fun p => p.fill leg) ∧
      ((p.fill leg).Failed →
        pos.SameLeg ((trigger.portions before).getD (trigger.newPosition p.foldedAt)) leg)

variable {trigger : ArbTriggerOrder} {pos : ArbPosition} {leg : Leg} {ps : List PortionFill}

theorem ArbTriggerOrder.portions_concat (p : PortionFill) :
    trigger.portions (ps ++ [p]) =
      some (((trigger.portions ps).getD (trigger.newPosition p.foldedAt)).accumulate p.long p.short
        p.foldedAt) := by
  unfold portions
  rw [List.foldl_append]
  rfl

@[simp] theorem ArbPosition.recordedPrice_accumulate (p : PortionFill) (now : Time) :
    (pos.accumulate p.long p.short now).recordedPrice leg =
      some (vwapMerge (pos.recordedPrice leg) (pos.recordedQty leg) (p.fill leg).price
        (p.fill leg).qty) := by
  cases leg <;> rfl

@[simp] theorem ArbPosition.recordedQty_accumulate (p : PortionFill) (now : Time) :
    (pos.accumulate p.long p.short now).recordedQty leg =
      pos.recordedQty leg + (p.fill leg).qty := by
  cases leg <;> rfl

/-- The cost of a merged leg. -/
theorem vwapMerge_mul {prev : Option ℚ} {prevQty price qty : ℚ} (held : 0 ≤ prevQty)
    (priced : prev = none → prevQty = 0) (bought : 0 ≤ qty) :
    vwapMerge prev prevQty price qty * (prevQty + qty) = prev.getD 0 * prevQty + price * qty := by
  cases prev with
  | none => simp [vwapMerge, priced rfl]
  | some prev =>
      unfold vwapMerge
      rcases held.eq_or_lt with rfl | positive
      · simp
      · have total : 0 < prevQty + qty := add_pos_of_pos_of_nonneg positive bought
        simp only [not_le.mpr positive, not_le.mpr total, if_false]
        exact div_mul_cancel₀ _ total.ne'

/-- Merging nothing keeps a price that has a quantity, and makes any other one 0. -/
theorem vwapMerge_nothing_iff {prev : Option ℚ} {prevQty : ℚ} (held : 0 ≤ prevQty)
    (priced : prev = none → prevQty = 0) :
    some (vwapMerge prev prevQty 0 0) = prev ↔ 0 < prevQty ∨ prev = some 0 := by
  cases prev with
  | none => simp [vwapMerge, priced rfl]
  | some prev =>
      unfold vwapMerge
      rcases held.eq_or_lt with rfl | positive
      · simp [eq_comm]
      · simp [not_le.mpr positive, positive, positive.ne']

/-- What every portion keeps of a leg. -/
structure ArbPosition.Sound (pos : ArbPosition) (leg : Leg) (fills : List Fill) : Prop where
  accounts : pos.Accounts leg fills
  held : 0 ≤ pos.recordedQty leg
  priced : pos.recordedPrice leg = none → pos.recordedQty leg = 0

theorem ArbTriggerOrder.sound_newPosition (now : Time) : (trigger.newPosition now).Sound leg [] := by
  cases leg <;> exact ⟨⟨rfl, mul_zero _⟩, le_rfl, fun _ => rfl⟩

theorem ArbPosition.Sound.accumulate {fills : List Fill} (sound : pos.Sound leg fills)
    {p : PortionFill} (reported : p.Reported) (now : Time) :
    (pos.accumulate p.long p.short now).Sound leg (fills ++ [p.fill leg]) := by
  have bought := reported.qty_nonneg leg
  refine ⟨⟨?_, ?_⟩, ?_, fun unpriced => ?_⟩
  · rw [recordedQty_accumulate, sound.accounts.qty, List.map_append, List.sum_append]
    simp
  · rw [recordedQty_accumulate, recordedPrice_accumulate, Option.getD_some,
      vwapMerge_mul sound.held sound.priced bought, sound.accounts.cost, List.map_append,
      List.sum_append]
    simp
  · rw [recordedQty_accumulate]
    exact add_nonneg sound.held bought
  · rw [recordedPrice_accumulate] at unpriced
    cases unpriced

/-- Every run of portions, the row that the next one would create included. -/
theorem ArbTriggerOrder.sound_portions (reported : ∀ p ∈ ps, p.Reported) (leg : Leg) (now : Time) :
    ((trigger.portions ps).getD (trigger.newPosition now)).Sound leg (ps.map fun p => p.fill leg) := by
  induction ps using List.reverseRecOn generalizing now with
  | nil => exact sound_newPosition now
  | append_singleton ps p ih =>
      have before := ih (fun p member => reported p (List.mem_append_left _ member)) p.foldedAt
      rw [portions_concat, Option.getD_some, List.map_append]
      exact before.accumulate (reported p (by simp)) p.foldedAt

theorem ArbPosition.Sound.sameLeg_iff {fills : List Fill} (sound : pos.Sound leg fills)
    {p : PortionFill} (failed : (p.fill leg).Failed) (now : Time) :
    (pos.accumulate p.long p.short now).SameLeg pos leg ↔
      0 < pos.recordedQty leg ∨ pos.recordedPrice leg = some 0 := by
  unfold SameLeg
  rw [recordedPrice_accumulate, recordedQty_accumulate, show p.fill leg = ⟨0, 0⟩ from failed,
    vwapMerge_nothing_iff sound.held sound.priced]
  simp

/-- The portions are accounted for, leg by leg, exactly if the first one fills both legs. -/
theorem portions_accounted_iff (trigger : ArbTriggerOrder) (reported : ∀ p ∈ ps, p.Reported) :
    trigger.Accounted ps ↔ ∀ p ∈ ps.head?, ∀ leg, (p.fill leg).Filled := by
  constructor
  · intro accounted p first leg
    obtain ⟨rest, rfl⟩ := List.head?_eq_some_iff.mp first
    rcases reported p List.mem_cons_self leg with filled | failed
    · exact filled
    · have same := (accounted [] p rest rfl _ (ArbTriggerOrder.portions_concat p) leg).2 failed
      have fresh : (trigger.newPosition p.foldedAt).Sound leg [] :=
        ArbTriggerOrder.sound_newPosition p.foldedAt
      rcases (fresh.sameLeg_iff failed p.foldedAt).mp same with positive | priced
      · cases leg <;> exact absurd positive (lt_irrefl 0)
      · cases leg <;> cases priced
  · rintro firstFills before p after rfl pos folded leg
    have now : ((trigger.portions before).getD (trigger.newPosition p.foldedAt)).Sound leg
        (before.map fun p => p.fill leg) :=
      ArbTriggerOrder.sound_portions (fun p member => reported p (List.mem_append_left _ member))
        leg p.foldedAt
    rw [ArbTriggerOrder.portions_concat] at folded
    cases folded
    refine ⟨?_, fun failed => (now.sameLeg_iff failed p.foldedAt).mpr (Or.inl ?_)⟩
    · rw [List.map_append]
      exact (now.accumulate (reported p (by simp)) p.foldedAt).accounts
    · rw [now.accounts.qty]
      cases before with
      | nil => exact absurd failed (firstFills p rfl leg).not_failed
      | cons first rest =>
          have opened := (firstFills first rfl leg).qty
          have more : 0 ≤ ((rest.map fun p => p.fill leg).map Fill.qty).sum := by
            refine List.sum_nonneg fun q member => ?_
            obtain ⟨f, fills, rfl⟩ := List.mem_map.mp member
            obtain ⟨p', present, rfl⟩ := List.mem_map.mp fills
            exact (reported p' (by simp [present])).qty_nonneg leg
          rw [List.map_cons, List.map_cons, List.sum_cons]
          exact add_pos_of_pos_of_nonneg opened more

/-! ## Two portions -/

/-- Two units of each leg, one at a time. -/
def twoPortions : ArbTriggerOrder where
  id := 1
  userId := 9
  arbPositionId := none
  parentTriggerId := none
  kind := .open_
  triggerSpreadPct := some 1
  longExchange := some "bybit"
  longSymbol := some "BTC"
  longWalletId := some 1
  shortExchange := some "okx"
  shortSymbol := some "BTC"
  shortWalletId := some 2
  totalQtyToken := some 2
  portionSizeToken := some 1
  portionsFilled := 0
  portionsTarget := some 2
  infiniteFill := false
  activateAt := none
  leverage := some 3
  marginMode := "isolated"
  reduceOnly := false
  status := .firing
  errorKind := none
  errorMessage := none

def bothFilled : PortionFill := ⟨⟨100, 1⟩, ⟨101, 1⟩, 0⟩

/-- The short leg fails. -/
def longOnly : PortionFill := ⟨⟨104, 1⟩, ⟨0, 0⟩, 60⟩

theorem reported_bothFilled : bothFilled.Reported := by
  intro leg
  cases leg
  · exact Or.inl ⟨show (0 : ℚ) < 100 by decide, show (0 : ℚ) < 1 by decide⟩
  · exact Or.inl ⟨show (0 : ℚ) < 101 by decide, show (0 : ℚ) < 1 by decide⟩

theorem reported_longOnly : longOnly.Reported := by
  intro leg
  cases leg
  · exact Or.inl ⟨show (0 : ℚ) < 104 by decide, show (0 : ℚ) < 1 by decide⟩
  · exact Or.inr rfl

theorem portions_accounted_second : twoPortions.Accounted [bothFilled, longOnly] := by
  refine (portions_accounted_iff twoPortions ?_).mpr fun p first leg => ?_
  · simp [reported_bothFilled, reported_longOnly]
  · cases first
    exact (reported_bothFilled leg).resolve_right (by cases leg <;> nofun)

/-- A leg that fails first gets the price 0, and the entry spread becomes -100 %. -/
theorem failed_leg_is_priced :
    (twoPortions.newPosition 60).shortEntryPrice = none ∧
      (twoPortions.portions [longOnly]).map
          (fun pos => (pos.shortEntryPrice, pos.shortQty, pos.entrySpreadPct)) =
        some (some 0, 0, some (-100)) ∧
      ¬twoPortions.Accounted [longOnly] := by
  refine ⟨rfl, by decide +kernel, fun accounted => ?_⟩
  obtain ⟨price, -⟩ := (accounted [] longOnly [] rfl _ rfl .short).2 rfl
  cases price

end Avalant
