import Avalant.Reconcile.Fuse
import Avalant.Trigger.Portion

/-!
What the second transaction of a reconcile pass does to a position of which a leg is still live.

A position that is partial counts as closed as soon as one recorded leg is gone. That is meant for
the leg that is left of it; but a close that went through on one side also leaves the position
partial, with both quantities as they were, and then the other leg is live when the first is gone.
-/

namespace Avalant

open Relational

variable {d : Db} {userId : Nat} {live : List LiveRow} {now : Time} {pid : Nat} {ap : ArbPosition}

/-! ## What is asked of the pass -/

/-- Every leg with a recorded quantity is observed at zero. -/
def ArbPosition.RecordedGone (ap : ArbPosition) (live : List LiveRow) : Prop :=
  (0 < ap.longQty → observedQty live ap.longFp = 0) ∧
    (0 < ap.shortQty → observedQty live ap.shortFp = 0)

/-- A leg is live on its venue. -/
def ArbPosition.LegLive (ap : ArbPosition) (live : List LiveRow) : Prop :=
  observedQty live ap.longFp ≠ 0 ∨ observedQty live ap.shortFp ≠ 0

/-- The database after `_reconcile_arb_positions`. -/
def Db.arbsReconciled (d : Db) (userId : Nat) (live : List LiveRow) (now : Time) : Db :=
  d.commit (d.reconcileArbs userId live now).txn

/-- The pass finalises the position. -/
def Db.Finalises (d : Db) (userId : Nat) (live : List LiveRow) (now : Time) (pid : Nat) : Prop :=
  ∃ ap', (d.arbsReconciled userId live now).arbPositions.get? pid = some ap' ∧
    ap'.status = .closed

/-- The pass does not finalise the position, and keeps the status of its triggers. -/
structure Db.Spares (d : Db) (userId : Nat) (live : List LiveRow) (now : Time) (pid : Nat) :
    Prop where
  position : ¬d.Finalises userId live now pid
  triggers : ∀ tid t, d.triggers.get? tid = some t → t.arbPositionId = some pid →
    ∃ t', (d.arbsReconciled userId live now).triggers.get? tid = some t' ∧ t'.status = t.status

/-- A recorded leg is gone, and the other one live. -/
def ArbPosition.OneGone (ap : ArbPosition) (live : List LiveRow) : Prop :=
  (0 < ap.longQty ∧ observedQty live ap.longFp = 0 ∧ observedQty live ap.shortFp ≠ 0) ∨
    (0 < ap.shortQty ∧ observedQty live ap.shortFp = 0 ∧ observedQty live ap.longFp ≠ 0)

instance (ap : ArbPosition) (live : List LiveRow) : Decidable (ap.OneGone live) :=
  inferInstanceAs (Decidable (_ ∨ _))

/-! ## What the pass does -/

theorem Db.finalises_iff (found : d.arbPositions.get? pid = some ap) (walked : ap.Walked userId) :
    d.Finalises userId live now pid ↔ ap.AllGone live := by
  obtain ⟨ap', stored, status⟩ := Db.position_reconcileArbs userId now live found
  unfold Finalises arbsReconciled
  rw [stored]
  simp only [Option.some.injEq, exists_eq_left', status, walked, true_and]
  have open_ : ap.status ≠ .closed := by
    intro closed
    have live := walked.2
    rw [closed] at live
    cases live
  by_cases gone : ap.AllGone live
  · simp [gone]
  · by_cases leg : ap.LegGone live <;> simp [gone, leg, open_]

/-- The triggers of a position are cancelled with it only. -/
theorem Db.spares_iff (found : d.arbPositions.get? pid = some ap) (walked : ap.Walked userId) :
    d.Spares userId live now pid ↔ ¬ap.AllGone live := by
  constructor
  · exact fun spares gone => spares.position ((Db.finalises_iff found walked).mpr gone)
  · intro left
    refine ⟨fun finalised => left ((Db.finalises_iff found walked).mp finalised), ?_⟩
    intro tid t stored link
    obtain ⟨t', after, -, kept⟩ := Db.order_reconcileArbs userId now live stored
    refine ⟨t', after, kept ?_⟩
    rintro ⟨-, pid', ap', link', found', -, gone⟩
    cases link.symm.trans link'
    cases found.symm.trans found'
    exact left gone

/-- A position is finalised with a leg that is live exactly where it is partial and one leg is
gone. -/
theorem ArbPosition.allGone_live_iff (ap : ArbPosition) (live : List LiveRow) :
    ap.AllGone live ∧ ap.LegLive live ↔ ap.status = .partial_ ∧ ap.OneGone live := by
  unfold AllGone LegGone LegLive OneGone
  constructor
  · rintro ⟨⟨⟨-, long⟩, -, short⟩ | ⟨isPartial, ⟨recorded, gone⟩ | ⟨recorded, gone⟩⟩, legLive⟩
    · rcases legLive with longLive | shortLive
      · exact absurd long longLive
      · exact absurd short shortLive
    · exact ⟨isPartial, Or.inl ⟨recorded, gone, legLive.resolve_left (not_not.mpr gone)⟩⟩
    · exact ⟨isPartial, Or.inr ⟨recorded, gone, legLive.resolve_right (not_not.mpr gone)⟩⟩
  · rintro ⟨isPartial, ⟨recorded, gone, other⟩ | ⟨recorded, gone, other⟩⟩
    · exact ⟨Or.inr ⟨isPartial, Or.inl ⟨recorded, gone⟩⟩, Or.inr other⟩
    · exact ⟨Or.inr ⟨isPartial, Or.inr ⟨recorded, gone⟩⟩, Or.inl other⟩

/-- A position is finalised with a recorded leg left exactly where it is partial, both legs are
recorded and one of them is gone. -/
theorem ArbPosition.allGone_recorded_iff (ap : ArbPosition) (live : List LiveRow) :
    ap.AllGone live ∧ ¬ap.RecordedGone live ↔
      ap.status = .partial_ ∧ ap.OneGone live ∧ 0 < ap.longQty ∧ 0 < ap.shortQty := by
  unfold AllGone LegGone RecordedGone OneGone
  constructor
  · rintro ⟨⟨⟨-, long⟩, -, short⟩ | ⟨isPartial, leg⟩, left⟩
    · exact absurd ⟨fun _ => long, fun _ => short⟩ left
    · rcases leg with ⟨recorded, gone⟩ | ⟨recorded, gone⟩
      · have other : ¬(0 < ap.shortQty → observedQty live ap.shortFp = 0) :=
          fun short => left ⟨fun _ => gone, short⟩
        obtain ⟨shortRecorded, shortLive⟩ := Classical.not_imp.mp other
        exact ⟨isPartial, Or.inl ⟨recorded, gone, shortLive⟩, recorded, shortRecorded⟩
      · have other : ¬(0 < ap.longQty → observedQty live ap.longFp = 0) :=
          fun long => left ⟨long, fun _ => gone⟩
        obtain ⟨longRecorded, longLive⟩ := Classical.not_imp.mp other
        exact ⟨isPartial, Or.inr ⟨recorded, gone, longLive⟩, longRecorded, recorded⟩
  · rintro ⟨isPartial, oneGone, longRecorded, shortRecorded⟩
    rcases oneGone with ⟨-, gone, other⟩ | ⟨-, gone, other⟩
    · exact ⟨Or.inr ⟨isPartial, Or.inl ⟨longRecorded, gone⟩⟩, fun all =>
        other (all.2 shortRecorded)⟩
    · exact ⟨Or.inr ⟨isPartial, Or.inr ⟨shortRecorded, gone⟩⟩, fun all =>
        other (all.1 longRecorded)⟩

/-- A position that the pass walks is finalised only when every recorded leg is gone, and spared
while a leg is live, unless it is partial with one leg gone and the other live. -/
theorem closesOnlyGone_iff (found : d.arbPositions.get? pid = some ap) (walked : ap.Walked userId) :
    ((d.Finalises userId live now pid → ap.RecordedGone live) ↔
      ¬(ap.status = .partial_ ∧ ap.OneGone live ∧ 0 < ap.longQty ∧ 0 < ap.shortQty)) ∧
    ((ap.LegLive live → d.Spares userId live now pid) ↔
      ¬(ap.status = .partial_ ∧ ap.OneGone live)) := by
  rw [Db.finalises_iff found walked, Db.spares_iff found walked, ← ap.allGone_recorded_iff,
    ← ap.allGone_live_iff]
  exact ⟨not_and_not_right.symm, not_and'.symm⟩

/-! ## Half a close -/

/-- The hedge of `hedgedDb` after a closing trigger whose short leg was rejected. -/
def halfClosedDb : Db :=
  hedgedDb.commit
    ((finishClose 1 (.ok { avgFillPrice := some 100 }) (.error ⟨"rejected", .exchange⟩) 50).txn 2)

/-- The short leg is left. -/
def shortLeft : List LiveRow :=
  [{ walletId := some 2, symbol := "BTC", side := "sell", quantity := some 1 }]

/-- Both legs are left. -/
def bothLeft : List LiveRow :=
  { walletId := some 1, symbol := "BTC", side := "buy", quantity := some 1 } :: shortLeft

theorem closesOnlyGone_bothLeft : halfClosedDb.Spares 9 bothLeft 60 1 := by
  obtain ⟨ap, found⟩ : ∃ ap, halfClosedDb.arbPositions.get? 1 = some ap :=
    Option.isSome_iff_exists.mp (by decide +kernel)
  have row : (halfClosedDb.arbPositions.get? 1).all fun ap =>
      decide (ap.Walked 9) && !decide (ap.OneGone bothLeft) &&
        decide (observedQty bothLeft ap.longFp ≠ 0) := by decide +kernel
  rw [found] at row
  simp only [Option.all_some, Bool.and_eq_true, Bool.not_eq_true', decide_eq_true_eq,
    decide_eq_false_iff_not] at row
  obtain ⟨⟨walked, whole⟩, legLive⟩ := row
  exact (closesOnlyGone_iff found walked).2.mpr (fun half => whole half.2) (Or.inl legLive)

/-- The pass finalises the position and cancels its stop-loss while the short leg is live. -/
theorem halfClosed_finalised :
    ((halfClosedDb.arbPositions.get? 1).map fun ap =>
      (ap.status, decide (ap.Walked 9), observedQty shortLeft ap.shortFp, ap.shortQty)) =
        some (.partial_, true, 1, 1) ∧
      ((halfClosedDb.arbsReconciled 9 shortLeft 60).arbPositions.get? 1).map ArbPosition.status =
        some .closed ∧
      ((halfClosedDb.arbsReconciled 9 shortLeft 60).triggers.get? 1).map ArbTriggerOrder.status =
        some .cancelled ∧
      halfClosedDb.Finalises 9 shortLeft 60 1 ∧ ¬halfClosedDb.Spares 9 shortLeft 60 1 := by
  have closed : ((halfClosedDb.arbsReconciled 9 shortLeft 60).arbPositions.get? 1).map
      ArbPosition.status = some .closed := by decide +kernel
  have finalised : halfClosedDb.Finalises 9 shortLeft 60 1 := Option.map_eq_some_iff.mp closed
  exact ⟨by decide +kernel, closed, by decide +kernel, finalised,
    fun spares => spares.position finalised⟩

end Avalant
