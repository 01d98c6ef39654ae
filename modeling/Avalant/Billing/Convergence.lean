import Avalant.Billing.Effects

/-!
Deliveries of one payment converge, whatever order they come in.

A payment that is neither paid nor refunded has no extension, no promo usage and
no credit; the row lock lets one webhook past that check, and nothing leads back
from `refunded`. A refund delivered before the payment is paid is logged and
ignored.
-/

namespace Avalant

open Relational Transition

namespace BillingDb

/-- A payment has extended a plan, used a promo code and credited a commission once at most. -/
structure AppliedOnce (db : BillingDb) (paymentId : Nat) : Prop where
  extended : db.history.extended.count paymentId ≤ 1
  promo : (db.promoUsages.rows.countP fun u => u.paymentId == paymentId) ≤ 1
  credit : (db.ledger.earnings.rows.countP fun e =>
    e.paymentId == some paymentId && decide (0 < e.amountUsd)) ≤ 1

end BillingDb

/-- In every reachable state each payment is applied once at most; and after a refund that found
the payment in one of the given states, it is refunded for good, its commission is reversed and it
is never activated again. -/
def WebhookConverges (delivered : PaymentStatus → Prop) : Prop :=
  ∀ s, BillingReached (fun _ _ _ _ => True) s → ∀ paymentId, s.store.AppliedOnce paymentId ∧
    ∀ found, (paymentId, found) ∈ s.store.history.refunds → delivered found →
      s.store.statusOf paymentId = some .refunded ∧
      s.store.ledger.CommissionReversed paymentId ∧
      ∀ s', Run billing.step (Program.guard fun _ _ _ _ => True) s s' →
        s'.store.statusOf paymentId = some .refunded ∧
        s'.store.history.extended.count paymentId = s.store.history.extended.count paymentId

namespace BillingDb

variable {db db' : BillingDb} {paymentId : Nat}

/-- The promo usages of a payment. -/
def promoCount (db : BillingDb) (paymentId : Nat) : Nat :=
  db.promoUsages.rows.countP fun u => u.paymentId == paymentId

/-- What holds of one payment. -/
structure PaymentSound (db : BillingDb) (paymentId : Nat) : Prop where
  extended : db.history.extended.count paymentId ≤ 1
  promo : db.promoCount paymentId ≤ 1
  idle : ¬db.Settled paymentId →
    db.history.extended.count paymentId = 0 ∧ db.promoCount paymentId = 0
  reversed : db.statusOf paymentId = some .refunded → db.ledger.CommissionReversed paymentId
  refunds : ∀ found, (paymentId, found) ∈ db.history.refunds →
    found = .paid ∨ found = .refunded → db.statusOf paymentId = some .refunded

structure Sound (db : BillingDb) : Prop where
  credited : db.ledger.Credited
  payments : ∀ paymentId, db.PaymentSound paymentId

/-- What a task relies on. -/
def TaskSound (db : BillingDb) : BillingTask → Prop
  | .readPaidPromo payment | .readUser payment _ | .countUsages payment _ _ _ =>
      db.Waiting payment.id
  | .commitPaid payment _ _ split =>
      db.Waiting payment.id ∧
        ∀ rows ∈ split, Ledger.CreditsPayment rows.1 rows.2 payment.id
  | .commitRefund payment _ _ => db.Settled payment.id
  | .payout op => op.onPayouts = true
  | _ => True

/-- Two transactions do not hold one payment row. -/
def Apart (task task' : BillingTask) : Prop :=
  ∀ paymentId, task.locks = some paymentId → task'.locks ≠ some paymentId

theorem Apart.symm {task task' : BillingTask} (apart : Apart task task') : Apart task' task :=
  fun paymentId holds holds' => apart paymentId holds' holds

theorem apart_of_unlocked {others : List BillingTask} {task : BillingTask}
    (unlocked : isLocked others paymentId = false) (locks : task.locks = some paymentId) :
    ∀ t ∈ others, Apart task t ∧ Apart t task := by
  intro t member
  have free : t.locks ≠ some paymentId := by
    intro held
    have locked : isLocked others paymentId = true :=
      List.any_eq_true.mpr ⟨t, member, by simp [held]⟩
    rw [unlocked] at locked
    cases locked
  have apart : Apart task t := fun other holds held => by
    rw [locks] at holds
    exact free (holds ▸ held)
  exact ⟨apart, apart.symm⟩

theorem apart_of_locks {others : List BillingTask} {task task' : BillingTask}
    (apart : ∀ t ∈ others, Apart task t ∧ Apart t task)
    (locks : task'.locks = none ∨ task'.locks = task.locks) :
    ∀ t ∈ others, Apart task' t ∧ Apart t task' := by
  intro t member
  have forth : Apart task' t := by
    intro paymentId holds
    rcases locks with none | same
    · rw [none] at holds
      cases holds
    · exact (apart t member).1 paymentId (same ▸ holds)
  exact ⟨forth, forth.symm⟩

theorem apart_of_unlocking {task : BillingTask} (locks : task.locks = none)
    (others : List BillingTask) : ∀ t ∈ others, Apart task t ∧ Apart t task := by
  intro t _
  have apart : Apart task t := fun id holds _ => by
    rw [locks] at holds
    cases holds
  exact ⟨apart, apart.symm⟩

/-! ## What one payment's change leaves of the others -/

theorem Waiting.congr (waiting : db.Waiting paymentId)
    (same : db'.statusOf paymentId = db.statusOf paymentId) : db'.Waiting paymentId := by
  obtain ⟨status, found, facts⟩ := waiting
  exact ⟨status, same.trans found, facts⟩

theorem Settled.congr (settled : db.Settled paymentId)
    (same : db'.statusOf paymentId = db.statusOf paymentId) : db'.Settled paymentId := by
  unfold Settled
  rw [same]
  exact settled

/-- Tasks are about known payments, and survive when those keep their status. -/
theorem TaskSound.mono {task : BillingTask} (sound : db.TaskSound task)
    (waiting : ∀ id, db.Waiting id → task.locks = some id → db'.Waiting id)
    (settled : ∀ id, db.Settled id → db'.Settled id) : db'.TaskSound task := by
  cases task with
  | readPaidPromo payment => exact waiting _ sound rfl
  | readUser payment promo => exact waiting _ sound rfl
  | countUsages payment promo sub user => exact waiting _ sound rfl
  | commitPaid payment promo sub split => exact ⟨waiting _ sound.1 rfl, sound.2⟩
  | commitRefund payment reason locked => exact settled _ sound
  | readPromo checkout => trivial
  | countPromo checkout promo => trivial
  | readPrice checkout promo => trivial
  | insertPayment checkout promo pricing code => trivial
  | lockPayment invoice status => trivial
  | readRefund id reason => trivial
  | reverseUsage id reason => trivial
  | payout op => exact sound

/-- A payment none of whose records has changed. -/
theorem PaymentSound.congr (sound : db.PaymentSound paymentId)
    (status : db'.statusOf paymentId = db.statusOf paymentId)
    (extended : db'.history.extended.count paymentId = db.history.extended.count paymentId)
    (promo : db'.promoCount paymentId = db.promoCount paymentId)
    (reversed : db.ledger.CommissionReversed paymentId → db'.ledger.CommissionReversed paymentId)
    (refunds : ∀ found, (paymentId, found) ∈ db'.history.refunds →
      (paymentId, found) ∈ db.history.refunds ∨
        (found = .paid ∨ found = .refunded → db.statusOf paymentId = some .refunded)) :
    db'.PaymentSound paymentId := by
  refine ⟨?_, ?_, fun idle => ?_, fun refunded => ?_, fun found member final => ?_⟩
  · rw [extended]
    exact sound.extended
  · rw [promo]
    exact sound.promo
  · rw [extended, promo]
    exact sound.idle fun settled => idle (settled.congr status)
  · exact reversed (sound.reversed (status ▸ refunded))
  · rw [status]
    rcases refunds found member with before | now
    · exact sound.refunds found before final
    · exact now final

/-! ## The writes -/

theorem promoCount_countPromo_le (db : BillingDb) (promo : PromoCode) (payment : PaymentRow)
    (paymentId : Nat) :
    (db.countPromo promo payment).promoCount paymentId ≤ db.promoCount paymentId + 1 :=
  Table.countP_insert_le _ _ _

theorem promoCount_countPromo_of_ne (db : BillingDb) (promo : PromoCode) {payment : PaymentRow}
    (other : paymentId ≠ payment.id) :
    (db.countPromo promo payment).promoCount paymentId = db.promoCount paymentId := by
  refine Table.countP_insert_of_not _ ?_
  simpa using other.symm

/-- What an admitted activation writes. -/
theorem activate_spec {payment : PaymentRow} (promo : Option PromoCode) (sub : Subscription)
    {split : SplitRows} (now : Time) (admitted : db.admitsSplit payment.id split = true) :
    let db' := db.activate payment promo sub split now
    (∀ other, db'.statusOf other =
      if other = payment.id then (db.statusOf other).map fun _ => .paid else db.statusOf other) ∧
      db'.history.extended = payment.id :: db.history.extended ∧
      db'.history.refunds = db.history.refunds ∧
      (db'.promoCount payment.id ≤ db.promoCount payment.id + 1) ∧
      (∀ other, other ≠ payment.id → db'.promoCount other = db.promoCount other) ∧
      db'.ledger = insertSplit db.ledger split := by
  intro db'
  have written : db' = db.activate payment promo sub split now := rfl
  unfold activate at written
  rw [if_pos admitted] at written
  dsimp only at written
  have statuses : ∀ other, db'.statusOf other =
      if other = payment.id then (db.statusOf other).map fun _ => .paid
      else db.statusOf other := by
    intro other
    have updated := statusOf_update db payment.id
      (fun p => { p with
        status := .paid, paidAt := payment.paidAt,
        activatedUntil := some (activatedUntil sub
          (payment.billingPeriodId.bind db.periods.get?) promo now) }) (fun _ => rfl) other
    simp only [statusOf, Option.map_map, Function.comp_def] at updated ⊢
    rw [written]
    cases promo with
    | none => exact updated
    | some promo => exact updated
  cases promo with
  | none =>
      refine ⟨statuses, ?_, ?_, ?_, fun other _ => ?_, ?_⟩
      · rw [written]
        rfl
      · rw [written]
        rfl
      · rw [written]
        exact Nat.le_succ _
      · rw [written]
        rfl
      · rw [written]
        rfl
  | some promo =>
      refine ⟨statuses, ?_, ?_, ?_, fun other different => ?_, ?_⟩
      · rw [written]
        rfl
      · rw [written]
        rfl
      · rw [written]
        exact promoCount_countPromo_le db promo payment payment.id
      · rw [written]
        exact promoCount_countPromo_of_ne db promo different
      · rw [written]
        rfl

theorem insertSplit_credited {split : SplitRows} (credited : db.ledger.Credited)
    (credits : ∀ rows ∈ split, Ledger.CreditsPayment rows.1 rows.2 paymentId)
    (admitted : db.admitsSplit paymentId split = true) :
    (insertSplit db.ledger split).Credited ∧
      ∀ other, other ≠ paymentId → db.ledger.CommissionReversed other →
        (insertSplit db.ledger split).CommissionReversed other := by
  cases split with
  | none => exact ⟨credited, fun _ _ reversed => reversed⟩
  | some rows =>
      obtain ⟨usage, earning⟩ := rows
      have row := credits _ rfl
      have adds := Ledger.adds_credit row credited admitted
      refine ⟨adds.credited credited, fun other different reversed => adds.reversed ?_ reversed⟩
      intro (same : (earning db.ledger.earningSeq).paymentId = some other)
      rw [row.earningPayment] at same
      exact different (Option.some.inj same).symm

/-- What a refund writes. -/
theorem refund_spec (db : BillingDb) (payment : PaymentRow) (reason : Option String)
    (minPayout : ℚ) (now : Time) :
    let db' := db.refund payment reason minPayout now
    (∀ other, db'.statusOf other =
      if other = payment.id then (db.statusOf other).map fun _ => .refunded
      else db.statusOf other) ∧
      db'.history.extended = db.history.extended ∧
      db'.history.refunds = (payment.id, .paid) :: db.history.refunds ∧
      (∀ other, db'.promoCount other = db.promoCount other) ∧
      db'.ledger = (db.ledger.reverseCommission payment.id reason minPayout now).2 := by
  refine ⟨fun other => ?_, rfl, rfl, fun _ => rfl, rfl⟩
  have updated := statusOf_update db payment.id
    (fun p => { p with
      status := .refunded, refundedAt := some now,
      refundedReason := some (reversalReason reason) }) (fun _ => rfl) other
  simp only [statusOf, Option.map_map, Function.comp_def] at updated ⊢
  exact updated

theorem statusOf_refund {payment : PaymentRow} (settled : db.Settled payment.id)
    (reason : Option String) (minPayout : ℚ) (now : Time) :
    (db.refund payment reason minPayout now).statusOf payment.id = some .refunded := by
  obtain ⟨old, known⟩ := Option.isSome_iff_exists.mp settled.known
  obtain ⟨status, -⟩ := refund_spec db payment reason minPayout now
  rw [status, if_pos rfl, known]
  rfl

/-! ## One statement -/

/-- What has happened to a refunded payment. -/
def Final (paymentId extended : Nat) (db : BillingDb) : Prop :=
  db.statusOf paymentId = some .refunded ∧ db.history.extended.count paymentId = extended

/-- The invariants after a statement, and what it leaves of refunded payments. -/
structure Advanced (db db' : BillingDb) (others : List BillingTask) (rest : Option BillingTask) :
    Prop where
  sound : db'.Sound
  elsewhere : ∀ t ∈ others, db'.TaskSound t
  remains : ∀ task', rest = some task' →
    db'.TaskSound task' ∧ ∀ t ∈ others, Apart task' t ∧ Apart t task'
  final : ∀ paymentId extended, Final paymentId extended db → Final paymentId extended db'

variable {others : List BillingTask} {input : BillingInput} {task : BillingTask}
  {rest : Option BillingTask}

/-- A statement that only reads. -/
theorem advanced_of_read (sound : db.Sound) (holds : ∀ t ∈ others, db.TaskSound t)
    (remains : ∀ task', rest = some task' →
      db.TaskSound task' ∧ ∀ t ∈ others, Apart task' t ∧ Apart t task') :
    Advanced db db others rest :=
  ⟨sound, holds, remains, fun _ _ final => final⟩

/-- A write that leaves statuses, history and promo usages alone. -/
theorem advanced_of_ledger (sound : db.Sound) (holds : ∀ t ∈ others, db.TaskSound t)
    {ledger : Ledger} (same : db.ledger.SameCredits ledger) :
    Advanced db { db with ledger } others none where
  sound := by
    refine ⟨same.credited sound.credited, fun paymentId => ?_⟩
    exact (sound.payments paymentId).congr rfl rfl rfl same.reversed_iff.mpr
      fun _ member => Or.inl member
  elsewhere t member := (holds t member).mono (fun _ waiting _ => waiting) fun _ settled => settled
  remains := by
    intro task' none
    cases none
  final _ _ final := final

theorem insertPayment_advanced (sound : db.Sound) (holds : ∀ t ∈ others, db.TaskSound t)
    (checkout : Checkout) (promo : Option PromoCode) (pricing : Pricing) (code : Option Nat)
    (invoice : Option String) :
    Advanced db (db.insertPayment checkout promo pricing code invoice) others none := by
  obtain ⟨kept, fresh⟩ := statusOf_insertPayment db checkout promo pricing code invoice
  have frame : (db.insertPayment checkout promo pricing code invoice).ledger = db.ledger ∧
      (db.insertPayment checkout promo pricing code invoice).promoUsages = db.promoUsages ∧
      (db.insertPayment checkout promo pricing code invoice).history.extended =
        db.history.extended ∧
      (db.insertPayment checkout promo pricing code invoice).history.refunds =
        db.history.refunds := by
    unfold insertPayment
    split
    · exact ⟨rfl, rfl, rfl, rfl⟩
    · exact ⟨rfl, rfl, rfl, rfl⟩
  obtain ⟨ledger, usages, extended, refunds⟩ := frame
  have promos : ∀ paymentId, (db.insertPayment checkout promo pricing code invoice).promoCount
      paymentId = db.promoCount paymentId := fun _ => by
    unfold promoCount
    rw [usages]
  refine ⟨⟨?_, fun paymentId => ?_⟩, fun t member => ?_, ?_, fun paymentId n final => ?_⟩
  · rw [ledger]
    exact sound.credited
  · have here := sound.payments paymentId
    cases known : db.statusOf paymentId with
    | some status =>
        refine here.congr (kept paymentId (by simp [known])) (by rw [extended]) (promos _) ?_ ?_
        · rw [ledger]
          exact id
        · rw [refunds]
          exact fun _ member => Or.inl member
    | none =>
        have idle := here.idle fun settled => by
          have isKnown := settled.known
          rw [known] at isKnown
          cases isKnown
        have unrefunded : (db.insertPayment checkout promo pricing code invoice).statusOf paymentId
            ≠ some .refunded := by
          rcases fresh paymentId known with absent | pending
          · simp [absent]
          · simp [pending]
        refine ⟨?_, ?_, fun _ => ?_, fun refunded => absurd refunded unrefunded,
          fun found member final => ?_⟩
        · rw [extended]
          exact here.extended
        · rw [promos]
          exact here.promo
        · rw [extended, promos]
          exact idle
        · rw [refunds] at member
          have before := here.refunds found member final
          rw [known] at before
          cases before
  · exact (holds t member).mono (fun id waiting _ => waiting.congr (kept id waiting.known))
      fun id settled => settled.congr (kept id settled.known)
  · intro task' none
    cases none
  · exact ⟨(kept paymentId (by simp [final.1])).trans final.1, by rw [extended]; exact final.2⟩

theorem close_advanced (sound : db.Sound) (holds : ∀ t ∈ others, db.TaskSound t)
    {payment : PaymentRow} {closing : PaymentStatus}
    (stored : db.payments.get? payment.id = some payment) (pending : payment.status = .pending)
    (unpaid : closing = .failed ∨ closing = .expired) :
    Advanced db (db.close payment.id closing) others none := by
  have status : ∀ other, (db.close payment.id closing).statusOf other =
      if other = payment.id then some closing else db.statusOf other := by
    intro other
    refine (statusOf_update db payment.id _ _ other).trans ?_
    by_cases same : other = payment.id
    · simp [same, stored]
    · simp [same]
  have was : db.statusOf payment.id = some .pending := by
    rw [statusOf_of_stored stored, pending]
  have notFinal : some closing ≠ some PaymentStatus.paid ∧
      some closing ≠ some PaymentStatus.refunded := by
    rcases unpaid with rfl | rfl
    · simp
    · simp
  refine ⟨⟨sound.credited, fun paymentId => ?_⟩, fun t member => ?_, ?_,
    fun paymentId n final => ?_⟩
  · have here := sound.payments paymentId
    by_cases same : paymentId = payment.id
    · subst same
      have open_ := here.idle (by rintro (paid | refunded) <;> simp_all)
      refine ⟨here.extended, here.promo, fun _ => open_, fun refunded => ?_,
        fun found member final => ?_⟩
      · rw [status, if_pos rfl] at refunded
        exact absurd refunded notFinal.2
      · have before := here.refunds found member final
        rw [was] at before
        cases before
    · exact here.congr ((status paymentId).trans (if_neg same)) rfl rfl id
        fun _ member => Or.inl member
  · refine (holds t member).mono (fun id waiting _ => ?_) fun id settled => ?_
    · by_cases same : id = payment.id
      · refine ⟨closing, (status id).trans (if_pos same), ?_, ?_⟩
        · exact fun paid => notFinal.1 (congrArg some paid)
        · exact fun refunded => notFinal.2 (congrArg some refunded)
      · exact waiting.congr ((status id).trans (if_neg same))
    · have other : id ≠ payment.id := by
        intro same
        subst same
        rcases settled with paid | refunded
        · rw [was] at paid
          cases paid
        · rw [was] at refunded
          cases refunded
      exact settled.congr ((status id).trans (if_neg other))
  · intro task' none
    cases none
  · have other : paymentId ≠ payment.id := by
      intro same
      subst same
      have refunded := final.1
      rw [was] at refunded
      cases refunded
    exact ⟨((status paymentId).trans (if_neg other)).trans final.1, final.2⟩

theorem recordRefund_advanced (sound : db.Sound) (holds : ∀ t ∈ others, db.TaskSound t)
    {payment : PaymentRow} (stored : db.payments.get? payment.id = some payment)
    (unpaid : payment.status ≠ .paid) :
    Advanced db (db.recordRefund payment.id payment.status) others none := by
  refine ⟨⟨sound.credited, fun paymentId => ?_⟩, fun t member => ?_, ?_, fun _ _ final => final⟩
  · refine (sound.payments paymentId).congr rfl rfl rfl id fun found member => ?_
    rcases List.mem_cons.mp member with new | before
    · right
      obtain ⟨rfl, rfl⟩ := Prod.mk.inj new
      intro final
      rw [statusOf_of_stored stored]
      exact congrArg some (final.resolve_left unpaid)
    · exact Or.inl before
  · exact (holds t member).mono (fun _ waiting _ => waiting) fun _ settled => settled
  · intro task' none
    cases none

theorem activate_advanced (sound : db.Sound) {payment : PaymentRow} {promo : Option PromoCode}
    {sub : Subscription} {split : SplitRows} {now : Time}
    (own : db.TaskSound (.commitPaid payment promo sub split))
    (holds : ∀ t ∈ others, db.TaskSound t ∧ Apart (.commitPaid payment promo sub split) t) :
    Advanced db (db.activate payment promo sub split now) others none := by
  obtain ⟨waiting, credits⟩ := own
  by_cases admitted : db.admitsSplit payment.id split = true
  · obtain ⟨status, extended, refunds, promoOwn, promoOther, ledger⟩ :=
      activate_spec promo sub now admitted
    have inserted := insertSplit_credited sound.credited credits admitted
    have here := (sound.payments payment.id)
    have idle := here.idle waiting.not_settled
    have nowPaid : (db.activate payment promo sub split now).statusOf payment.id = some .paid := by
      obtain ⟨old, known, -⟩ := waiting
      rw [status, if_pos rfl, known]
      rfl
    refine ⟨⟨ledger ▸ inserted.1, fun paymentId => ?_⟩, fun t member => ?_, ?_,
      fun paymentId n final => ?_⟩
    · by_cases same : paymentId = payment.id
      · subst same
        refine ⟨?_, ?_, fun unsettled => absurd (Or.inl nowPaid) unsettled, fun refunded => ?_,
          fun found member final => ?_⟩
        · rw [extended, List.count_cons_self, idle.1]
        · have grown := promoOwn
          rw [idle.2] at grown
          exact grown
        · rw [nowPaid] at refunded
          cases refunded
        · rw [refunds] at member
          have settled := here.refunds found member final
          exact absurd (Or.inr settled) waiting.not_settled
      · refine (sound.payments paymentId).congr ((status paymentId).trans (if_neg same)) ?_
          (promoOther paymentId same) ?_ ?_
        · rw [extended, List.count_cons_of_ne (Ne.symm same)]
        · rw [ledger]
          exact inserted.2 paymentId same
        · rw [refunds]
          exact fun _ before => Or.inl before
    · obtain ⟨facts, apart⟩ := holds t member
      refine facts.mono (fun id waits locks => ?_) fun id settled => ?_
      · have other : id ≠ payment.id := fun same => apart payment.id rfl (same ▸ locks)
        exact waits.congr ((status id).trans (if_neg other))
      · have other : id ≠ payment.id := fun same => waiting.not_settled (same ▸ settled)
        exact settled.congr ((status id).trans (if_neg other))
    · intro task' none
      cases none
    · have other : paymentId ≠ payment.id := fun same =>
        waiting.not_settled (same ▸ Or.inr final.1)
      refine ⟨((status paymentId).trans (if_neg other)).trans final.1, ?_⟩
      rw [extended, List.count_cons_of_ne (Ne.symm other)]
      exact final.2
  · have failed : db.activate payment promo sub split now = db := by
      unfold activate
      rw [if_neg admitted]
    rw [failed]
    exact advanced_of_read sound (fun t member => (holds t member).1) fun task' none => by
      cases none

theorem refund_advanced (sound : db.Sound) (holds : ∀ t ∈ others, db.TaskSound t)
    {payment : PaymentRow} (settled : db.Settled payment.id) (reason : Option String)
    (minPayout : ℚ) (now : Time) :
    Advanced db (db.refund payment reason minPayout now) others
      (some (.reverseUsage payment.id reason)) := by
  obtain ⟨status, extended, refunds, promos, ledger⟩ := refund_spec db payment reason minPayout now
  obtain ⟨credited, reversed, kept, -, -⟩ :=
    Ledger.reverseCommission_spec sound.credited payment.id reason minPayout now
  have nowRefunded := statusOf_refund settled reason minPayout now
  refine ⟨⟨ledger ▸ credited, fun paymentId => ?_⟩, fun t member => ?_, ?_,
    fun paymentId n final => ?_⟩
  · have here := sound.payments paymentId
    by_cases same : paymentId = payment.id
    · subst same
      refine ⟨extended ▸ here.extended, (promos _).trans_le here.promo,
        fun unsettled => absurd (Or.inr nowRefunded) unsettled, fun _ => ledger ▸ reversed,
        fun _ _ _ => nowRefunded⟩
    · refine here.congr ((status paymentId).trans (if_neg same)) (by rw [extended]) (promos _) ?_ ?_
      · rw [ledger]
        exact kept paymentId
      · rw [refunds]
        intro found member
        rcases List.mem_cons.mp member with new | before
        · exact absurd (Prod.mk.inj new).1 same
        · exact Or.inl before
  · refine (holds t member).mono (fun id waiting _ => ?_) fun id still => ?_
    · have other : id ≠ payment.id := fun same => waiting.not_settled (same ▸ settled)
      exact waiting.congr ((status id).trans (if_neg other))
    · by_cases same : id = payment.id
      · exact Or.inr (same ▸ nowRefunded)
      · exact still.congr ((status id).trans (if_neg same))
  · intro task' same
    cases same
    exact ⟨trivial, apart_of_unlocking rfl others⟩
  · refine ⟨?_, by rw [extended]; exact final.2⟩
    by_cases same : paymentId = payment.id
    · rw [same]
      exact nowRefunded
    · exact ((status paymentId).trans (if_neg same)).trans final.1

/-- The step lemma: a statement keeps the invariants, and refunded payments as they are. -/
theorem Effect.advanced (effect : Effect db others input task db' rest) (sound : db.Sound)
    (own : db.TaskSound task)
    (holds : ∀ t ∈ others, db.TaskSound t ∧ Apart task t ∧ Apart t task) :
    Advanced db db' others rest := by
  have facts : ∀ t ∈ others, db.TaskSound t := fun t member => (holds t member).1
  have apart : ∀ t ∈ others, Apart task t ∧ Apart t task := fun t member => (holds t member).2
  -- a read that goes on without a lock, or with the one it has
  have reads : ∀ {task' : BillingTask}, db.TaskSound task' →
      (task'.locks = none ∨ task'.locks = task.locks) →
      Advanced db db others (some task') := by
    intro task' sound' locks
    refine advanced_of_read sound facts fun t same => ?_
    cases same
    exact ⟨sound', apart_of_locks apart locks⟩
  have gained : ∀ {task' : BillingTask} {paymentId : Nat}, db.TaskSound task' →
      task'.locks = some paymentId → isLocked others paymentId = false →
      Advanced db db others (some task') := by
    intro task' paymentId sound' locks unlocked
    refine advanced_of_read sound facts fun t same => ?_
    cases same
    exact ⟨sound', apart_of_unlocked unlocked locks⟩
  cases effect with
  | stop task =>
      refine advanced_of_read sound facts fun task' none => ?_
      cases none
  | noPromo checkout => exact reads trivial (Or.inl rfl)
  | foundPromo checkout promo => exact reads trivial (Or.inl rfl)
  | mayUse checkout promo => exact reads trivial (Or.inl rfl)
  | priced checkout promo pricing => exact reads trivial (Or.inl rfl)
  | inserted checkout promo pricing code =>
      exact insertPayment_advanced sound facts checkout promo pricing code input.invoice
  | @opened _ _ payment stored unlocked waiting =>
      have waits : db.Waiting payment.id := ⟨payment.status, statusOf_of_stored stored,
        fun paid => waiting (Or.inl paid), fun refunded => waiting (Or.inr refunded)⟩
      exact gained waits rfl unlocked
  | closed stored pending unpaid => exact close_advanced sound facts stored pending unpaid
  | refunding reason stored unlocked paid =>
      refine gained ?_ rfl unlocked
      exact Or.inl ((statusOf_of_stored stored).trans (congrArg some paid))
  | ignored stored unpaid => exact recordRefund_advanced sound facts stored unpaid
  | paidPromo payment => exact reads own (Or.inr rfl)
  | user stored => exact reads own (Or.inr rfl)
  | counted payment promo sub user =>
      refine reads ⟨own, fun rows member => ?_⟩ (Or.inr rfl)
      exact Ledger.creditsPayment_of_splitRows (Option.mem_def.mp member)
  | activated payment promo sub split =>
      exact activate_advanced sound own fun t member =>
        ⟨(holds t member).1, (holds t member).2.1⟩
  | adminRefund reason stored paid =>
      exact reads (Or.inl ((statusOf_of_stored stored).trans (congrArg some paid))) (Or.inl rfl)
  | refunded payment reason locked unlocked =>
      exact refund_advanced sound facts own reason input.minPayout input.now
  | usageReversed paymentId reason => exact advanced_of_ledger sound facts ⟨rfl, rfl, rfl⟩
  | payout done =>
      exact advanced_of_ledger sound facts (Ledger.sameCredits_step own done).1

theorem sound_of_fresh (fresh : db.Fresh) : db.Sound := by
  refine ⟨Ledger.credited_of_empty fresh.noEarnings, fun paymentId => ?_⟩
  have absent : db.statusOf paymentId = none := by
    simp [statusOf, Table.get?, fresh.noPayments]
  have uncounted : db.promoCount paymentId = 0 := by
    simp [promoCount, fresh.noPromoUsages]
  refine ⟨?_, ?_, fun _ => ⟨?_, uncounted⟩, fun refunded => ?_, fun found member => ?_⟩
  · simp [fresh.noHistory]
  · omega
  · simp [fresh.noHistory]
  · rw [absent] at refunded
    cases refunded
  · rw [fresh.noHistory] at member
    cases member

theorem starts (I : BillingDb → Prop) : Program.Starts billing I TaskSound Apart := by
  intro store request task others _ _ started
  rcases start_cases started with ⟨checkout, rfl⟩ | ⟨invoice, status, rfl⟩ |
    ⟨paymentId, reason, rfl⟩ | ⟨op, onPayouts, rfl⟩
  · exact ⟨trivial, apart_of_unlocking rfl others⟩
  · exact ⟨trivial, apart_of_unlocking rfl others⟩
  · exact ⟨trivial, apart_of_unlocking rfl others⟩
  · exact ⟨onPayouts, apart_of_unlocking rfl others⟩

theorem keeps : Program.Keeps billing (fun _ _ _ _ => True) Sound TaskSound Apart := by
  intro store others input task store' rest _ sound own holds done
  have advanced := (effect_of_next done).advanced sound own holds
  exact ⟨advanced.sound, advanced.elsewhere, advanced.remains⟩

/-- Refunded payments stay as they are. -/
theorem keeps_final (paymentId extended : Nat) :
    Program.Keeps billing (fun _ _ _ _ => True) (fun db => db.Sound ∧ Final paymentId extended db)
      TaskSound Apart := by
  intro store others input task store' rest _ both own holds done
  have advanced := (effect_of_next done).advanced both.1 own holds
  exact ⟨⟨advanced.sound, advanced.final _ _ both.2⟩, advanced.elsewhere, advanced.remains⟩

end BillingDb

open BillingDb

/-- Deliveries converge when the refunds found the payment paid or refunded. -/
theorem webhookConverges_of_paid :
    WebhookConverges fun found => found = .paid ∨ found = .refunded := by
  intro s reached paymentId
  rcases reached with ⟨db, fresh, run⟩
  have reached := Program.run_satisfies (starts _) keeps run
    (Pool.satisfies_start (sound_of_fresh fresh))
  have here := reached.store.payments paymentId
  refine ⟨⟨here.extended, here.promo, ?_⟩, fun found delivered known => ?_⟩
  · have once := reached.store.credited.once paymentId
    refine Nat.le_trans (List.countP_mono_left fun e _ counted => ?_) once
    simp only [Bool.and_eq_true] at counted
    exact counted.1
  · have refunded := here.refunds found delivered known
    refine ⟨refunded, here.reversed refunded, fun s' later => ?_⟩
    have final : Pool.Satisfies
        (fun db => db.Sound ∧ Final paymentId (s.store.history.extended.count paymentId) db)
        TaskSound Apart s := ⟨⟨reached.store, refunded, rfl⟩, reached.tasks, reached.pairs⟩
    exact (Program.run_satisfies (starts _) (keeps_final _ _) later final).store.2

/-! ## A refund before the payment -/

/-- One user, one plan, one period. -/
def oneUser : BillingDb where
  ledger := { users := Table.empty.insert { id := 1 } }
  subscriptions := Table.empty.insert { id := 1 }
  plans := Table.empty.insert { id := 1, slug := "pro", priceUsdMonthly := 100 }
  periods := Table.empty.insert { id := 1, months := 1 }

theorem oneUser_fresh : oneUser.Fresh := by
  refine ⟨rfl, rfl, rfl, rfl, rfl, ?_, ?_, rfl⟩
  · intro promo member
    cases member
  · intro user member code signed
    have only : user = { id := 1 } := List.mem_singleton.mp member
    rw [only] at signed
    cases signed

/-- A checkout, a refund that comes too early, and the payment. -/
def refundFirst : List (Event BillingRequest BillingInput) :=
  [.begin_ 0 (.checkout ⟨1, 1, 1, none⟩), .advance 0 {}, .advance 0 {},
    .advance 0 { invoice := some "inv" }, .begin_ 1 (.webhook "inv" "refunded"), .advance 1 {},
    .begin_ 2 (.webhook "inv" "paid"), .advance 2 {}, .advance 2 {}, .advance 2 {}, .advance 2 {},
    .advance 2 {}]

/-- The refund is ignored and the payment is activated afterwards. -/
theorem webhookConverges_broken_by_early_refund :
    ¬WebhookConverges (fun _ => True) ∧
      (exec billing.step { store := oneUser } refundFirst).map
        (fun s => (s.store.history.refunds, s.store.statusOf 0, s.store.history.extended)) =
      some ([(0, .pending)], some .paid, [0]) := by
  have result : (exec billing.step { store := oneUser } refundFirst).map
      (fun s => (s.store.history.refunds, s.store.statusOf 0, s.store.history.extended)) =
      some ([(0, .pending)], some .paid, [0]) := by decide +kernel
  refine ⟨fun converges => ?_, result⟩
  obtain ⟨s, ran, state⟩ := Option.map_eq_some_iff.mp result
  obtain ⟨refunds, rest⟩ := Prod.mk.inj state
  have reached : BillingReached (fun _ _ _ _ => True) s :=
    ⟨oneUser, oneUser_fresh, Program.run_of_exec ran⟩
  have refunded := ((converges s reached 0).2 .pending (by simp [refunds]) trivial).1
  rw [(Prod.mk.inj rest).1] at refunded
  cases refunded

end Avalant
