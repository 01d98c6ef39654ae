import Avalant.Billing.Charges
import Avalant.Billing.Convergence

/-!
The caps of a promo code hold as long as nothing is counted between the checks of a checkout and
the count of its webhook.

A checkout checks the caps and a webhook counts, with any number of open
invoices in between. The webhook reads the counter without a lock and writes
what it has read plus one, so two of them may count once.
-/

namespace Avalant

open Relational Transition

/-- The counter is the number of usages and within the caps, and so is each user's share. -/
structure BillingDb.PromoCaps (db : BillingDb) : Prop where
  total : ∀ promo ∈ db.promos.rows, ∀ maxUses ∈ promo.maxUses, (promo.usedCount : ℤ) ≤ maxUses
  counter : ∀ promo ∈ db.promos.rows, promo.usedCount = db.promoUses promo.id
  perUser : ∀ promo ∈ db.promos.rows, ∀ cap ∈ promo.perUserMaxUses, cap ≠ 0 →
    ∀ userId, db.promoUsesBy promo.id userId ≤ cap

/-- In every reachable state the promo caps hold. -/
def PromoCapsKept
    (ok : BillingDb → List BillingTask → BillingInput → BillingTask → Prop) : Prop :=
  ∀ s, BillingReached ok s → s.store.PromoCaps

namespace BillingDb

/-- The usages of a promo code, in the order they were counted. -/
def usagesOf (db : BillingDb) (promoId : Nat) : List PromoCodeUsage :=
  db.promoUsages.rows.filter fun u => u.promoCodeId == promoId

/-- The usages counted since the counter was read. -/
def usagesSince (db : BillingDb) (promoId read : Nat) : List PromoCodeUsage :=
  (db.usagesOf promoId).drop read

/-- When a webhook counts a promo code, no usage was counted since it read the row. And since the
checkout of the payment read it, none was if the uses are capped, and none of the user if the uses
of each user are. -/
def CountUnmoved (db : BillingDb) (_ : List BillingTask) (_ : BillingInput) : BillingTask → Prop
  | .commitPaid payment (some promo) _ _ =>
      db.usagesSince promo.id promo.usedCount = [] ∧
        ∀ entry ∈ db.history.validated, entry.1 = payment.id →
          (promo.maxUses.isSome = true → db.usagesSince promo.id entry.2 = []) ∧
            ∀ cap ∈ promo.perUserMaxUses, cap ≠ 0 →
              ∀ u ∈ db.usagesSince promo.id entry.2, u.userId ≠ payment.userId
  | _ => True

instance (db : BillingDb) (others : List BillingTask) (input : BillingInput) :
    (task : BillingTask) → Decidable (db.CountUnmoved others input task)
  | .commitPaid _ (some _) _ _ => inferInstanceAs (Decidable (_ ∧ ∀ _ ∈ _, _ = _ → _ ∧ _))
  | .commitPaid _ none _ _ | .readPromo _ | .countPromo _ _ | .readPrice _ _
  | .insertPayment _ _ _ _ | .lockPayment _ _ | .readPaidPromo _ | .readUser _ _
  | .countUsages _ _ _ _ | .readRefund _ _ | .commitRefund _ _ _ | .reverseUsage _ _
  | .payout _ => inferInstanceAs (Decidable True)

variable {db db' : BillingDb} {others : List BillingTask} {input : BillingInput}
  {task : BillingTask} {rest : Option BillingTask}

/-! ## A count -/

/-- The caps, and usages numbered below their sequence. -/
structure CountSound (db : BillingDb) : Prop where
  caps : db.PromoCaps
  below : ∀ u ∈ db.promoUsages.rows, u.id < db.promoUsageSeq

theorem CountSound.of_tables (sound : db.CountSound) (promos : db'.promos = db.promos)
    (usages : db'.promoUsages = db.promoUsages) (seq : db'.promoUsageSeq = db.promoUsageSeq) :
    db'.CountSound := by
  have uses : ∀ promoId, db'.promoUses promoId = db.promoUses promoId := fun _ => by
    unfold promoUses
    rw [usages]
  have usesBy : ∀ promoId userId, db'.promoUsesBy promoId userId =
      db.promoUsesBy promoId userId := fun _ _ => by
    unfold promoUsesBy
    rw [usages]
  refine ⟨⟨?_, ?_, ?_⟩, ?_⟩
  · rw [promos]
    exact sound.caps.total
  · rw [promos]
    intro promo member
    rw [uses]
    exact sound.caps.counter promo member
  · rw [promos]
    intro promo member cap own positive userId
    rw [usesBy]
    exact sound.caps.perUser promo member cap own positive userId
  · rw [usages, seq]
    exact sound.below

theorem promoUses_countPromo (sound : db.CountSound) (promo : PromoCode) (payment : PaymentRow)
    (promoId : Nat) :
    (db.countPromo promo payment).promoUses promoId =
      db.promoUses promoId + if promo.id = promoId then 1 else 0 := by
  have counted := Table.countP_insert (t := db.promoUsages)
    (r := { id := db.promoUsageSeq, promoCodeId := promo.id, userId := payment.userId,
            paymentId := payment.id, planId := payment.planId,
            discountPct := payment.discountPct }) (Table.get?_of_below sound.below)
    fun u => u.promoCodeId == promoId
  simp only [beq_iff_eq] at counted
  exact counted

theorem promoUsesBy_countPromo (sound : db.CountSound) (promo : PromoCode) (payment : PaymentRow)
    (promoId userId : Nat) :
    (db.countPromo promo payment).promoUsesBy promoId userId =
      db.promoUsesBy promoId userId +
        if promo.id = promoId ∧ payment.userId = userId then 1 else 0 := by
  have counted := Table.countP_insert (t := db.promoUsages)
    (r := { id := db.promoUsageSeq, promoCodeId := promo.id, userId := payment.userId,
            paymentId := payment.id, planId := payment.planId,
            discountPct := payment.discountPct }) (Table.get?_of_below sound.below)
    fun u => u.promoCodeId == promoId && u.userId == userId
  simp only [Bool.and_eq_true, beq_iff_eq] at counted
  exact counted

/-- A row after a usage is counted, and the row that it was. -/
theorem mem_promos_countPromo {promo row : PromoCode} {payment : PaymentRow}
    (member : row ∈ (db.countPromo promo payment).promos.rows) :
    ∃ old ∈ db.promos.rows, row.id = old.id ∧ row.maxUses = old.maxUses ∧
      row.perUserMaxUses = old.perUserMaxUses ∧
        row.usedCount = if old.id = promo.id then promo.usedCount + 1 else old.usedCount := by
  obtain ⟨old, stored, rfl⟩ := List.mem_map.mp member
  refine ⟨old, stored, ?_⟩
  split
  · exact ⟨rfl, rfl, rfl, rfl⟩
  · exact ⟨rfl, rfl, rfl, rfl⟩

/-- A usage is counted while the row has room. -/
theorem CountSound.countPromo (sound : db.CountSound) {promo : PromoCode} {payment : PaymentRow}
    (room : ∀ row ∈ db.promos.get? promo.id, row.usedCount = promo.usedCount ∧
      row.hasUses = true ∧ row.userMayUse (db.promoUsesBy promo.id payment.userId) = true) :
    (db.countPromo promo payment).CountSound := by
  have fresh : db.promoUsages.get? db.promoUsageSeq = none := Table.get?_of_below sound.below
  have roomy : ∀ old ∈ db.promos.rows, old.id = promo.id → old.usedCount = promo.usedCount ∧
      old.hasUses = true ∧ old.userMayUse (db.promoUsesBy promo.id payment.userId) = true := by
    intro old stored same
    exact room old (Table.get?_eq_some_iff.mpr ⟨stored, same⟩)
  refine ⟨⟨fun row member maxUses cap => ?_, fun row member => ?_,
    fun row member cap own positive userId => ?_⟩, fun u member => ?_⟩
  · obtain ⟨old, stored, -, maxes, -, counter⟩ := mem_promos_countPromo member
    rw [counter]
    rw [maxes] at cap
    split
    case isTrue same =>
      obtain ⟨read, left, -⟩ := roomy old stored same
      have maxed : old.maxUses = some maxUses := cap
      simp only [PromoCode.hasUses, maxed, decide_eq_true_eq] at left
      rw [read] at left
      push_cast
      omega
    case isFalse => exact sound.caps.total old stored maxUses cap
  · obtain ⟨old, stored, id, -, -, counter⟩ := mem_promos_countPromo member
    have before := sound.caps.counter old stored
    rw [counter, promoUses_countPromo sound, id]
    by_cases same : old.id = promo.id
    · rw [if_pos same, if_pos same.symm, ← (roomy old stored same).1, before]
    · rw [if_neg same, if_neg (Ne.symm same), before]
      rfl
  · obtain ⟨old, stored, id, -, perUser, -⟩ := mem_promos_countPromo member
    rw [perUser] at own
    have before := sound.caps.perUser old stored cap own positive userId
    rw [promoUsesBy_countPromo sound, id]
    split
    case isTrue same =>
      obtain ⟨sameId, sameUser⟩ := same
      obtain ⟨-, -, left⟩ := roomy old stored sameId.symm
      have capped : old.perUserMaxUses = some cap := own
      simp only [PromoCode.userMayUse, capped, Bool.or_eq_true, beq_iff_eq,
        decide_eq_true_eq] at left
      have below := left.resolve_left positive
      rw [sameId, sameUser] at below
      omega
    case isFalse => omega
  · have seq : (db.countPromo promo payment).promoUsageSeq = db.promoUsageSeq + 1 := rfl
    rw [seq]
    rcases (Table.mem_rows_insert (by simpa using fresh)).mp member with old | new
    · have below := sound.below u old
      omega
    · rw [new]
      exact Nat.lt_succ_self _

theorem CountSound.activate (sound : db.CountSound) {payment : PaymentRow}
    {promo : Option PromoCode} {sub : Subscription} {split : SplitRows} {now : Time}
    (room : ∀ code ∈ promo, ∀ row ∈ db.promos.get? code.id, row.usedCount = code.usedCount ∧
      row.hasUses = true ∧ row.userMayUse (db.promoUsesBy code.id payment.userId) = true) :
    (db.activate payment promo sub split now).CountSound := by
  unfold BillingDb.activate
  split
  · cases promo with
    | none => exact sound.of_tables rfl rfl rfl
    | some promo => exact (sound.countPromo (room promo rfl)).of_tables rfl rfl rfl
  · exact sound

/-- The step lemma for the counts: only an activation counts. -/
theorem Effect.countSound (effect : Effect db others input task db' rest) (sound : db.CountSound)
    (room : ∀ payment promo sub split, task = .commitPaid payment promo sub split →
      ∀ code ∈ promo, ∀ row ∈ db.promos.get? code.id, row.usedCount = code.usedCount ∧
        row.hasUses = true ∧ row.userMayUse (db.promoUsesBy code.id payment.userId) = true) :
    db'.CountSound := by
  cases effect with
  | activated payment promo sub split =>
      exact sound.activate (room payment promo sub split rfl)
  | inserted checkout promo pricing code =>
      unfold BillingDb.insertPayment
      split
      · exact sound.of_tables rfl rfl rfl
      · exact sound.of_tables rfl rfl rfl
  | closed stored pending unpaid => exact sound.of_tables rfl rfl rfl
  | ignored stored unpaid => exact sound.of_tables rfl rfl rfl
  | refunded payment reason locked unlocked => exact sound.of_tables rfl rfl rfl
  | usageReversed paymentId reason => exact sound.of_tables rfl rfl rfl
  | payout done => exact sound.of_tables rfl rfl rfl
  | stop task => exact sound
  | noPromo checkout => exact sound
  | foundPromo checkout promo => exact sound
  | mayUse checkout promo => exact sound
  | priced checkout promo pricing => exact sound
  | opened stored unlocked waiting => exact sound
  | refunding reason stored unlocked paid => exact sound
  | paidPromo payment => exact sound
  | user stored => exact sound
  | counted payment promo sub user => exact sound
  | adminRefund reason stored paid => exact sound

/-! ## What a checkout has checked -/

/-- The checks of a checkout passed when so many usages were counted. -/
structure Validated (db : BillingDb) (promoId userId read : Nat) : Prop where
  counted : read ≤ (db.usagesOf promoId).length
  total : ∀ terms ∈ db.termsOf promoId, ∀ maxUses ∈ terms.maxUses, (read : ℤ) < maxUses
  perUser : ∀ terms ∈ db.termsOf promoId, ∀ cap ∈ terms.perUserMaxUses, cap ≠ 0 →
    ((db.usagesOf promoId).take read).countP (fun u => u.userId == userId) < cap

/-- A promo code as it was read: its terms stay, and its counter is not ahead of the usages. -/
structure ReadCount (db : BillingDb) (promo : PromoCode) : Prop where
  terms : db.HasTerms promo
  counted : promo.usedCount ≤ (db.usagesOf promo.id).length

/-- The counts, and the checks behind every payment with a promo code. -/
structure PromoSound (db : BillingDb) : Prop extends db.CountSound where
  numbered : ∀ b ∈ db.bills, b.id < db.paymentSeq
  validated : ∀ b ∈ db.bills, ∀ promoId ∈ b.promoCodeId,
    ∃ read, (b.id, read) ∈ db.history.validated ∧ db.Validated promoId b.userId read

def PromoTask (db : BillingDb) : BillingTask → Prop
  | .countPromo _ promo => db.ReadCount promo ∧ promo.hasUses = true
  | .readPrice checkout promo | .insertPayment checkout promo _ _ => ∀ code ∈ promo,
      db.ReadCount code ∧ db.Validated code.id checkout.body.userId code.usedCount
  | .readPaidPromo payment => payment.bill ∈ db.bills
  | .readUser payment promo | .countUsages payment promo _ _ | .commitPaid payment promo _ _ =>
      payment.bill ∈ db.bills ∧
        ∀ code ∈ promo, payment.promoCodeId = some code.id ∧ db.ReadCount code
  | _ => True

/-- Terms stay, and usages and bills are only added. -/
structure Grown (db db' : BillingDb) : Prop where
  terms : ∀ promoId, db'.termsOf promoId = db.termsOf promoId
  usages : ∃ new, db'.promoUsages.rows = db.promoUsages.rows ++ new
  bills : ∀ b ∈ db.bills, b ∈ db'.bills

theorem Grown.usagesOf (grown : Grown db db') (promoId : Nat) :
    ∃ new, db'.usagesOf promoId = db.usagesOf promoId ++ new := by
  obtain ⟨new, rows⟩ := grown.usages
  refine ⟨new.filter fun u => u.promoCodeId == promoId, ?_⟩
  unfold BillingDb.usagesOf
  rw [rows, List.filter_append]

theorem Grown.validated (grown : Grown db db') {promoId userId read : Nat}
    (valid : db.Validated promoId userId read) : db'.Validated promoId userId read := by
  obtain ⟨new, usages⟩ := grown.usagesOf promoId
  refine ⟨?_, ?_, ?_⟩
  · rw [usages, List.length_append]
    exact Nat.le_add_right_of_le valid.counted
  · rw [grown.terms]
    exact valid.total
  · -- what was counted before the checks is still in front
    rw [grown.terms, usages, List.take_append_of_le_length valid.counted]
    exact valid.perUser

theorem Grown.readCount (grown : Grown db db') {promo : PromoCode} (read : db.ReadCount promo) :
    db'.ReadCount promo := by
  obtain ⟨new, usages⟩ := grown.usagesOf promo.id
  refine ⟨(grown.terms promo.id).trans read.terms, ?_⟩
  rw [usages, List.length_append]
  exact Nat.le_add_right_of_le read.counted

theorem PromoTask.later {t : BillingTask} (facts : db.PromoTask t) (grown : Grown db db') :
    db'.PromoTask t := by
  cases t with
  | countPromo checkout promo => exact ⟨grown.readCount facts.1, facts.2⟩
  | readPrice checkout promo =>
      exact fun code own => ⟨grown.readCount (facts code own).1, grown.validated (facts code own).2⟩
  | insertPayment checkout promo pricing code =>
      exact fun code own => ⟨grown.readCount (facts code own).1, grown.validated (facts code own).2⟩
  | readPaidPromo payment => exact grown.bills _ facts
  | readUser payment promo =>
      exact ⟨grown.bills _ facts.1, fun code own =>
        ⟨(facts.2 code own).1, grown.readCount (facts.2 code own).2⟩⟩
  | countUsages payment promo sub user =>
      exact ⟨grown.bills _ facts.1, fun code own =>
        ⟨(facts.2 code own).1, grown.readCount (facts.2 code own).2⟩⟩
  | commitPaid payment promo sub split =>
      exact ⟨grown.bills _ facts.1, fun code own =>
        ⟨(facts.2 code own).1, grown.readCount (facts.2 code own).2⟩⟩
  | _ => trivial

theorem usages_activate (db : BillingDb) (payment : PaymentRow) (promo : Option PromoCode)
    (sub : Subscription) (split : SplitRows) (now : Time) :
    ∃ new, (db.activate payment promo sub split now).promoUsages.rows =
      db.promoUsages.rows ++ new := by
  unfold activate
  split
  · cases promo with
    | none => exact ⟨[], (List.append_nil _).symm⟩
    | some promo => exact Table.rows_insert_append db.promoUsages _
  · exact ⟨[], (List.append_nil _).symm⟩

theorem Effect.usages (effect : Effect db others input task db' rest) :
    ∃ new, db'.promoUsages.rows = db.promoUsages.rows ++ new := by
  have same : ∃ new, db.promoUsages.rows = db.promoUsages.rows ++ new :=
    ⟨[], (List.append_nil _).symm⟩
  cases effect with
  | activated payment promo sub split => exact usages_activate db payment promo sub split input.now
  | inserted checkout promo pricing code =>
      unfold BillingDb.insertPayment
      split
      · exact same
      · exact same
  | _ => exact same

theorem Effect.grown (effect : Effect db others input task db' rest)
    (numbered : ∀ b ∈ db.bills, b.id < db.paymentSeq) : Grown db db' := by
  rcases effect.kept with ⟨checkout, promo, pricing, code, rfl, rfl⟩ | kept
  · obtain ⟨-, -, promos, -, -, -, written⟩ :=
      insertPayment_cases db checkout promo pricing code input.invoice numbered
    refine ⟨fun promoId => ?_, effect.usages, fun b member => ?_⟩
    · unfold termsOf
      rw [promos]
    · rcases written with ⟨bills, -⟩ | ⟨new, bills, -⟩
      · rw [bills]
        exact member
      · rw [bills]
        exact List.mem_append_left _ member
  · exact ⟨kept.terms, effect.usages, fun b member => kept.bills.symm ▸ member⟩

/-- The new payment of a checkout has passed the checks. -/
theorem PromoSound.insertPayment (sound : db.PromoSound) {checkout : Checkout}
    {promo : Option PromoCode} {pricing : Pricing} {code : Option Nat} {invoice : Option String}
    (facts : db.PromoTask (.insertPayment checkout promo pricing code))
    (grown : Grown db (db.insertPayment checkout promo pricing code invoice))
    (counts : (db.insertPayment checkout promo pricing code invoice).CountSound) :
    (db.insertPayment checkout promo pricing code invoice).PromoSound := by
  obtain ⟨-, -, -, -, -, seq, written⟩ :=
    insertPayment_cases db checkout promo pricing code invoice sound.numbered
  generalize db.insertPayment checkout promo pricing code invoice = db' at *
  refine ⟨counts, fun b member => ?_, fun b member promoId own => ?_⟩
  · rw [seq]
    rcases written with ⟨bills, -⟩ | ⟨new, bills, id, -⟩
    · rw [bills] at member
      exact Nat.lt_succ_of_lt (sound.numbered b member)
    · rw [bills] at member
      rcases List.mem_append.mp member with old | added
      · exact Nat.lt_succ_of_lt (sound.numbered b old)
      · rw [List.mem_singleton.mp added, id]
        exact Nat.lt_succ_self _
  · have former : b ∈ db.bills → db.history.validated ⊆ db'.history.validated →
        ∃ read, (b.id, read) ∈ db'.history.validated ∧ db'.Validated promoId b.userId read := by
      intro old kept
      obtain ⟨read, entry, valid⟩ := sound.validated b old promoId own
      exact ⟨read, kept entry, grown.validated valid⟩
    rcases written with ⟨bills, history⟩ | ⟨new, bills, id, user, -, -, -, code', -, entries⟩
    · rw [bills] at member
      refine former member ?_
      rw [history]
      exact List.Subset.refl _
    · rw [bills] at member
      rcases List.mem_append.mp member with old | added
      · refine former old ?_
        rw [entries]
        exact List.subset_append_right _ _
      · rw [List.mem_singleton.mp added] at own ⊢
        rw [code'] at own
        obtain ⟨chosen, picked, rfl⟩ := Option.map_eq_some_iff.mp own
        refine ⟨chosen.usedCount, ?_, ?_⟩
        · rw [entries, picked, id]
          exact List.mem_append_left _ (List.mem_singleton.mpr rfl)
        · rw [user]
          exact grown.validated (facts chosen picked).2

/-- From the checks of the checkout, while nothing was counted since. -/
theorem PromoSound.room (sound : db.PromoSound) {payment : PaymentRow} {promo : PromoCode}
    {sub : Subscription} {split : SplitRows}
    (facts : db.PromoTask (.commitPaid payment (some promo) sub split))
    (unmoved : db.CountUnmoved others input (.commitPaid payment (some promo) sub split)) :
    ∀ row ∈ db.promos.get? promo.id, row.usedCount = promo.usedCount ∧ row.hasUses = true ∧
      row.userMayUse (db.promoUsesBy promo.id payment.userId) = true := by
  intro row stored
  obtain ⟨billed, known⟩ := facts
  obtain ⟨chosen, read⟩ := known promo rfl
  obtain ⟨sinceWebhook, sinceCheckout⟩ := unmoved
  obtain ⟨seen, entry, valid⟩ := sound.validated _ billed promo.id chosen
  obtain ⟨capped, capped'⟩ := sinceCheckout _ entry rfl
  have terms : row.terms = promo.terms := by
    have same := read.terms
    unfold HasTerms termsOf at same
    rw [stored] at same
    exact Option.some.inj same
  have maxUses : row.terms.maxUses = promo.terms.maxUses := congrArg PromoCode.maxUses terms
  have perUser : row.terms.perUserMaxUses = promo.terms.perUserMaxUses :=
    congrArg PromoCode.perUserMaxUses terms
  have total : row.usedCount = (db.usagesOf promo.id).length := by
    rw [sound.caps.counter row (Table.mem_of_get? stored), show row.id = promo.id from
      Table.key_of_get? stored]
    exact List.countP_eq_length_filter
  have counter : row.usedCount = promo.usedCount := by
    have atMost := List.drop_eq_nil_iff.mp sinceWebhook
    have atLeast := read.counted
    omega
  refine ⟨counter, ?_, ?_⟩
  · unfold PromoCode.hasUses
    split
    · rfl
    case h_2 cap own =>
      have capOf : promo.maxUses = some cap := maxUses.symm.trans own
      have atMost := List.drop_eq_nil_iff.mp (capped (by rw [capOf]; rfl))
      have checked := valid.total _ read.terms cap capOf
      have below : (row.usedCount : ℤ) < cap := by omega
      exact decide_eq_true below
  · unfold PromoCode.userMayUse
    split
    · rfl
    case h_2 cap own =>
      have capOf : promo.perUserMaxUses = some cap := perUser.symm.trans own
      by_cases unlimited : cap = 0
      · simp [unlimited]
      have checked := valid.perUser _ read.terms cap capOf unlimited
      have others' := capped' cap capOf unlimited
      have used : db.promoUsesBy promo.id payment.userId =
          ((db.usagesOf promo.id).take seen).countP (fun u => u.userId == payment.userId) := by
        have none : ((db.usagesOf promo.id).drop seen).countP
            (fun u => u.userId == payment.userId) = 0 :=
          List.countP_eq_zero.mpr fun u member => by simpa using others' u member
        have split : (db.usagesOf promo.id).countP (fun u => u.userId == payment.userId) =
            ((db.usagesOf promo.id).take seen).countP (fun u => u.userId == payment.userId) := by
          conv_lhs => rw [← List.take_append_drop seen (db.usagesOf promo.id)]
          rw [List.countP_append, none, Nat.add_zero]
        rw [← split]
        unfold BillingDb.usagesOf promoUsesBy
        rw [List.countP_filter]
        exact List.countP_congr fun u _ => by simp [and_comm]
      have below : db.promoUsesBy promo.id payment.userId < cap := used ▸ checked
      simp [below]

/-- The promo row that a statement reads now. -/
theorem PromoSound.readCount (sound : db.PromoSound) {promo : PromoCode}
    (stored : db.promos.get? promo.id = some promo) : db.ReadCount promo := by
  refine ⟨?_, ?_⟩
  · unfold HasTerms termsOf
    rw [stored]
    rfl
  · rw [sound.caps.counter promo (Table.mem_of_get? stored)]
    exact Nat.le_of_eq List.countP_eq_length_filter

theorem PromoTask.mayUse {checkout : Checkout} {promo : PromoCode}
    (facts : db.PromoTask (.countPromo checkout promo))
    (room : promo.userMayUse (db.promoUsesBy promo.id checkout.body.userId) = true) :
    db.Validated promo.id checkout.body.userId promo.usedCount := by
  obtain ⟨read, uses⟩ := facts
  have known : ∀ terms ∈ db.termsOf promo.id, terms = promo.terms := fun terms own =>
    Option.some.inj (own.symm.trans read.terms)
  refine ⟨read.counted, fun terms own maxUses cap => ?_, fun terms own cap perUser positive => ?_⟩
  · have maxed : promo.maxUses = some maxUses := by
      rw [known terms own] at cap
      exact cap
    simpa [PromoCode.hasUses, maxed] using uses
  · have capped : promo.perUserMaxUses = some cap := by
      rw [known terms own] at perUser
      exact perUser
    have below : db.promoUsesBy promo.id checkout.body.userId < cap := by
      simpa [PromoCode.userMayUse, capped, positive] using room
    refine Nat.lt_of_le_of_lt ?_ below
    have part := ((db.usagesOf promo.id).take_sublist promo.usedCount).countP_le
      (p := fun u => u.userId == checkout.body.userId)
    refine Nat.le_trans part (Nat.le_of_eq ?_)
    unfold BillingDb.usagesOf promoUsesBy
    rw [List.countP_filter]
    exact List.countP_congr fun u _ => by simp [and_comm]

/-- The step lemma. -/
theorem Effect.promoSound (effect : Effect db others input task db' rest)
    (unmoved : db.CountUnmoved others input task) (sound : db.PromoSound)
    (facts : db.PromoTask task) :
    db'.PromoSound ∧ (∀ t, db.PromoTask t → db'.PromoTask t) ∧
      ∀ task', rest = some task' → db'.PromoTask task' := by
  have grown := effect.grown sound.numbered
  have counts : db'.CountSound := by
    refine effect.countSound sound.toCountSound fun payment promo sub split same => ?_
    subst same
    cases promo with
    | none => exact fun code none => by cases none
    | some promo =>
        intro code own
        cases own
        exact sound.room facts unmoved
  have after : db'.PromoSound := by
    rcases effect.kept with ⟨checkout, promo, pricing, code, rfl, rfl⟩ | kept
    · exact sound.insertPayment facts grown counts
    · refine ⟨counts, ?_, fun b member promoId own => ?_⟩
      · rw [kept.bills, kept.seq]
        exact sound.numbered
      · rw [kept.bills] at member
        obtain ⟨read, entry, valid⟩ := sound.validated b member promoId own
        exact ⟨read, kept.validated.symm ▸ entry, grown.validated valid⟩
  refine ⟨after, fun t known => known.later grown, fun task' remains => ?_⟩
  cases effect with
  | noPromo checkout =>
      cases remains
      exact fun code none => by cases none
  | foundPromo checkout promo stored uses =>
      cases remains
      exact ⟨sound.readCount stored, uses⟩
  | mayUse checkout promo room =>
      cases remains
      intro code own
      cases own
      exact ⟨facts.1, PromoTask.mayUse facts room⟩
  | priced checkout promo pricing given =>
      cases remains
      exact facts
  | opened stored unlocked waiting =>
      cases remains
      exact List.mem_map.mpr ⟨_, Table.mem_of_get? stored, rfl⟩
  | paidPromo payment =>
      cases remains
      refine ⟨facts, fun code own => ?_⟩
      obtain ⟨promoId, chosen, stored⟩ := Option.bind_eq_some_iff.mp own
      have id : code.id = promoId := Table.key_of_get? stored
      subst id
      exact ⟨chosen, sound.readCount stored⟩
  | user stored =>
      cases remains
      exact facts
  | counted payment promo sub user =>
      cases remains
      exact facts
  | refunding reason stored unlocked paid =>
      cases remains
      trivial
  | adminRefund reason stored paid =>
      cases remains
      trivial
  | refunded payment reason locked unlocked =>
      cases remains
      trivial
  | stop task => cases remains
  | inserted checkout promo pricing code => cases remains
  | closed stored pending unpaid => cases remains
  | ignored stored unpaid => cases remains
  | activated payment promo sub split => cases remains
  | usageReversed paymentId reason => cases remains
  | payout done => cases remains

theorem promoSound_of_fresh (fresh : db.Fresh) : db.PromoSound := by
  have uses : ∀ promoId, db.promoUses promoId = 0 := fun _ => by
    simp [promoUses, fresh.noPromoUsages]
  have usesBy : ∀ promoId userId, db.promoUsesBy promoId userId = 0 := fun _ _ => by
    simp [promoUsesBy, fresh.noPromoUsages]
  have unbilled : db.bills = [] := by simp [bills, fresh.noPayments]
  refine ⟨⟨⟨fun promo member maxUses cap => ?_, fun promo member => ?_,
    fun promo _ cap _ _ userId => ?_⟩, fun u member => ?_⟩, ?_, ?_⟩
  · obtain ⟨unused, nonneg⟩ := fresh.unused promo member
    rw [unused]
    exact nonneg maxUses cap
  · rw [uses, (fresh.unused promo member).1]
  · rw [usesBy]
    exact Nat.zero_le cap
  · rw [fresh.noPromoUsages] at member
    cases member
  · simp [unbilled]
  · simp [unbilled]

theorem promoTask_of_start {request : BillingRequest} (started : db.start request = some task) :
    db.PromoTask task := by
  rcases start_cases started with ⟨checkout, rfl⟩ | ⟨invoice, status, rfl⟩ |
    ⟨paymentId, reason, rfl⟩ | ⟨op, -, rfl⟩
  · trivial
  · trivial
  · trivial
  · trivial

end BillingDb

open BillingDb

/-- In every run that counts nothing between the checks of a promo code and its count, its caps
hold. -/
theorem promoCapsKept_of_unmoved
    {ok : BillingDb → List BillingTask → BillingInput → BillingTask → Prop}
    (within : ∀ db others input task,
      ok db others input task → db.CountUnmoved others input task) : PromoCapsKept ok := by
  intro s reached
  rcases reached with ⟨db, fresh, run⟩
  have starts : Program.Starts billing PromoSound PromoTask fun _ _ => True :=
    fun _ _ _ _ _ _ started => ⟨promoTask_of_start started, fun _ _ => ⟨trivial, trivial⟩⟩
  have keeps : Program.Keeps billing CountUnmoved PromoSound PromoTask fun _ _ => True := by
    intro store others input task store' rest unmoved sound facts holds done
    obtain ⟨after, later, remains⟩ := (effect_of_next done).promoSound unmoved sound facts
    exact ⟨after, fun t member => later t (holds t member).1, fun task' same =>
      ⟨remains task' same, fun _ _ => ⟨trivial, trivial⟩⟩⟩
  have quiet := run.mono (Program.guard_mono within)
  exact (Program.run_satisfies starts keeps quiet
    (Pool.satisfies_start (promoSound_of_fresh fresh))).store.caps

/-! ## Two open invoices -/

/-- A code that may be used once. -/
def early7 : PromoCode :=
  { id := 1, code := "EARLY7", discountPct := 10, maxUses := some 1, perUserMaxUses := some 1 }

/-- One user, and the code. -/
def onePromo : BillingDb :=
  { oneUser with promos := Table.empty.insert early7 }

theorem onePromo_fresh : onePromo.Fresh := by
  refine { oneUser_fresh with unused := fun promo member => ?_ }
  have only : promo = early7 := List.mem_singleton.mp member
  subst only
  refine ⟨rfl, fun maxUses cap => ?_⟩
  cases cap
  decide

/-- The user checks out with the code, in transaction `k`. -/
def promoCheckout (k : Nat) (invoice : String) : List (Event BillingRequest BillingInput) :=
  [.begin_ k (.checkout ⟨1, 1, 1, some "early7"⟩), .advance k {}, .advance k {}, .advance k {},
    .advance k { invoice := some invoice }]

/-- A paid webhook, from its lock to its commit. -/
def paidWebhook (k : Nat) (invoice : String) : List (Event BillingRequest BillingInput) :=
  [.begin_ k (.webhook invoice "paid"), .advance k {}, .advance k {}, .advance k {}, .advance k {},
    .advance k {}]

/-- One invoice is paid, and the next checkout is refused. -/
def oneAfterTheOther : List (Event BillingRequest BillingInput) :=
  promoCheckout 0 "a" ++ paidWebhook 0 "a" ++
    [.begin_ 1 (.checkout ⟨1, 1, 1, some "early7"⟩), .advance 1 {}]

/-- The code is used up and not used twice. -/
theorem promoCapsKept_oneAfterTheOther : ∃ s,
    execGuarded billing.step (Program.guard CountUnmoved) { store := onePromo }
      oneAfterTheOther = some s ∧
      s.store.promos.rows.map (fun promo => (promo.usedCount, promo.maxUses)) = [(1, some 1)] ∧
      s.store.payments.rows.length = 1 ∧ s.store.PromoCaps := by
  have shown : ((execGuarded billing.step (Program.guard CountUnmoved) { store := onePromo }
      oneAfterTheOther).map fun s =>
        (s.store.promos.rows.map (fun promo => (promo.usedCount, promo.maxUses)),
          s.store.payments.rows.length)) = some ([(1, some 1)], 1) := by
    decide +kernel
  obtain ⟨s, ran, view⟩ := Option.map_eq_some_iff.mp shown
  obtain ⟨counters, payments⟩ := Prod.mk.inj view
  have caps := promoCapsKept_of_unmoved (fun _ _ _ _ unmoved => unmoved) s
    ⟨onePromo, onePromo_fresh, Run.of_execGuarded ran⟩
  exact ⟨s, ran, counters, payments, caps⟩

/-- Both invoices are open before either is paid, and both are counted. -/
theorem promoCapsKept_broken_by_open_invoices :
    ¬PromoCapsKept (fun _ _ _ _ => True) ∧
      (exec billing.step { store := onePromo }
          (promoCheckout 0 "a" ++ promoCheckout 1 "b" ++ paidWebhook 0 "a" ++
            paidWebhook 1 "b")).map
        (fun s => s.store.promos.rows.map fun promo =>
          (promo.maxUses, promo.usedCount, s.store.promoUsesBy promo.id 1)) =
      some [(some 1, 2, 2)] := by
  have result : (exec billing.step { store := onePromo }
      (promoCheckout 0 "a" ++ promoCheckout 1 "b" ++ paidWebhook 0 "a" ++
        paidWebhook 1 "b")).map
      (fun s => s.store.promos.rows.map fun promo =>
        (promo.maxUses, promo.usedCount, s.store.promoUsesBy promo.id 1)) =
      some [(some 1, 2, 2)] := by decide +kernel
  refine ⟨fun kept => ?_, result⟩
  obtain ⟨s, ran, state⟩ := Option.map_eq_some_iff.mp result
  have caps := kept s ⟨onePromo, onePromo_fresh, Program.run_of_exec ran⟩
  have shown : ((some 1, 2, 2) : Option ℤ × Nat × Nat) ∈ s.store.promos.rows.map fun promo =>
      (promo.maxUses, promo.usedCount, s.store.promoUsesBy promo.id 1) := by
    rw [state]
    exact List.mem_singleton.mpr rfl
  obtain ⟨promo, member, columns⟩ := List.mem_map.mp shown
  obtain ⟨maxUses, rest⟩ := Prod.mk.inj columns
  have within := caps.total promo member 1 maxUses
  rw [(Prod.mk.inj rest).1] at within
  omega

end Avalant
