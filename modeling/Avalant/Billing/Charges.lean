import Avalant.Billing.Effects

/-!
What a checkout fixes: the bill of a payment, and the terms of its promo code.

No other statement touches them, so a payment keeps the price of its plan, its period and its
promo code, with the discount of the referral code that it is recorded with.
-/

namespace Avalant

open Relational Transition

/-- A payment as its checkout has written it. -/
def PaymentRow.bill (p : PaymentRow) : PaymentRow :=
  { p with
    status := .pending
    paidAt := none
    activatedUntil := none
    refundedAt := none
    refundedReason := none }

/-- What the payment was charged. -/
def PaymentRow.pricing (p : PaymentRow) : Pricing where
  baseAmountUsd := p.baseAmountUsd
  discountPct := p.discountPct
  finalAmountUsd := p.finalAmountUsd

/-- A promo code without its counter. -/
def PromoCode.terms (promo : PromoCode) : PromoCode := { promo with usedCount := 0 }

namespace BillingDb

def bills (db : BillingDb) : List PaymentRow := db.payments.rows.map PaymentRow.bill

def termsOf (db : BillingDb) (promoId : Nat) : Option PromoCode :=
  (db.promos.get? promoId).map PromoCode.terms

/-- The price of a payment when its user's referral code takes off so much. -/
def pricedAt (db : BillingDb) (p : PaymentRow) (refPct : ℚ) : Option Pricing :=
  match db.plans.get? p.planId, p.billingPeriodId.bind db.periods.get? with
  | some plan, some period =>
      some (computePricing plan period (p.promoCodeId.bind db.promos.get?) (some refPct))
  | _, _ => none

/-- The discount of the user's code, if the code is among the recorded ones. -/
def refPct (db : BillingDb) (userId : Nat) (recorded : Nat → Bool) : ℚ :=
  match db.signupCode userId with
  | some code => if recorded code.id then effectivePct code.discountPct 0 else 0
  | none => 0

def recordedPct (db : BillingDb) (p : PaymentRow) : ℚ :=
  db.refPct p.userId fun codeId => db.history.discounted.contains (p.id, codeId)

/-- The price is the one of the discount that the payment is recorded with. -/
def Charged (db : BillingDb) (p : PaymentRow) : Prop :=
  db.pricedAt p (db.recordedPct p) = some p.pricing

variable {db db' : BillingDb} {others : List BillingTask} {input : BillingInput}
  {task : BillingTask} {rest : Option BillingTask}

/-! ## What the statements leave -/

/-- Plans and periods, the terms of the promo codes, and the bills with what is recorded of them. -/
structure Kept (db db' : BillingDb) : Prop where
  plans : db'.plans = db.plans
  periods : db'.periods = db.periods
  terms : ∀ promoId, db'.termsOf promoId = db.termsOf promoId
  bills : db'.bills = db.bills
  seq : db'.paymentSeq = db.paymentSeq
  discounted : db'.history.discounted = db.history.discounted
  validated : db'.history.validated = db.history.validated

theorem bills_of_update {target : Nat} {set : PaymentRow → PaymentRow}
    (written : db'.payments.rows = db.payments.rows.map fun p => if p.id = target then set p else p)
    (same : ∀ p, (set p).bill = p.bill) : db'.bills = db.bills := by
  unfold bills
  rw [written, List.map_map]
  refine List.map_congr_left fun p _ => ?_
  simp only [Function.comp_apply]
  split
  · exact same p
  · rfl

theorem termsOf_countPromo (db : BillingDb) (promo : PromoCode) (payment : PaymentRow)
    (promoId : Nat) : (db.countPromo promo payment).termsOf promoId = db.termsOf promoId := by
  unfold termsOf countPromo
  rw [Table.get?_map, Option.map_map]
  congr 1
  funext row
  simp only [Function.comp_apply]
  split
  · rfl
  · rfl

theorem kept_close (db : BillingDb) (paymentId : Nat) (status : PaymentStatus) :
    Kept db (db.close paymentId status) :=
  ⟨rfl, rfl, fun _ => rfl, bills_of_update rfl fun _ => rfl, rfl, rfl, rfl⟩

theorem kept_refund (db : BillingDb) (payment : PaymentRow) (reason : Option String)
    (minPayout : ℚ) (now : Time) : Kept db (db.refund payment reason minPayout now) :=
  ⟨rfl, rfl, fun _ => rfl, bills_of_update rfl fun _ => rfl, rfl, rfl, rfl⟩

theorem kept_activate (db : BillingDb) (payment : PaymentRow) (promo : Option PromoCode)
    (sub : Subscription) (split : SplitRows) (now : Time) :
    Kept db (db.activate payment promo sub split now) := by
  unfold activate
  split
  · cases promo with
    | none => exact ⟨rfl, rfl, fun _ => rfl, bills_of_update rfl fun _ => rfl, rfl, rfl, rfl⟩
    | some promo =>
        exact ⟨rfl, rfl, termsOf_countPromo _ promo payment,
          bills_of_update rfl fun _ => rfl, rfl, rfl, rfl⟩
  · exact ⟨rfl, rfl, fun _ => rfl, rfl, rfl, rfl, rfl⟩

theorem kept_refl (db : BillingDb) : Kept db db :=
  ⟨rfl, rfl, fun _ => rfl, rfl, rfl, rfl, rfl⟩

/-- Only a checkout writes a bill. -/
theorem Effect.kept (effect : Effect db others input task db' rest) :
    (∃ checkout promo pricing code, task = .insertPayment checkout promo pricing code ∧
      db' = db.insertPayment checkout promo pricing code input.invoice) ∨ Kept db db' := by
  cases effect with
  | inserted checkout promo pricing code => exact Or.inl ⟨checkout, promo, pricing, code, rfl, rfl⟩
  | @closed _ _ payment final stored pending unpaid => exact Or.inr (kept_close db payment.id final)
  | @ignored _ _ payment stored unpaid =>
      exact Or.inr ⟨rfl, rfl, fun _ => rfl, rfl, rfl, rfl, rfl⟩
  | activated payment promo sub split =>
      exact Or.inr (kept_activate db payment promo sub split input.now)
  | refunded payment reason locked unlocked =>
      exact Or.inr (kept_refund db payment reason input.minPayout input.now)
  | usageReversed paymentId reason => exact Or.inr ⟨rfl, rfl, fun _ => rfl, rfl, rfl, rfl, rfl⟩
  | payout done => exact Or.inr ⟨rfl, rfl, fun _ => rfl, rfl, rfl, rfl, rfl⟩
  | stop task => exact Or.inr (kept_refl db)
  | noPromo checkout => exact Or.inr (kept_refl db)
  | foundPromo checkout promo => exact Or.inr (kept_refl db)
  | mayUse checkout promo => exact Or.inr (kept_refl db)
  | priced checkout promo pricing => exact Or.inr (kept_refl db)
  | opened stored unlocked waiting => exact Or.inr (kept_refl db)
  | refunding reason stored unlocked paid => exact Or.inr (kept_refl db)
  | paidPromo payment => exact Or.inr (kept_refl db)
  | user stored => exact Or.inr (kept_refl db)
  | counted payment promo sub user => exact Or.inr (kept_refl db)
  | adminRefund reason stored paid => exact Or.inr (kept_refl db)

/-- The new bill of a checkout, and the entries recorded for it. -/
theorem insertPayment_cases (db : BillingDb) (checkout : Checkout) (promo : Option PromoCode)
    (pricing : Pricing) (code : Option Nat) (invoice : Option String)
    (below : ∀ b ∈ db.bills, b.id < db.paymentSeq) :
    let db' := db.insertPayment checkout promo pricing code invoice
    db'.plans = db.plans ∧ db'.periods = db.periods ∧ db'.promos = db.promos ∧
      db'.promoUsages = db.promoUsages ∧ db'.ledger = db.ledger ∧
      db'.paymentSeq = db.paymentSeq + 1 ∧
      ((db'.bills = db.bills ∧ db'.history = db.history) ∨
        ∃ b : PaymentRow, db'.bills = db.bills ++ [b] ∧ b.id = db.paymentSeq ∧
          b.userId = checkout.body.userId ∧ b.planId = checkout.plan.id ∧
          b.billingPeriodId = some checkout.period.id ∧ b.pricing = pricing ∧
          b.promoCodeId = promo.map PromoCode.id ∧
          db'.history.discounted =
            (code.map fun code => (db.paymentSeq, code)).toList ++ db.history.discounted ∧
          db'.history.validated =
            (promo.map fun promo => (db.paymentSeq, promo.usedCount)).toList ++
              db.history.validated) := by
  intro db'
  obtain ⟨after, written⟩ : ∃ after, after = db' := ⟨_, rfl⟩
  rw [← written]
  simp only [db', insertPayment] at written
  split at written
  · rw [written]
    exact ⟨rfl, rfl, rfl, rfl, rfl, rfl, Or.inl ⟨rfl, rfl⟩⟩
  case h_2 uuid _ =>
    have fresh : db.paymentSeq ∉ db.payments.rows.map key := by
      intro taken
      obtain ⟨p, member, same⟩ := List.mem_map.mp taken
      have less : p.id < db.paymentSeq := below p.bill (List.mem_map_of_mem member)
      have reached : p.id = db.paymentSeq := same
      omega
    rw [written]
    let p : PaymentRow :=
      { id := db.paymentSeq
        userId := checkout.body.userId
        planId := checkout.plan.id
        billingPeriodId := some checkout.period.id
        baseAmountUsd := pricing.baseAmountUsd
        discountPct := pricing.discountPct
        finalAmountUsd := pricing.finalAmountUsd
        promoCodeId := promo.map PromoCode.id
        providerInvoiceId := uuid }
    refine ⟨rfl, rfl, rfl, rfl, rfl, rfl, Or.inr ⟨p, ?_, rfl, rfl, rfl, rfl, rfl, rfl, rfl, rfl⟩⟩
    unfold bills Table.insert
    rw [dif_neg (by simpa using fresh), List.map_append]
    rfl

/-! ## The price of a bill -/

/-- A price depends on the terms of the promo code only. -/
theorem computePricing_terms (plan : Plan) (period : BillingPeriod) {promo promo' : Option PromoCode}
    (same : promo.map PromoCode.terms = promo'.map PromoCode.terms) (refPct : Option ℚ) :
    computePricing plan period promo refPct = computePricing plan period promo' refPct := by
  have pct : promo.map PromoCode.discountPct = promo'.map PromoCode.discountPct := by
    have mapped := congrArg (Option.map PromoCode.discountPct) same
    rwa [Option.map_map, Option.map_map] at mapped
  unfold computePricing
  rw [pct]

theorem pricedAt_congr (plans : db'.plans = db.plans) (periods : db'.periods = db.periods)
    (terms : ∀ promoId, db'.termsOf promoId = db.termsOf promoId) (p : PaymentRow) (pct : ℚ) :
    db'.pricedAt p pct = db.pricedAt p pct := by
  have promo : (p.promoCodeId.bind db'.promos.get?).map PromoCode.terms =
      (p.promoCodeId.bind db.promos.get?).map PromoCode.terms := by
    rw [Option.map_bind, Option.map_bind]
    exact congrArg (Option.bind p.promoCodeId) (funext terms)
  unfold pricedAt
  rw [plans, periods]
  split
  · rw [computePricing_terms _ _ promo]
  · rfl

/-- The whole discount of the code below the cap, and nothing from the cap on. -/
theorem refDiscount_eq {userId : Nat} {code : ReferralCode}
    (signed : db.signupCode userId = some code) :
    db.refDiscount userId =
      some (if db.discountOpen code userId = true then effectivePct code.discountPct 0 else 0) := by
  unfold refDiscount discountOpen effectivePct
  rw [signed, Option.map_some]
  by_cases open_ : db.ledger.countUsages code.id userId < usagesPerReferee
  · have below : ¬usagesPerReferee ≤ db.ledger.countUsages code.id userId := by omega
    have some_uses : ¬usagesPerReferee ≤ 0 := by decide
    simp only [open_, decide_true, if_true, if_neg below, if_neg some_uses]
  · have reached : usagesPerReferee ≤ db.ledger.countUsages code.id userId := by omega
    simp [open_, reached]

/-- The price of a checkout has the discount of the code that it is recorded with. -/
theorem price_eq {checkout : Checkout} {promo : Option PromoCode} {pricing : Pricing}
    (given : db.price checkout promo = .ok pricing) :
    pricing = computePricing checkout.plan checkout.period promo
      (some (db.refPct checkout.body.userId fun codeId =>
        db.discountCode checkout.body.userId == some codeId)) := by
  unfold price at given
  dsimp only at given
  split at given
  · cases given
  cases given
  unfold refPct discountCode
  cases signed : db.signupCode checkout.body.userId with
  | none =>
      unfold refDiscount
      rw [signed]
      rfl
  | some code =>
      rw [refDiscount_eq signed]
      by_cases open_ : db.discountOpen code checkout.body.userId = true
      · simp [open_, Option.filter]
      · simp [open_, Option.filter]

/-! ## The invariant -/

/-- A promo code that was read has the terms of the stored one. -/
def HasTerms (db : BillingDb) (promo : PromoCode) : Prop :=
  db.termsOf promo.id = some promo.terms

structure PriceSound (db : BillingDb) : Prop where
  below : ∀ b ∈ db.bills, b.id < db.paymentSeq
  recorded : ∀ entry ∈ db.history.discounted, entry.1 < db.paymentSeq
  charged : ∀ b ∈ db.bills, db.Charged b

/-- What a checkout knows of its price. -/
def PriceTask (db : BillingDb) : BillingTask → Prop
  | .readPromo checkout => db.Stands checkout
  | .countPromo checkout promo => db.Stands checkout ∧ db.HasTerms promo
  | .readPrice checkout promo => db.Stands checkout ∧ ∀ code ∈ promo, db.HasTerms code
  | .insertPayment checkout promo pricing code =>
      db.Stands checkout ∧ (∀ code ∈ promo, db.HasTerms code) ∧
        pricing = computePricing checkout.plan checkout.period promo
          (some (db.refPct checkout.body.userId fun codeId => code == some codeId))
  | _ => True

/-- The code of every user is the same, and so is what it takes off. -/
theorem refPct_congr (signup : ∀ userId, db'.signupCode userId = db.signupCode userId)
    (userId : Nat) (recorded : Nat → Bool) :
    db'.refPct userId recorded = db.refPct userId recorded := by
  unfold refPct
  rw [signup]

theorem PriceTask.later {t : BillingTask} (facts : db.PriceTask t)
    (plans : db'.plans = db.plans) (periods : db'.periods = db.periods)
    (terms : ∀ promoId, db'.termsOf promoId = db.termsOf promoId)
    (signup : ∀ userId, db'.signupCode userId = db.signupCode userId) : db'.PriceTask t := by
  have stands : ∀ {checkout}, db.Stands checkout → db'.Stands checkout := fun stood =>
    ⟨plans ▸ stood.plan, periods ▸ stood.period⟩
  have has : ∀ {promo}, db.HasTerms promo → db'.HasTerms promo := fun known =>
    (terms _).trans known
  cases t with
  | readPromo checkout => exact stands facts
  | countPromo checkout promo => exact ⟨stands facts.1, has facts.2⟩
  | readPrice checkout promo => exact ⟨stands facts.1, fun code own => has (facts.2 code own)⟩
  | insertPayment checkout promo pricing code =>
      obtain ⟨stood, known, priced⟩ := facts
      refine ⟨stands stood, fun code own => has (known code own), ?_⟩
      rw [refPct_congr signup]
      exact priced
  | _ => trivial

theorem PriceSound.of_kept (sound : db.PriceSound) (kept : Kept db db')
    (signup : ∀ userId, db'.signupCode userId = db.signupCode userId) : db'.PriceSound := by
  refine ⟨?_, ?_, fun b member => ?_⟩
  · rw [kept.bills, kept.seq]
    exact sound.below
  · rw [kept.discounted, kept.seq]
    exact sound.recorded
  · rw [kept.bills] at member
    unfold Charged recordedPct
    rw [pricedAt_congr kept.plans kept.periods kept.terms, refPct_congr signup, kept.discounted]
    exact sound.charged b member

/-- What is recorded of an older payment does not change. -/
theorem contains_recorded_of_lt {entries : List (Nat × Nat)} {id seq : Nat} (older : id < seq)
    (code : Option Nat) (codeId : Nat) :
    ((code.map fun code => (seq, code)).toList ++ entries).contains (id, codeId) =
      entries.contains (id, codeId) := by
  cases code with
  | none => rfl
  | some chosen =>
      have other : (id, codeId) ≠ (seq, chosen) := by
        intro equal
        have ids := (Prod.mk.inj equal).1
        omega
      simp [other]

/-- A new payment is recorded with the code it was priced with. -/
theorem contains_recorded_new {entries : List (Nat × Nat)} {seq : Nat}
    (unrecorded : ∀ codeId, (seq, codeId) ∉ entries) (code : Option Nat) (codeId : Nat) :
    ((code.map fun code => (seq, code)).toList ++ entries).contains (seq, codeId) =
      (code == some codeId) := by
  cases code with
  | none => simpa using unrecorded codeId
  | some chosen =>
      by_cases equal : chosen = codeId
      · simp [equal]
      · simp [equal, Ne.symm equal, unrecorded codeId]

theorem PriceSound.insertPayment (sound : db.PriceSound) {checkout : Checkout}
    {promo : Option PromoCode} {pricing : Pricing} {code : Option Nat} {invoice : Option String}
    (facts : db.PriceTask (.insertPayment checkout promo pricing code)) :
    (db.insertPayment checkout promo pricing code invoice).PriceSound := by
  obtain ⟨stood, known, priced⟩ := facts
  obtain ⟨plans, periods, promos, -, ledger, seq, written⟩ :=
    insertPayment_cases db checkout promo pricing code invoice sound.below
  generalize db.insertPayment checkout promo pricing code invoice = db' at *
  have terms : ∀ promoId, db'.termsOf promoId = db.termsOf promoId := fun _ => by
    unfold termsOf
    rw [promos]
  have signup : ∀ userId, db'.signupCode userId = db.signupCode userId := fun _ => by
    unfold signupCode
    rw [ledger]
  have pricedAt := pricedAt_congr plans periods terms
  rcases written with ⟨bills, history⟩ | ⟨b, bills, id, user, plan, period, own, code', entries, -⟩
  · refine ⟨fun b member => ?_, fun entry member => ?_, fun b member => ?_⟩
    · rw [bills] at member
      have less := sound.below b member
      omega
    · rw [history] at member
      have less := sound.recorded entry member
      omega
    · rw [bills] at member
      unfold Charged recordedPct
      rw [pricedAt, refPct_congr signup, history]
      exact sound.charged b member
  · refine ⟨fun b' member => ?_, fun entry member => ?_, fun b' member => ?_⟩
    · rw [bills] at member
      rcases List.mem_append.mp member with old | new
      · have less := sound.below b' old
        omega
      · rw [List.mem_singleton.mp new, id, seq]
        exact Nat.lt_succ_self _
    · rw [entries] at member
      rcases List.mem_append.mp member with new | old
      · obtain ⟨chosen, -, rfl⟩ := Option.map_eq_some_iff.mp (Option.mem_toList.mp new)
        rw [seq]
        exact Nat.lt_succ_self _
      · have less := sound.recorded entry old
        omega
    · rw [bills] at member
      unfold Charged recordedPct
      rw [pricedAt, refPct_congr signup, entries]
      rcases List.mem_append.mp member with old | new
      · rw [funext (contains_recorded_of_lt (sound.below b' old) code)]
        exact sound.charged b' old
      · have unrecorded : ∀ codeId, (db.paymentSeq, codeId) ∉ db.history.discounted :=
          fun codeId entry => Nat.lt_irrefl _ (sound.recorded _ entry)
        have same := contains_recorded_new unrecorded code
        rw [List.mem_singleton.mp new]
        have promo' : (b.promoCodeId.bind db.promos.get?).map PromoCode.terms =
            promo.map PromoCode.terms := by
          rw [code']
          cases promo with
          | none => rfl
          | some promo => exact known promo rfl
        unfold BillingDb.pricedAt
        rw [id, funext same, plan, period, stood.plan, Option.bind_some, stood.period, user, own, priced]
        exact congrArg some (computePricing_terms _ _ promo' _)

/-- The step lemma, while the codes of the users stay. -/
theorem Effect.priceSound (effect : Effect db others input task db' rest)
    (signup : ∀ userId, db'.signupCode userId = db.signupCode userId) (sound : db.PriceSound)
    (facts : db.PriceTask task) :
    db'.PriceSound ∧ (∀ t, db.PriceTask t → db'.PriceTask t) ∧
      ∀ task', rest = some task' → db'.PriceTask task' := by
  have after : db'.PriceSound ∧ ∀ t, db.PriceTask t → db'.PriceTask t := by
    rcases effect.kept with ⟨checkout, promo, pricing, code, rfl, rfl⟩ | kept
    · obtain ⟨plans, periods, promos, -⟩ :=
        insertPayment_cases db checkout promo pricing code input.invoice sound.below
      refine ⟨sound.insertPayment facts, fun t known => known.later plans periods ?_ signup⟩
      intro promoId
      unfold termsOf
      rw [promos]
    · exact ⟨sound.of_kept kept signup, fun t known =>
        known.later kept.plans kept.periods kept.terms signup⟩
  refine ⟨after.1, after.2, fun task' remains => ?_⟩
  cases effect with
  | noPromo checkout =>
      cases remains
      exact ⟨facts, fun code none => by cases none⟩
  | foundPromo checkout promo stored uses =>
      cases remains
      exact ⟨facts, by unfold HasTerms termsOf; rw [stored]; rfl⟩
  | mayUse checkout promo room =>
      cases remains
      refine ⟨facts.1, fun code own => ?_⟩
      cases own
      exact facts.2
  | priced checkout promo pricing given =>
      cases remains
      exact ⟨facts.1, facts.2, price_eq given⟩
  | opened stored unlocked waiting =>
      cases remains
      trivial
  | refunding reason stored unlocked paid =>
      cases remains
      trivial
  | paidPromo payment =>
      cases remains
      trivial
  | user stored =>
      cases remains
      trivial
  | counted payment promo sub user =>
      cases remains
      trivial
  | adminRefund reason stored paid =>
      cases remains
      trivial
  | refunded payment reason locked unlocked =>
      cases remains
      trivial
  | stop task => cases remains
  | inserted checkout promo pricing code => cases remains
  | closed stored pending unpaid => cases remains
  | ignored stored unpaid => cases remains
  | activated payment promo sub split => cases remains
  | usageReversed paymentId reason => cases remains
  | payout done => cases remains

theorem priceSound_of_fresh (fresh : db.Fresh) : db.PriceSound := by
  have none : db.bills = [] := by simp [bills, fresh.noPayments]
  refine ⟨?_, ?_, ?_⟩
  · simp [none]
  · simp [fresh.noHistory]
  · simp [none]

theorem priceTask_of_start {request : BillingRequest} (started : db.start request = some task) :
    db.PriceTask task := by
  rcases start_cases started with ⟨checkout, rfl⟩ | ⟨invoice, status, rfl⟩ |
    ⟨paymentId, reason, rfl⟩ | ⟨op, -, rfl⟩
  · exact start_stands started
  · trivial
  · trivial
  · trivial

/-- Every payment was charged what it is recorded with. -/
theorem PriceSound.charged_row (sound : db.PriceSound) {p : PaymentRow}
    (stored : p ∈ db.payments.rows) : db.Charged p :=
  sound.charged p.bill (List.mem_map_of_mem stored)

end BillingDb

end Avalant
