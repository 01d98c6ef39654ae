import Avalant.Billing.Charges
import Avalant.Billing.Convergence

/-!
A discounted payment makes a usage, unless the cap moves in between.

The checkout counts the usages of the code to price the invoice, and the webhook
counts them again to credit its owner. Nothing reserves the usage an invoice was
priced with: any number of invoices is discounted while fewer than five are
paid, and the credit skips those that come after the fifth.
-/

namespace Avalant

open Relational Transition

namespace BillingDb

/-- The usage row of a payment, and the commission of the code's owner. -/
def Produced (db : BillingDb) (p : PaymentRow) (code : ReferralCode) : Prop :=
  ∃ usage ∈ db.ledger.usages.rows, usage.codeId = code.id ∧ usage.refereeId = p.userId ∧
    usage.paymentId = some p.id ∧
    ∃ earning ∈ db.ledger.earnings.rows, earning.paymentId = some p.id ∧
      earning.referrerId = code.ownerId ∧ earning.amountUsd = usage.commissionEarned

/-- A paid payment of a referee with the discount of a code. -/
def paidWith (db : BillingDb) (codeId refereeId : Nat) (p : PaymentRow) : Bool :=
  p.status == .paid && p.userId == refereeId && db.history.discounted.contains (p.id, codeId)

/-- The price of a payment with the discount of its user's code. -/
def discountedPrice (db : BillingDb) (p : PaymentRow) (code : ReferralCode) : Option Pricing :=
  db.pricedAt p (effectivePct code.discountPct 0)

/-- The price of a payment without the discount. -/
def fullPrice (db : BillingDb) (p : PaymentRow) : Option Pricing :=
  db.pricedAt p 0

/-- The cap on discounted payments, and the symmetry of price and commission. A payment is charged
the discount of its user's code if it is recorded with the code, and else the full price. -/
structure DiscountsMatch (db : BillingDb) : Prop where
  capped : ∀ codeId refereeId,
    db.payments.rows.countP (db.paidWith codeId refereeId) ≤ usagesPerReferee
  charged : ∀ p ∈ db.payments.rows, ∀ code ∈ db.signupCode p.userId,
    some p.pricing = if (p.id, code.id) ∈ db.history.discounted then db.discountedPrice p code
      else db.fullPrice p
  uncoded : ∀ p ∈ db.payments.rows, db.signupCode p.userId = none →
    some p.pricing = db.fullPrice p ∧ ∀ codeId, (p.id, codeId) ∉ db.history.discounted
  symmetric : ∀ p ∈ db.payments.rows, p.status = .paid → ∀ code ∈ db.ledger.codes.rows,
    (p.id, code.id) ∈ db.history.discounted ↔ db.Produced p code
  priced : ∀ p ∈ db.payments.rows, p.status = .paid → ∀ code ∈ db.signupCode p.userId,
    db.discountedPrice p code ≠ db.fullPrice p →
      (some p.pricing = db.discountedPrice p code ↔ db.Produced p code)

end BillingDb

/-- In every reachable state discounts are capped and matched by usages. -/
def DiscountsKept
    (ok : BillingDb → List BillingTask → BillingInput → BillingTask → Prop) : Prop :=
  ∀ s, BillingReached ok s → s.store.DiscountsMatch

namespace BillingDb

/-- The user for whom a webhook has a usage to commit. -/
def creditedUser : BillingTask → Option Nat
  | .commitPaid payment _ _ (some _) => some payment.userId
  | _ => none

/-- When a webhook counts the usages, the cap is reached if and only if it was when the invoice was
priced; and a webhook commits a usage while no other one of the user has counted. -/
def CapUnmoved (db : BillingDb) (others : List BillingTask) (_ : BillingInput) : BillingTask → Prop
  | .countUsages payment _ _ _ => ∀ code ∈ db.signupCode payment.userId,
      (payment.id, code.id) ∈ db.history.discounted ↔ db.discountOpen code payment.userId = true
  | .commitPaid payment _ _ (some _) => ∀ t ∈ others, creditedUser t ≠ some payment.userId
  | _ => True

instance (db : BillingDb) (others : List BillingTask) (input : BillingInput) :
    (task : BillingTask) → Decidable (db.CapUnmoved others input task)
  | .countUsages _ _ _ _ => inferInstanceAs (Decidable (∀ _ ∈ _, _ ↔ _))
  | .commitPaid _ _ _ (some _) => inferInstanceAs (Decidable (∀ _ ∈ _, _ ≠ _))
  | .commitPaid _ _ _ none | .readPromo _ | .countPromo _ _ | .readPrice _ _ | .insertPayment _ _ _ _ | .lockPayment _ _
  | .readPaidPromo _ | .readUser _ _ | .readRefund _ _ | .commitRefund _ _ _
  | .reverseUsage _ _ | .payout _ => inferInstanceAs (Decidable True)

variable {db db' : BillingDb} {others : List BillingTask} {input : BillingInput}
  {task : BillingTask} {rest : Option BillingTask}

/-! ## Invariants -/

/-- What a paid payment with a discount has produced; the usage still counts. -/
def Credited (db : BillingDb) (p : PaymentRow) (codeId : Nat) : Prop :=
  ∃ usage ∈ db.ledger.usages.rows, usage.paymentId = some p.id ∧ usage.codeId = codeId ∧
    usage.refereeId = p.userId ∧ usage.reversedAt = none ∧
    ∃ code, db.signupCode p.userId = some code ∧ ∃ c ∈ db.ledger.cores,
      c.paymentId = some p.id ∧ c.referrerId = code.ownerId ∧ c.amountUsd = usage.commissionEarned

structure DiscountSound (db : BillingDb) : Prop where
  base : db.Sound
  below : ∀ p ∈ db.payments.rows, p.id < db.paymentSeq
  othersCode : ∀ userId code, db.signupCode userId = some code → code.ownerId ≠ userId
  own : ∀ paymentId codeId, (paymentId, codeId) ∈ db.history.discounted →
    ∃ p ∈ db.payments.rows, p.id = paymentId ∧
      ∃ code, db.signupCode p.userId = some code ∧ code.id = codeId
  usageSeq : ∀ usage ∈ db.ledger.usages.rows, usage.id < db.ledger.usageSeq
  origin : ∀ usage ∈ db.ledger.usages.rows, ∀ paymentId, usage.paymentId = some paymentId →
    (paymentId, usage.codeId) ∈ db.history.discounted
  paid : ∀ p ∈ db.payments.rows, p.status = .paid → ∀ codeId,
    (p.id, codeId) ∈ db.history.discounted → db.Credited p codeId
  capped : ∀ codeId refereeId, db.ledger.countUsages codeId refereeId ≤ usagesPerReferee

/-- The payment in memory is the user's. -/
def OwnRow (db : BillingDb) (payment : PaymentRow) : Prop :=
  ∃ p ∈ db.payments.rows, p.id = payment.id ∧ p.userId = payment.userId

/-- The rows to come agree with the price. -/
def SplitFits (db : BillingDb) (payment : PaymentRow) : SplitRows → Prop
  | none => ∀ codeId, (payment.id, codeId) ∉ db.history.discounted
  | some (usage, earning) => ∃ code, db.signupCode payment.userId = some code ∧
      (payment.id, code.id) ∈ db.history.discounted ∧
      ∀ id, (usage id).codeId = code.id ∧ (usage id).refereeId = payment.userId ∧
        (earning id).referrerId = code.ownerId ∧
        ∀ id', (earning id').amountUsd = (usage id).commissionEarned

def DiscountTask (db : BillingDb) : BillingTask → Prop
  | .insertPayment checkout _ _ code => ∀ codeId ∈ code,
      ∃ row, db.signupCode checkout.body.userId = some row ∧ row.id = codeId
  | .readPaidPromo payment | .readUser payment _ => db.OwnRow payment
  | .countUsages payment _ _ user => db.OwnRow payment ∧ user.id = payment.userId ∧
      user.signupCodeId.bind db.ledger.codes.get? = db.signupCode payment.userId
  | .commitPaid payment _ _ split => db.OwnRow payment ∧ db.SplitFits payment split
  | .reverseUsage paymentId _ => db.statusOf paymentId = some .refunded
  | _ => True

/-! ## What the statements leave alone -/

/-- Users and codes stay, payments keep their users, and only new payments are discounted. -/
structure Later (db db' : BillingDb) : Prop where
  codes : db'.ledger.codes = db.ledger.codes
  signup : ∀ userId, db'.signupCode userId = db.signupCode userId
  rows : ∀ p ∈ db.payments.rows, ∃ p' ∈ db'.payments.rows, p'.id = p.id ∧ p'.userId = p.userId
  grows : ∀ entry ∈ db.history.discounted, entry ∈ db'.history.discounted
  new : ∀ entry ∈ db'.history.discounted, entry ∈ db.history.discounted ∨ db.paymentSeq ≤ entry.1

theorem Later.ownRow (later : Later db db') {payment : PaymentRow} (own : db.OwnRow payment) :
    db'.OwnRow payment := by
  obtain ⟨p, member, id, user⟩ := own
  obtain ⟨p', member', id', user'⟩ := later.rows p member
  exact ⟨p', member', id'.trans id, user'.trans user⟩

theorem Later.splitFits (later : Later db db') (sound : db.DiscountSound) {payment : PaymentRow}
    {split : SplitRows} (own : db.OwnRow payment) (fits : db.SplitFits payment split) :
    db'.SplitFits payment split := by
  cases split with
  | none =>
      intro codeId discounted
      rcases later.new _ discounted with before | fresh
      · exact fits codeId before
      · obtain ⟨p, member, id, -⟩ := own
        have below := sound.below p member
        have seq : db.paymentSeq ≤ payment.id := fresh
        omega
  | some rows =>
      obtain ⟨code, signed, discounted, facts⟩ := fits
      exact ⟨code, (later.signup _).trans signed, later.grows _ discounted, facts⟩

theorem Later.discountTask (later : Later db db') (sound : db.DiscountSound)
    (final : ∀ paymentId, db.statusOf paymentId = some .refunded →
      db'.statusOf paymentId = some .refunded)
    {t : BillingTask} (facts : db.DiscountTask t) : db'.DiscountTask t := by
  cases t with
  | insertPayment checkout promo pricing code =>
      intro codeId chosen
      obtain ⟨row, signed, id⟩ := facts codeId chosen
      exact ⟨row, (later.signup _).trans signed, id⟩
  | readPaidPromo payment => exact later.ownRow facts
  | readUser payment promo => exact later.ownRow facts
  | countUsages payment promo sub user =>
      obtain ⟨own, same, signed⟩ := facts
      refine ⟨later.ownRow own, same, ?_⟩
      rw [later.codes, signed, later.signup]
  | commitPaid payment promo sub split =>
      exact ⟨later.ownRow facts.1, later.splitFits sound facts.1 facts.2⟩
  | reverseUsage paymentId reason => exact final paymentId facts
  | readPromo checkout => trivial
  | countPromo checkout promo => trivial
  | readPrice checkout promo => trivial
  | lockPayment invoice status => trivial
  | readRefund paymentId reason => trivial
  | commitRefund payment reason locked => trivial
  | payout op => trivial

theorem later_refl (db : BillingDb) : Later db db :=
  ⟨rfl, fun _ => rfl, fun p member => ⟨p, member, rfl, rfl⟩, fun _ member => member,
    fun _ member => Or.inl member⟩

/-- Writes to payments that keep their users, and to the ledger that keep its users and codes. -/
theorem later_of_frames (codes : db'.ledger.codes = db.ledger.codes)
    (users : ∀ userId, (db'.ledger.users.get? userId).bind User.signupCodeId =
      (db.ledger.users.get? userId).bind User.signupCodeId)
    (rows : ∀ p ∈ db.payments.rows, ∃ p' ∈ db'.payments.rows, p'.id = p.id ∧ p'.userId = p.userId)
    (discounted : db'.history.discounted = db.history.discounted) : Later db db' := by
  refine ⟨codes, fun userId => ?_, rows, ?_, ?_⟩
  · unfold signupCode
    rw [users, codes]
  · rw [discounted]
    exact fun _ member => member
  · rw [discounted]
    exact fun _ member => Or.inl member

theorem rows_update (db : BillingDb) (target : Nat) (set : PaymentRow → PaymentRow)
    (keeps : ∀ p, (set p).id = p.id) (users : ∀ p, (set p).userId = p.userId) :
    ∀ p ∈ db.payments.rows, ∃ p' ∈ (db.updatePayment target set keeps).payments.rows,
      p'.id = p.id ∧ p'.userId = p.userId := by
  intro p member
  refine ⟨_, List.mem_map_of_mem member, ?_⟩
  split
  · exact ⟨keeps p, users p⟩
  · exact ⟨rfl, rfl⟩

/-- A row after an update is the target's, rewritten, or was there before. -/
theorem mem_update {target : Nat} (set : PaymentRow → PaymentRow)
    (keeps : ∀ p, (set p).id = p.id) {p : PaymentRow}
    (member : p ∈ (db.updatePayment target set keeps).payments.rows) :
    (∃ old ∈ db.payments.rows, old.id = target ∧ p = set old) ∨
      (p ∈ db.payments.rows ∧ p.id ≠ target) := by
  obtain ⟨old, stored, rfl⟩ := List.mem_map.mp member
  by_cases same : old.id = target
  · exact Or.inl ⟨old, stored, same, if_pos same⟩
  · rw [if_neg same]
    exact Or.inr ⟨stored, same⟩

/-! ## One statement -/

theorem Credited.mono {p p' : PaymentRow} {codeId : Nat} (credited : db.Credited p codeId)
    (id : p'.id = p.id) (user : p'.userId = p.userId)
    (signup : db'.signupCode p.userId = db.signupCode p.userId)
    (usages : ∀ usage ∈ db.ledger.usages.rows, usage.paymentId = some p.id →
      usage ∈ db'.ledger.usages.rows)
    (cores : ∀ c ∈ db.ledger.cores, c ∈ db'.ledger.cores) : db'.Credited p' codeId := by
  obtain ⟨usage, member, payment, same, referee, counts, code, signed, c, present, facts⟩ := credited
  refine ⟨usage, usages usage member payment, id ▸ payment, same, referee.trans user.symm, counts,
    code, ?_, c, cores c present, ?_⟩
  · rw [user, signup]
    exact signed
  · rw [id]
    exact facts

/-- Usages and discounts stay; payments may stop being paid. -/
theorem DiscountSound.frame (sound : db.DiscountSound) (base : db'.Sound) (later : Later db db')
    (seq : db'.paymentSeq = db.paymentSeq)
    (payments : ∀ p ∈ db'.payments.rows, ∃ old ∈ db.payments.rows, p.id = old.id ∧
      p.userId = old.userId ∧ (p.status = .paid → old.status = .paid))
    (usages : db'.ledger.usages = db.ledger.usages)
    (usageSeq : db'.ledger.usageSeq = db.ledger.usageSeq)
    (cores : ∀ c ∈ db.ledger.cores, c ∈ db'.ledger.cores)
    (discounted : db'.history.discounted = db.history.discounted) : db'.DiscountSound where
  base := base
  below p member := by
    obtain ⟨old, stored, id, -⟩ := payments p member
    rw [id, seq]
    exact sound.below old stored
  othersCode userId code signed := sound.othersCode userId code ((later.signup userId) ▸ signed)
  own paymentId codeId member := by
    rw [discounted] at member
    obtain ⟨p, stored, id, code, signed, same⟩ := sound.own paymentId codeId member
    obtain ⟨p', stored', id', user'⟩ := later.rows p stored
    refine ⟨p', stored', id'.trans id, code, ?_, same⟩
    rw [user', later.signup]
    exact signed
  usageSeq := by
    rw [usages, usageSeq]
    exact sound.usageSeq
  origin := by
    rw [usages, discounted]
    exact sound.origin
  paid p member status codeId entry := by
    obtain ⟨old, stored, id, user, before⟩ := payments p member
    rw [discounted, id] at entry
    refine (sound.paid old stored (before status) codeId entry).mono id user (later.signup _) ?_
      cores
    rw [usages]
    exact fun _ present _ => present
  capped codeId refereeId := by
    unfold Ledger.countUsages
    rw [usages]
    exact sound.capped codeId refereeId

theorem same_payments (db db' : BillingDb) (same : db'.payments = db.payments) :
    (∀ p ∈ db.payments.rows, ∃ p' ∈ db'.payments.rows, p'.id = p.id ∧ p'.userId = p.userId) ∧
      ∀ p ∈ db'.payments.rows, ∃ old ∈ db.payments.rows, p.id = old.id ∧
        p.userId = old.userId ∧ (p.status = .paid → old.status = .paid) := by
  rw [same]
  exact ⟨fun p member => ⟨p, member, rfl, rfl⟩, fun p member => ⟨p, member, rfl, rfl, id⟩⟩

/-- An update that does not pay a payment. -/
theorem unpaid_update (db : BillingDb) (target : Nat) (set : PaymentRow → PaymentRow)
    (keeps : ∀ p, (set p).id = p.id) (users : ∀ p, (set p).userId = p.userId)
    (unpaid : ∀ p, (set p).status ≠ .paid) :
    ∀ p ∈ (db.updatePayment target set keeps).payments.rows, ∃ old ∈ db.payments.rows,
      p.id = old.id ∧ p.userId = old.userId ∧ (p.status = .paid → old.status = .paid) := by
  intro p member
  rcases mem_update set keeps member with ⟨old, stored, -, rfl⟩ | ⟨stored, -⟩
  · exact ⟨old, stored, keeps old, users old, fun paid => absurd paid (unpaid old)⟩
  · exact ⟨p, stored, rfl, rfl, id⟩

theorem DiscountSound.close (sound : db.DiscountSound) {target : Nat} {closing : PaymentStatus}
    (base : (db.close target closing).Sound) (unpaid : closing = .failed ∨ closing = .expired) :
    (db.close target closing).DiscountSound ∧ Later db (db.close target closing) := by
  have later : Later db (db.close target closing) :=
    later_of_frames rfl (fun _ => rfl) (rows_update db target _ _ fun _ => rfl) rfl
  refine ⟨sound.frame base later rfl (unpaid_update db target _ _ (fun _ => rfl) fun _ => ?_) rfl
    rfl (fun _ member => member) rfl, later⟩
  rcases unpaid with rfl | rfl
  · simp
  · simp

theorem DiscountSound.refund (sound : db.DiscountSound) {payment : PaymentRow}
    {reason : Option String} {minPayout : ℚ} {now : Time}
    (base : (db.refund payment reason minPayout now).Sound) :
    (db.refund payment reason minPayout now).DiscountSound ∧
      Later db (db.refund payment reason minPayout now) := by
  obtain ⟨users, codes, usageSeq, cores⟩ := Ledger.reverseCommission_frame sound.base.credited
    payment.id reason minPayout now
  obtain ⟨-, -, -, -, usages⟩ := Ledger.reverseCommission_spec sound.base.credited
    payment.id reason minPayout now
  let set (p : PaymentRow) : PaymentRow :=
    { p with
      status := .refunded, refundedAt := some now, refundedReason := some (reversalReason reason) }
  have later : Later db (db.refund payment reason minPayout now) := by
    refine later_of_frames codes (fun userId => ?_)
      (rows_update db payment.id set (fun _ => rfl) fun _ => rfl) rfl
    exact congrArg (fun table : Table User => (table.get? userId).bind User.signupCodeId) users
  have unpaid := unpaid_update db payment.id set (fun _ => rfl) (fun _ => rfl) fun p => by
    change PaymentStatus.refunded ≠ .paid
    simp
  exact ⟨sound.frame base later rfl unpaid usages usageSeq cores rfl, later⟩

theorem DiscountSound.payout (sound : db.DiscountSound) {op : LedgerOp} {ledger : Ledger}
    (base : ({ db with ledger } : BillingDb).Sound) (payouts : op.onPayouts = true)
    (done : db.ledger.step op = some ledger) :
    ({ db with ledger } : BillingDb).DiscountSound ∧ Later db { db with ledger } := by
  obtain ⟨same, usages⟩ := Ledger.sameCredits_step payouts done
  obtain ⟨codes, usageSeq, users⟩ := Ledger.signup_step payouts done
  obtain ⟨forth, back⟩ := same_payments db { db with ledger } rfl
  have later : Later db { db with ledger } := later_of_frames codes users forth rfl
  refine ⟨sound.frame base later rfl back usages usageSeq (fun c member => ?_) rfl, later⟩
  change c ∈ ledger.cores
  rw [same.cores]
  exact member

theorem countUsages_reverseUsage_le (l : Ledger) (paymentId : Nat) (reason : Option String)
    (now : Time) (codeId refereeId : Nat) :
    (l.reverseUsage paymentId reason now).countUsages codeId refereeId ≤
      l.countUsages codeId refereeId := by
  unfold Ledger.countUsages Ledger.reverseUsage Table.map
  rw [List.countP_map]
  refine List.countP_mono_left fun usage _ counted => ?_
  simp only [Function.comp_apply] at counted
  split at counted
  · simp at counted
  · exact counted

/-- A usage is reversed after its payment has been refunded. -/
theorem DiscountSound.reverseUsage (sound : db.DiscountSound) {paymentId : Nat}
    {reason : Option String} {now : Time}
    (base : ({ db with ledger := db.ledger.reverseUsage paymentId reason now } : BillingDb).Sound)
    (refunded : db.statusOf paymentId = some .refunded) :
    ({ db with ledger := db.ledger.reverseUsage paymentId reason now } : BillingDb).DiscountSound ∧
      Later db { db with ledger := db.ledger.reverseUsage paymentId reason now } := by
  have former : ∀ usage ∈ (db.ledger.reverseUsage paymentId reason now).usages.rows,
      ∃ old ∈ db.ledger.usages.rows, usage.id = old.id ∧ usage.paymentId = old.paymentId ∧
        usage.codeId = old.codeId := by
    intro usage member
    obtain ⟨old, stored, rfl⟩ := List.mem_map.mp member
    refine ⟨old, stored, ?_⟩
    split
    · exact ⟨rfl, rfl, rfl⟩
    · exact ⟨rfl, rfl, rfl⟩
  have later : Later db { db with ledger := db.ledger.reverseUsage paymentId reason now } :=
    later_of_frames rfl (fun _ => rfl) (fun p member => ⟨p, member, rfl, rfl⟩) rfl
  refine ⟨⟨base, sound.below, sound.othersCode, sound.own, fun usage member => ?_,
    fun usage member id owned => ?_, fun p member status codeId entry => ?_,
    fun codeId refereeId => ?_⟩, later⟩
  · obtain ⟨old, stored, id, -⟩ := former usage member
    rw [id]
    exact sound.usageSeq old stored
  · obtain ⟨old, stored, -, payment, code⟩ := former usage member
    rw [code]
    exact sound.origin old stored id (payment ▸ owned)
  · have other : p.id ≠ paymentId := by
      intro same
      subst same
      have current : db.statusOf p.id = some p.status :=
        statusOf_of_stored (Table.mem_rows_iff.mp member)
      rw [refunded, status] at current
      cases current
    refine (sound.paid p member status codeId entry).mono rfl rfl rfl (fun usage present owned => ?_)
      fun _ present => present
    refine List.mem_map.mpr ⟨usage, present, if_neg fun both => other ?_⟩
    exact Option.some.inj (owned.symm.trans both.1)
  · exact Nat.le_trans (countUsages_reverseUsage_le db.ledger paymentId reason now codeId refereeId)
      (sound.capped codeId refereeId)

theorem DiscountSound.insertPayment (sound : db.DiscountSound) {checkout : Checkout}
    {promo : Option PromoCode} {pricing : Pricing} {code : Option Nat} {invoice : Option String}
    (base : (db.insertPayment checkout promo pricing code invoice).Sound)
    (priced : db.DiscountTask (.insertPayment checkout promo pricing code)) :
    (db.insertPayment checkout promo pricing code invoice).DiscountSound ∧
      Later db (db.insertPayment checkout promo pricing code invoice) := by
  obtain ⟨db', written⟩ : ∃ db', db' = db.insertPayment checkout promo pricing code invoice :=
    ⟨_, rfl⟩
  rw [← written] at base ⊢
  unfold BillingDb.insertPayment at written
  split at written
  · subst written
    obtain ⟨forth, back⟩ := same_payments db { db with paymentSeq := db.paymentSeq + 1 } rfl
    have later : Later db { db with paymentSeq := db.paymentSeq + 1 } :=
      later_of_frames rfl (fun _ => rfl) forth rfl
    refine ⟨⟨base, fun p member => ?_, sound.othersCode, sound.own, sound.usageSeq, sound.origin,
      sound.paid, sound.capped⟩, later⟩
    exact Nat.lt_succ_of_lt (sound.below p member)
  case h_2 uuid _ =>
    have fresh : db.payments.get? db.paymentSeq = none := Table.get?_of_below sound.below
    have rows : ∀ p, p ∈ db'.payments.rows ↔ p ∈ db.payments.rows ∨ p =
        { id := db.paymentSeq, userId := checkout.body.userId, planId := checkout.plan.id,
          billingPeriodId := some checkout.period.id, baseAmountUsd := pricing.baseAmountUsd,
          discountPct := pricing.discountPct, finalAmountUsd := pricing.finalAmountUsd,
          promoCodeId := promo.map PromoCode.id, providerInvoiceId := uuid } := fun p => by
      rw [written]
      exact Table.mem_rows_insert (by simpa using fresh)
    have ledger : db'.ledger = db.ledger := by rw [written]
    have seq : db'.paymentSeq = db.paymentSeq + 1 := by rw [written]
    have signup : ∀ userId, db'.signupCode userId = db.signupCode userId := fun _ => by
      unfold signupCode
      rw [ledger]
    have entries : ∀ entry, entry ∈ db'.history.discounted ↔
        entry ∈ db.history.discounted ∨ ∃ codeId ∈ code, entry = (db.paymentSeq, codeId) := by
      intro entry
      rw [written]
      cases code with
      | none => simp
      | some codeId => simp [or_comm]
    have later : Later db db' := by
      refine ⟨by rw [ledger], signup, fun p member => ⟨p, (rows p).mpr (Or.inl member), rfl, rfl⟩,
        fun entry member => (entries entry).mpr (Or.inl member), fun entry member => ?_⟩
      rcases (entries entry).mp member with before | ⟨codeId, -, rfl⟩
      · exact Or.inl before
      · exact Or.inr le_rfl
    refine ⟨⟨base, fun p member => ?_, fun userId row signed => ?_, fun paymentId codeId entry => ?_,
      ?_, fun usage member paymentId owned => ?_, fun p member status codeId entry => ?_, ?_⟩, later⟩
    · rw [seq]
      rcases (rows p).mp member with old | new
      · exact Nat.lt_succ_of_lt (sound.below p old)
      · rw [new]
        exact Nat.lt_succ_self _
    · exact sound.othersCode userId row (signup userId ▸ signed)
    · rcases (entries _).mp entry with before | ⟨chosen, member, same⟩
      · obtain ⟨p, stored, id, row, signed, equal⟩ := sound.own paymentId codeId before
        exact ⟨p, (rows p).mpr (Or.inl stored), id, row, (signup _).trans signed, equal⟩
      · obtain ⟨rfl, rfl⟩ := Prod.mk.inj same
        obtain ⟨row, signed, equal⟩ := priced codeId member
        exact ⟨_, (rows _).mpr (Or.inr rfl), rfl, row, (signup _).trans signed, equal⟩
    · rw [ledger]
      exact sound.usageSeq
    · rw [ledger] at member
      exact (entries _).mpr (Or.inl (sound.origin usage member paymentId owned))
    · rcases (rows p).mp member with old | new
      · have below := sound.below p old
        have before : (p.id, codeId) ∈ db.history.discounted := by
          rcases (entries _).mp entry with before | ⟨chosen, -, same⟩
          · exact before
          · have reached := (Prod.mk.inj same).1
            omega
        refine (sound.paid p old status codeId before).mono rfl rfl (signup _) ?_ ?_
        · rw [ledger]
          exact fun _ present _ => present
        · rw [ledger]
          exact fun _ present => present
      · rw [new] at status
        cases status
    · rw [ledger]
      exact sound.capped

/-- The tables of an admitted activation. -/
theorem activate_frame {payment : PaymentRow} (promo : Option PromoCode) (sub : Subscription)
    {split : SplitRows} (now : Time) (admitted : db.admitsSplit payment.id split = true) :
    let db' := db.activate payment promo sub split now
    (∃ until_, db'.payments = (db.updatePayment payment.id
        (fun p => { p with status := .paid, paidAt := payment.paidAt, activatedUntil := some until_ })
        (fun _ => rfl)).payments) ∧
      db'.paymentSeq = db.paymentSeq ∧ db'.history.discounted = db.history.discounted := by
  intro db'
  have written : db' = db.activate payment promo sub split now := rfl
  unfold activate at written
  rw [if_pos admitted] at written
  cases promo with
  | none =>
      rw [written]
      exact ⟨⟨_, rfl⟩, rfl, rfl⟩
  | some promo =>
      rw [written]
      exact ⟨⟨_, rfl⟩, rfl, rfl⟩

theorem DiscountSound.usage_fresh (sound : db.DiscountSound) :
    db.ledger.usages.get? db.ledger.usageSeq = none :=
  Table.get?_of_below sound.usageSeq

theorem DiscountSound.row_unique {p p' : PaymentRow} (member : p ∈ db.payments.rows)
    (member' : p' ∈ db.payments.rows) (same : p.id = p'.id) : p = p' :=
  List.inj_on_of_nodup_map db.payments.nodup member member' same

/-- What an activation leaves of the usages, and that it credits a discounted payment. -/
structure Splits (db : BillingDb) (payment : PaymentRow) (ledger : Ledger) : Prop where
  codes : ledger.codes = db.ledger.codes
  users : ledger.users = db.ledger.users
  usageSeq : ∀ usage ∈ ledger.usages.rows, usage.id < ledger.usageSeq
  origin : ∀ usage ∈ ledger.usages.rows, ∀ paymentId, usage.paymentId = some paymentId →
    (paymentId, usage.codeId) ∈ db.history.discounted
  kept : ∀ usage ∈ db.ledger.usages.rows, usage ∈ ledger.usages.rows
  cores : ∀ c ∈ db.ledger.cores, c ∈ ledger.cores
  capped : ∀ codeId refereeId, ledger.countUsages codeId refereeId ≤ usagesPerReferee
  credited : ∀ codeId, (payment.id, codeId) ∈ db.history.discounted →
    ∃ usage ∈ ledger.usages.rows, usage.paymentId = some payment.id ∧ usage.codeId = codeId ∧
      usage.refereeId = payment.userId ∧ usage.reversedAt = none ∧
      ∃ code, db.signupCode payment.userId = some code ∧ ∃ c ∈ ledger.cores,
        c.paymentId = some payment.id ∧ c.referrerId = code.ownerId ∧
          c.amountUsd = usage.commissionEarned

theorem DiscountSound.splits (sound : db.DiscountSound) {payment : PaymentRow}
    {split : SplitRows} (own : db.OwnRow payment) (fits : db.SplitFits payment split)
    (credits : ∀ rows ∈ split, Ledger.CreditsPayment rows.1 rows.2 payment.id)
    (admitted : db.admitsSplit payment.id split = true)
    (open_ : ∀ code ∈ db.signupCode payment.userId,
      (payment.id, code.id) ∈ db.history.discounted → db.discountOpen code payment.userId = true) :
    Splits db payment (insertSplit db.ledger split) := by
  cases split with
  | none =>
      exact ⟨rfl, rfl, sound.usageSeq, sound.origin, fun _ member => member,
        fun _ member => member, sound.capped, fun codeId entry => absurd entry (fits codeId)⟩
  | some rows =>
      obtain ⟨usage, earning⟩ := rows
      obtain ⟨code, signed, discounted, facts⟩ := fits
      have row := credits _ rfl
      have adds := Ledger.adds_credit row sound.base.credited admitted
      have fresh : db.ledger.usages.get? (key (usage db.ledger.usageSeq)) = none := by
        change db.ledger.usages.get? (usage db.ledger.usageSeq).id = none
        rw [row.usageId]
        exact sound.usage_fresh
      have members : ∀ u, u ∈ (insertSplit db.ledger (some (usage, earning))).usages.rows ↔
          u ∈ db.ledger.usages.rows ∨ u = usage db.ledger.usageSeq := fun u =>
        Table.mem_rows_insert fresh
      obtain ⟨sameCode, referee, owner, amount⟩ := facts db.ledger.usageSeq
      refine ⟨rfl, rfl, fun u member => ?_, fun u member paymentId owned => ?_,
        fun u member => (members u).mpr (Or.inl member), fun c member => ?_,
        fun codeId refereeId => ?_, fun codeId entry => ?_⟩
      · change u.id < db.ledger.usageSeq + 1
        rcases (members u).mp member with old | new
        · exact Nat.lt_succ_of_lt (sound.usageSeq u old)
        · rw [new, row.usageId]
          exact Nat.lt_succ_self _
      · rcases (members u).mp member with old | new
        · exact sound.origin u old paymentId owned
        · rw [new, row.usagePayment] at owned
          rw [new, sameCode, ← Option.some.inj owned]
          exact discounted
      · change c ∈ ((db.ledger.insertUsage usage).insertEarning earning).cores
        rw [adds.cores]
        exact List.mem_append_left _ member
      · have counted := Table.countP_insert fresh fun u : ReferralCodeUsage =>
          u.codeId == codeId && u.refereeId == refereeId && u.reversedAt.isNone
        change (db.ledger.usages.insert (usage db.ledger.usageSeq)).rows.countP _ ≤ _
        rw [counted]
        split
        case isTrue same =>
          simp only [Bool.and_eq_true, beq_iff_eq] at same
          have room : db.ledger.countUsages code.id payment.userId < usagesPerReferee := by
            simpa [discountOpen] using open_ code signed discounted
          rw [← sameCode, ← referee, same.1.1, same.1.2] at room
          exact Nat.succ_le_of_lt room
        case isFalse => exact sound.capped codeId refereeId
      · -- the payment's code is the user's
        obtain ⟨p, stored, id, code', signed', same⟩ := sound.own _ _ entry
        obtain ⟨p', stored', id', user⟩ := own
        have equal := DiscountSound.row_unique stored stored' (id.trans id'.symm)
        rw [equal, user, signed] at signed'
        have codes := Option.some.inj signed'
        refine ⟨_, (members _).mpr (Or.inr rfl), row.usagePayment _, ?_, referee,
          row.unreversed _, code, signed, (earning db.ledger.earningSeq).core, ?_, ?_, ?_, ?_⟩
        · rw [sameCode, codes]
          exact same
        · change _ ∈ ((db.ledger.insertUsage usage).insertEarning earning).cores
          rw [adds.cores]
          exact List.mem_append_right _ (List.mem_singleton.mpr rfl)
        · exact row.earningPayment _
        · exact (facts db.ledger.earningSeq).2.2.1
        · exact amount _

theorem DiscountSound.activate (sound : db.DiscountSound) {payment : PaymentRow}
    {promo : Option PromoCode} {sub : Subscription} {split : SplitRows} {now : Time}
    (base : (db.activate payment promo sub split now).Sound) (own : db.OwnRow payment)
    (fits : db.SplitFits payment split)
    (credits : ∀ rows ∈ split, Ledger.CreditsPayment rows.1 rows.2 payment.id)
    (open_ : ∀ code ∈ db.signupCode payment.userId,
      (payment.id, code.id) ∈ db.history.discounted → db.discountOpen code payment.userId = true) :
    (db.activate payment promo sub split now).DiscountSound ∧
      Later db (db.activate payment promo sub split now) := by
  by_cases admitted : db.admitsSplit payment.id split = true
  · obtain ⟨⟨until_, payments⟩, seq, discounted⟩ := activate_frame promo sub now admitted
    obtain ⟨-, -, -, -, -, ledger⟩ := activate_spec promo sub now admitted
    have splits := sound.splits own fits credits admitted open_
    rw [← ledger] at splits
    let set (p : PaymentRow) : PaymentRow :=
      { p with status := .paid, paidAt := payment.paidAt, activatedUntil := some until_ }
    obtain ⟨db', written⟩ : ∃ db', db' = db.activate payment promo sub split now := ⟨_, rfl⟩
    rw [← written] at base payments seq discounted splits ⊢
    have forth : ∀ p ∈ db.payments.rows, ∃ p' ∈ db'.payments.rows, p'.id = p.id ∧
        p'.userId = p.userId := by
      rw [payments]
      exact rows_update db payment.id set (fun _ => rfl) fun _ => rfl
    have back : ∀ p ∈ db'.payments.rows, ∃ old ∈ db.payments.rows, p.id = old.id ∧
        p.userId = old.userId ∧ (p.id ≠ payment.id → p = old) := by
      intro p member
      rw [payments] at member
      rcases mem_update set (fun _ => rfl) member with
        ⟨old, stored, same, rfl⟩ | ⟨stored, -⟩
      · exact ⟨old, stored, rfl, rfl, fun other => absurd same other⟩
      · exact ⟨p, stored, rfl, rfl, fun _ => rfl⟩
    have later : Later db db' :=
      later_of_frames splits.codes (fun _ => by rw [splits.users]) forth discounted
    refine ⟨⟨base, fun p member => ?_, fun userId code signed => ?_, fun paymentId codeId entry => ?_,
      splits.usageSeq, fun usage member paymentId owned => ?_, fun p member status codeId entry => ?_,
      splits.capped⟩, later⟩
    · obtain ⟨old, stored, id, -⟩ := back p member
      rw [id, seq]
      exact sound.below old stored
    · exact sound.othersCode userId code (later.signup userId ▸ signed)
    · rw [discounted] at entry
      obtain ⟨p, stored, id, code, signed, same⟩ := sound.own paymentId codeId entry
      obtain ⟨p', stored', id', user'⟩ := forth p stored
      refine ⟨p', stored', id'.trans id, code, ?_, same⟩
      rw [user', later.signup]
      exact signed
    · rw [discounted]
      exact splits.origin usage member paymentId owned
    · obtain ⟨old, stored, id, user, kept⟩ := back p member
      rw [discounted] at entry
      by_cases same : p.id = payment.id
      · obtain ⟨p', stored', id', user'⟩ := own
        have equal := DiscountSound.row_unique stored stored' (id.symm.trans (same.trans id'.symm))
        have userSame : p.userId = payment.userId := by rw [user, equal, user']
        rw [same] at entry
        obtain ⟨usage, present, owned, code, referee, counts, row, signed, c, core, paid, facts⟩ :=
          splits.credited codeId entry
        refine ⟨usage, present, same ▸ owned, code, userSame ▸ referee, counts, row, ?_, c, core,
          same ▸ paid, facts⟩
        rw [userSame, later.signup]
        exact signed
      · have before := kept same
        subst before
        exact (sound.paid p stored status codeId entry).mono rfl rfl (later.signup _)
          (fun usage present _ => splits.kept usage present) splits.cores
  · have failed : db.activate payment promo sub split now = db := by
      unfold BillingDb.activate
      rw [if_neg admitted]
    rw [failed]
    exact ⟨sound, later_refl db⟩

/-- The rows a webhook computes while the cap is where the checkout saw it. -/
theorem DiscountSound.splitFits (sound : db.DiscountSound) {payment : PaymentRow} {user : User}
    (own : db.OwnRow payment) (same : user.id = payment.userId)
    (signed : user.signupCodeId.bind db.ledger.codes.get? = db.signupCode payment.userId)
    (unmoved : ∀ code ∈ db.signupCode payment.userId,
      (payment.id, code.id) ∈ db.history.discounted ↔
        db.discountOpen code payment.userId = true) :
    db.SplitFits payment (db.ledger.splitRows user payment.toPayment) := by
  -- a discount is the one of the user's code
  have codeOf : ∀ codeId, (payment.id, codeId) ∈ db.history.discounted →
      ∃ code, db.signupCode payment.userId = some code ∧ code.id = codeId := by
    intro codeId entry
    obtain ⟨p, stored, id, code, found, equal⟩ := sound.own _ _ entry
    obtain ⟨p', stored', id', owner⟩ := own
    have rows := DiscountSound.row_unique stored stored' (id.trans id'.symm)
    rw [rows, owner] at found
    exact ⟨code, found, equal⟩
  unfold Ledger.splitRows
  rw [signed]
  cases found : db.signupCode payment.userId with
  | none =>
      intro codeId entry
      obtain ⟨code, known, -⟩ := codeOf codeId entry
      rw [found] at known
      cases known
  | some code =>
      have priced := unmoved code found
      by_cases skipped : code.ownerId = user.id ∨
          usagesPerReferee ≤ db.ledger.countUsages code.id user.id
      · simp only [if_pos skipped]
        intro codeId entry
        obtain ⟨code', known, equal⟩ := codeOf codeId entry
        rw [found] at known
        have codes := Option.some.inj known
        rw [← equal, ← codes] at entry
        have room := priced.mp entry
        simp only [discountOpen, decide_eq_true_eq] at room
        rcases skipped with self | reached
        · exact sound.othersCode _ _ found (self.trans same)
        · rw [same] at reached
          omega
      · simp only [if_neg skipped]
        have below : db.ledger.countUsages code.id payment.userId < usagesPerReferee := by
          rw [← same]
          exact Nat.lt_of_not_le fun reached => skipped (Or.inr reached)
        refine ⟨code, found, priced.mpr (by simpa [discountOpen] using below), fun id => ?_⟩
        exact ⟨rfl, same, rfl, fun _ => rfl⟩

/-! ## The usages to commit -/

/-- The cap is not reached for the usage that a webhook has to commit. -/
def HasSlot (db : BillingDb) : BillingTask → Prop
  | .commitPaid payment _ _ (some _) => ∀ code ∈ db.signupCode payment.userId,
      db.discountOpen code payment.userId = true
  | _ => True

/-- A usage is computed below the cap. -/
theorem hasSlot_of_splitRows {payment : PaymentRow} {promo : Option PromoCode}
    {sub : Subscription} {user : User} (same : user.id = payment.userId)
    (signed : user.signupCodeId.bind db.ledger.codes.get? = db.signupCode payment.userId) :
    db.HasSlot (.commitPaid payment promo sub (db.ledger.splitRows user payment.toPayment)) := by
  cases computed : db.ledger.splitRows user payment.toPayment with
  | none => trivial
  | some rows =>
      intro code own
      unfold Ledger.splitRows at computed
      rw [signed, show db.signupCode payment.userId = some code from own] at computed
      dsimp only at computed
      split at computed
      · cases computed
      case isFalse taken =>
        have below : db.ledger.countUsages code.id payment.userId < usagesPerReferee := by
          rw [← same]
          exact Nat.lt_of_not_le fun reached => taken (Or.inr reached)
        simpa [discountOpen] using below

theorem HasSlot.later {t : BillingTask} (slot : db.HasSlot t)
    (signup : ∀ userId, db'.signupCode userId = db.signupCode userId)
    (counts : ∀ userId, creditedUser t = some userId → ∀ codeId,
      db'.ledger.countUsages codeId userId ≤ db.ledger.countUsages codeId userId) :
    db'.HasSlot t := by
  cases t with
  | commitPaid payment promo sub split =>
      cases split with
      | none => trivial
      | some rows =>
          intro code own
          rw [signup] at own
          have before : db.ledger.countUsages code.id payment.userId < usagesPerReferee := by
            simpa [discountOpen] using slot code own
          have after := Nat.lt_of_le_of_lt (counts payment.userId rfl code.id) before
          simpa [discountOpen] using after
  | _ => trivial

theorem countUsages_congr {l l' : Ledger} (usages : l'.usages = l.usages) (codeId userId : Nat) :
    l'.countUsages codeId userId ≤ l.countUsages codeId userId := by
  unfold Ledger.countUsages
  rw [usages]

/-- Only a webhook of a user adds to the usages of the user. -/
theorem Effect.counts (effect : Effect db others input task db' rest) (sound : db.DiscountSound)
    (own : db.TaskSound task) (facts : db.DiscountTask task) {userId : Nat}
    (other : creditedUser task ≠ some userId) (codeId : Nat) :
    db'.ledger.countUsages codeId userId ≤ db.ledger.countUsages codeId userId := by
  cases effect with
  | activated payment promo sub split =>
      by_cases admitted : db.admitsSplit payment.id split = true
      · obtain ⟨-, -, -, -, -, ledger⟩ := activate_spec promo sub input.now admitted
        rw [ledger]
        cases split with
        | none => exact Nat.le_refl _
        | some rows =>
            obtain ⟨code, -, -, written⟩ := facts.2
            refine Nat.le_of_eq (Table.countP_insert_of_not db.ledger.usages ?_)
            have referee := (written db.ledger.usageSeq).2.1
            have different : payment.userId ≠ userId := fun same => other (congrArg some same)
            simp [referee, different]
      · unfold BillingDb.activate
        rw [if_neg admitted]
  | inserted checkout promo pricing code =>
      unfold BillingDb.insertPayment
      split
      · exact Nat.le_refl _
      · exact Nat.le_refl _
  | refunded payment reason locked unlocked =>
      obtain ⟨-, -, -, -, usages⟩ := Ledger.reverseCommission_spec sound.base.credited
        payment.id reason input.minPayout input.now
      exact countUsages_congr usages codeId userId
  | usageReversed paymentId reason =>
      exact countUsages_reverseUsage_le db.ledger paymentId reason input.now codeId userId
  | payout done => exact countUsages_congr (Ledger.sameCredits_step own done).2 codeId userId
  | _ => exact Nat.le_refl _

/-- The step lemma. -/
theorem Effect.discount (effect : Effect db others input task db' rest)
    (unmoved : db.CapUnmoved others input task) (sound : db.DiscountSound)
    (own : db.TaskSound task) (facts : db.DiscountTask task) (slot : db.HasSlot task)
    (base : db'.Sound) :
    db'.DiscountSound ∧ Later db db' ∧ ∀ task', rest = some task' → db'.DiscountTask task' := by
  have reads : ∀ {task' : BillingTask}, db.DiscountTask task' →
      db.DiscountSound ∧ Later db db ∧ ∀ t, some task' = some t → db.DiscountTask t := by
    intro task' holds
    refine ⟨sound, later_refl db, fun t same => ?_⟩
    cases same
    exact holds
  have ends : ∀ {db' : BillingDb}, db'.DiscountSound ∧ Later db db' →
      db'.DiscountSound ∧ Later db db' ∧ ∀ t, (none : Option BillingTask) = some t →
        db'.DiscountTask t := by
    intro db' both
    refine ⟨both.1, both.2, fun t none => ?_⟩
    cases none
  cases effect with
  | stop task => exact ends ⟨sound, later_refl db⟩
  | noPromo checkout => exact reads trivial
  | foundPromo checkout promo => exact reads trivial
  | mayUse checkout promo => exact reads trivial
  | priced checkout promo pricing =>
      refine reads (fun codeId chosen => ?_)
      obtain ⟨row, kept, id⟩ := Option.map_eq_some_iff.mp chosen
      exact ⟨row, (Option.filter_eq_some_iff.mp kept).1, id⟩
  | inserted checkout promo pricing code => exact ends (sound.insertPayment base facts)
  | @opened _ _ payment stored unlocked waiting =>
      exact reads ⟨payment, Table.mem_of_get? stored, rfl, rfl⟩
  | closed stored pending unpaid => exact ends (sound.close base unpaid)
  | refunding reason stored unlocked paid => exact reads trivial
  | @ignored _ _ payment stored unpaid =>
      obtain ⟨forth, back⟩ := same_payments db (db.recordRefund payment.id payment.status) rfl
      have later : Later db (db.recordRefund payment.id payment.status) :=
        later_of_frames rfl (fun _ => rfl) forth rfl
      exact ends ⟨sound.frame base later rfl back rfl rfl (fun _ member => member) rfl, later⟩
  | paidPromo payment => exact reads facts
  | @user payment promo sub user stored =>
      refine reads ⟨facts, Table.key_of_get? stored, ?_⟩
      unfold signupCode
      rw [stored]
      rfl
  | counted payment promo sub user =>
      exact reads ⟨facts.1, sound.splitFits facts.1 facts.2.1 facts.2.2 unmoved⟩
  | activated payment promo sub split =>
      refine ends (sound.activate base facts.1 facts.2 own.2 fun code signed entry => ?_)
      cases split with
      | none => exact absurd entry (facts.2 code.id)
      | some rows => exact slot code signed
  | adminRefund reason stored paid => exact reads trivial
  | refunded payment reason locked unlocked =>
      obtain ⟨after, later⟩ := sound.refund base
      refine ⟨after, later, fun t same => ?_⟩
      cases same
      exact statusOf_refund own reason input.minPayout input.now
  | usageReversed paymentId reason => exact ends (sound.reverseUsage base facts)
  | payout done => exact ends (sound.payout base own done)

/-- What holds of a transaction in flight. -/
structure DiscountTasks (db : BillingDb) (t : BillingTask) : Prop where
  base : db.TaskSound t
  facts : db.DiscountTask t
  slot : db.HasSlot t
  price : db.PriceTask t

structure DiscountState (db : BillingDb) : Prop where
  discounts : db.DiscountSound
  prices : db.PriceSound

theorem discount_starts : Program.Starts billing DiscountState DiscountTasks Apart := by
  intro store request task others _ _ started
  have price := priceTask_of_start started
  rcases start_cases started with ⟨checkout, rfl⟩ | ⟨invoice, status, rfl⟩ |
    ⟨paymentId, reason, rfl⟩ | ⟨op, onPayouts, rfl⟩
  · exact ⟨⟨trivial, trivial, trivial, price⟩, apart_of_unlocking rfl others⟩
  · exact ⟨⟨trivial, trivial, trivial, price⟩, apart_of_unlocking rfl others⟩
  · exact ⟨⟨trivial, trivial, trivial, price⟩, apart_of_unlocking rfl others⟩
  · exact ⟨⟨onPayouts, trivial, trivial, price⟩, apart_of_unlocking rfl others⟩

/-- A webhook that goes on to its commit has counted below the cap. -/
theorem Effect.slot (effect : Effect db others input task db' rest) (facts : db.DiscountTask task) :
    ∀ task', rest = some task' → db'.HasSlot task' := by
  intro task' remains
  cases effect with
  | counted payment promo sub user =>
      cases remains
      exact hasSlot_of_splitRows facts.2.1 facts.2.2
  | noPromo checkout =>
      cases remains
      trivial
  | foundPromo checkout promo =>
      cases remains
      trivial
  | mayUse checkout promo =>
      cases remains
      trivial
  | priced checkout promo pricing =>
      cases remains
      trivial
  | opened stored unlocked waiting =>
      cases remains
      trivial
  | refunding reason stored unlocked paid =>
      cases remains
      trivial
  | paidPromo payment =>
      cases remains
      trivial
  | user stored =>
      cases remains
      trivial
  | adminRefund reason stored paid =>
      cases remains
      trivial
  | refunded payment reason locked unlocked =>
      cases remains
      trivial
  | stop task => cases remains
  | inserted checkout promo pricing code => cases remains
  | closed stored pending unpaid => cases remains
  | ignored stored unpaid => cases remains
  | activated payment promo sub split => cases remains
  | usageReversed paymentId reason => cases remains
  | payout done => cases remains

/-- The others keep the place of the usage they have to commit. -/
theorem Effect.slots (effect : Effect db others input task db' rest)
    (unmoved : db.CapUnmoved others input task) (sound : db.DiscountSound)
    (own : db.TaskSound task) (facts : db.DiscountTask task) (later : Later db db')
    {t : BillingTask} (member : t ∈ others) (slot : db.HasSlot t) : db'.HasSlot t := by
  refine slot.later later.signup fun userId credited codeId => ?_
  refine effect.counts sound own facts (fun same => ?_) codeId
  cases task with
  | commitPaid payment promo sub split =>
      cases split with
      | none => cases same
      | some rows => exact unmoved t member (credited.trans same.symm)
  | _ => cases same

theorem discount_keeps : Program.Keeps billing CapUnmoved DiscountState DiscountTasks Apart := by
  intro store others input task store' rest unmoved state own holds done
  have sound := state.discounts
  have effect := effect_of_next done
  have advanced := effect.advanced sound.base own.base fun t member =>
    ⟨(holds t member).1.base, (holds t member).2⟩
  obtain ⟨after, later, remains⟩ :=
    effect.discount unmoved sound own.base own.facts own.slot advanced.sound
  obtain ⟨prices, laterPrice, remainsPrice⟩ :=
    effect.priceSound later.signup state.prices own.price
  have final : ∀ paymentId, store.statusOf paymentId = some .refunded →
      store'.statusOf paymentId = some .refunded := fun paymentId refunded =>
    (advanced.final paymentId _ ⟨refunded, rfl⟩).1
  refine ⟨⟨after, prices⟩, fun t member => ?_, fun task' same => ?_⟩
  · have known := (holds t member).1
    exact ⟨advanced.elsewhere t member, later.discountTask sound final known.facts,
      effect.slots unmoved sound own.base own.facts later member known.slot,
      laterPrice t known.price⟩
  · obtain ⟨base, apart⟩ := advanced.remains task' same
    exact ⟨⟨base, remains task' same, effect.slot own.facts task' same, remainsPrice task' same⟩,
      apart⟩

theorem discountSound_of_fresh (fresh : db.Fresh) : db.DiscountSound := by
  refine ⟨sound_of_fresh fresh, ?_, fun userId code signed => ?_, ?_, ?_, ?_, ?_, ?_⟩
  · simp [fresh.noPayments]
  · obtain ⟨codeId, chosen, found⟩ := Option.bind_eq_some_iff.mp signed
    obtain ⟨user, stored, chose⟩ := Option.bind_eq_some_iff.mp chosen
    have other := fresh.othersCode user (Table.mem_of_get? stored) code (by
      rw [chose]
      exact found)
    have id : user.id = userId := Table.key_of_get? stored
    rw [← id]
    exact other
  · simp [fresh.noHistory]
  · simp [fresh.noUsages]
  · simp [fresh.noUsages]
  · simp [fresh.noPayments]
  · simp [Ledger.countUsages, fresh.noUsages]

/-! ## What the invariants say -/

/-- Each paid payment with the discount has a usage of its own that counts. -/
theorem DiscountSound.countP_paidWith_le (sound : db.DiscountSound) (codeId refereeId : Nat) :
    db.payments.rows.countP (db.paidWith codeId refereeId) ≤
      db.ledger.countUsages codeId refereeId := by
  let payments := db.payments.rows.filter (db.paidWith codeId refereeId)
  let usages := db.ledger.usages.rows.filter fun usage =>
    usage.codeId == codeId && usage.refereeId == refereeId && usage.reversedAt.isNone
  have distinct : (payments.map fun p => some p.id).Nodup := by
    have keys : (payments.map key).Nodup :=
      db.payments.nodup.sublist (List.filter_sublist.map key)
    have some_keys := keys.map (Option.some_injective Nat)
    rwa [List.map_map] at some_keys
  have within : (payments.map fun p => some p.id) ⊆ usages.map ReferralCodeUsage.paymentId := by
    intro entry member
    obtain ⟨p, chosen, rfl⟩ := List.mem_map.mp member
    obtain ⟨stored, tested⟩ := List.mem_filter.mp chosen
    simp only [paidWith, Bool.and_eq_true, beq_iff_eq, List.contains_iff_mem] at tested
    obtain ⟨⟨status, user⟩, entry⟩ := tested
    obtain ⟨usage, present, owned, code, referee, counts, -⟩ :=
      sound.paid p stored status codeId entry
    refine List.mem_map.mpr ⟨usage, List.mem_filter.mpr ⟨present, ?_⟩, owned⟩
    simp [code, referee, user, counts]
  have length := (List.subperm_of_subset distinct within).length_le
  simp only [List.length_map] at length
  unfold Ledger.countUsages
  rw [List.countP_eq_length_filter, List.countP_eq_length_filter]
  exact length

/-- A payment is recorded with the code of its user only. -/
theorem DiscountSound.signed (sound : db.DiscountSound) {p : PaymentRow}
    (stored : p ∈ db.payments.rows) {codeId : Nat} (entry : (p.id, codeId) ∈ db.history.discounted) :
    ∃ code, db.signupCode p.userId = some code ∧ code.id = codeId := by
  obtain ⟨p', stored', same, code, signed, id⟩ := sound.own _ _ entry
  rw [DiscountSound.row_unique stored' stored same] at signed
  exact ⟨code, signed, id⟩

/-- A paid payment is recorded with a code if and only if it has produced its usage and
commission. -/
theorem DiscountSound.symmetric (sound : db.DiscountSound) {p : PaymentRow}
    (stored : p ∈ db.payments.rows) (status : p.status = .paid) {code : ReferralCode}
    (known : code ∈ db.ledger.codes.rows) :
    (p.id, code.id) ∈ db.history.discounted ↔ db.Produced p code := by
  constructor
  · intro entry
    obtain ⟨code', signed, id⟩ := sound.signed stored entry
    have codes : code' = code := by
      obtain ⟨codeId, -, found⟩ := Option.bind_eq_some_iff.mp signed
      exact List.inj_on_of_nodup_map db.ledger.codes.nodup (Table.mem_of_get? found) known id
    rw [codes] at signed
    obtain ⟨usage, present, owned, ofCode, referee, -, code'', signed', c, core, paid, owner, amount⟩ :=
      sound.paid p stored status code.id entry
    rw [signed] at signed'
    have same' := Option.some.inj signed'
    obtain ⟨earning, member, rfl⟩ := List.mem_map.mp core
    refine ⟨usage, present, ofCode, referee, owned, earning, member, paid, ?_, amount⟩
    rw [same']
    exact owner
  · intro given
    rcases given with ⟨usage, present, ofCode, -, owned, -⟩
    rw [← ofCode]
    exact sound.origin usage present p.id owned

theorem PriceSound.charged_coded (sound : db.PriceSound) {p : PaymentRow}
    (stored : p ∈ db.payments.rows) {code : ReferralCode}
    (signed : db.signupCode p.userId = some code) :
    some p.pricing = if (p.id, code.id) ∈ db.history.discounted then db.discountedPrice p code
      else db.fullPrice p := by
  have charged := sound.charged_row stored
  unfold Charged recordedPct refPct at charged
  rw [signed] at charged
  by_cases entry : (p.id, code.id) ∈ db.history.discounted
  · rw [if_pos entry]
    simp only [List.contains_iff_mem, entry, if_true] at charged
    exact charged.symm
  · rw [if_neg entry]
    simp only [List.contains_iff_mem, entry, if_false] at charged
    exact charged.symm

theorem DiscountState.discountsMatch (state : db.DiscountState) : db.DiscountsMatch := by
  have sound := state.discounts
  refine ⟨fun codeId refereeId => ?_, fun p stored code signed => ?_, fun p stored uncoded => ?_,
    fun p stored status code known => sound.symmetric stored status known,
    fun p stored status code signed differ => ?_⟩
  · exact Nat.le_trans (sound.countP_paidWith_le codeId refereeId) (sound.capped codeId refereeId)
  · exact state.prices.charged_coded stored signed
  · refine ⟨?_, fun codeId entry => ?_⟩
    · have charged := state.prices.charged_row stored
      unfold Charged recordedPct refPct at charged
      rw [uncoded] at charged
      exact charged.symm
    · obtain ⟨code, signed, -⟩ := sound.signed stored entry
      rw [uncoded] at signed
      cases signed
  · obtain ⟨codeId, -, found⟩ := Option.bind_eq_some_iff.mp (show db.signupCode p.userId = _ from signed)
    rw [← sound.symmetric stored status (Table.mem_of_get? found),
      state.prices.charged_coded stored signed]
    by_cases entry : (p.id, code.id) ∈ db.history.discounted
    · simp [entry]
    · simp [entry, Ne.symm differ]

end BillingDb

open BillingDb

/-- In every run whose cap does not move between a price and its payment, discounts are capped and
matched by usages and commissions. -/
theorem discountsKept_of_unmoved {ok : BillingDb → List BillingTask → BillingInput → BillingTask → Prop}
    (within : ∀ db others input task, ok db others input task → db.CapUnmoved others input task) :
    DiscountsKept ok := by
  intro s reached
  rcases reached with ⟨db, fresh, run⟩
  have unmoved := run.mono (Program.guard_mono within)
  exact (Program.run_satisfies discount_starts discount_keeps unmoved
    (Pool.satisfies_start
      ⟨discountSound_of_fresh fresh, priceSound_of_fresh fresh⟩)).store.discountsMatch

/-! ## Six open invoices -/

/-- User 2 signed up with the code of user 1. -/
def oneReferee : BillingDb :=
  { oneUser with
    ledger :=
      { users := (Table.empty.insert { id := 1 }).insert { id := 2, signupCodeId := some 1 }
        codes := Table.empty.insert ⟨1, 1, 20, 10⟩ }
    subscriptions := Table.empty.insert { id := 2 } }

theorem oneReferee_fresh : oneReferee.Fresh := by
  refine { oneUser_fresh with othersCode := fun user member code signed => ?_ }
  rcases (Table.mem_rows_insert (by decide)).mp member with first | rfl
  · have owner : user = { id := 1 } := List.mem_singleton.mp first
    rw [owner] at signed
    cases signed
  · have found : code = ⟨1, 1, 20, 10⟩ := Option.some.inj signed.symm
    rw [found]
    decide

/-- The referee checks out `n` times before the first payment, then pays all the invoices. -/
def openInvoices (n : Nat) : List (Event BillingRequest BillingInput) :=
  (List.range n).flatMap (fun k =>
      [.begin_ k (.checkout ⟨2, 1, 1, none⟩), .advance k {}, .advance k {},
        .advance k { invoice := some (toString k) }]) ++
    (List.range n).flatMap fun k =>
      [.begin_ k (.webhook (toString k) "paid"), .advance k {}, .advance k {}, .advance k {},
        .advance k {}, .advance k {}]

/-- Up to five invoices may be open at once, and all are charged the discount. -/
theorem discountsKept_fiveInvoices : ∃ s,
    execGuarded billing.step (Program.guard CapUnmoved) { store := oneReferee }
      (openInvoices 5) = some s ∧
      s.store.payments.rows.map (fun p => (p.status, p.discountPct)) =
        List.replicate 5 (.paid, 10) ∧
      s.store.ledger.countUsages 1 2 = 5 ∧ s.store.DiscountsMatch := by
  have shown : ((execGuarded billing.step (Program.guard CapUnmoved) { store := oneReferee }
      (openInvoices 5)).map fun s => (s.store.payments.rows.map (fun p => (p.status, p.discountPct)),
        s.store.ledger.countUsages 1 2)) = some (List.replicate 5 (.paid, 10), 5) := by
    decide +kernel
  obtain ⟨s, ran, view⟩ := Option.map_eq_some_iff.mp shown
  obtain ⟨prices, counted⟩ := Prod.mk.inj view
  have matched := discountsKept_of_unmoved (fun _ _ _ _ unmoved => unmoved) s
    ⟨oneReferee, oneReferee_fresh, Run.of_execGuarded ran⟩
  exact ⟨s, ran, prices, counted, matched⟩

/-- Six payments with the discount, and five usages. -/
theorem discountsKept_broken_by_open_invoices :
    ¬DiscountsKept (fun _ _ _ _ => True) ∧
      (exec billing.step { store := oneReferee } (openInvoices 6)).map
        (fun s => (s.store.payments.rows.countP (s.store.paidWith 1 2),
          s.store.ledger.countUsages 1 2)) = some (6, 5) := by
  have result : (exec billing.step { store := oneReferee } (openInvoices 6)).map
      (fun s => (s.store.payments.rows.countP (s.store.paidWith 1 2),
        s.store.ledger.countUsages 1 2)) = some (6, 5) := by decide +kernel
  refine ⟨fun kept => ?_, result⟩
  obtain ⟨s, ran, counts⟩ := Option.map_eq_some_iff.mp result
  have matched := kept s ⟨oneReferee, oneReferee_fresh, Program.run_of_exec ran⟩
  have capped := matched.capped 1 2
  rw [(Prod.mk.inj counts).1] at capped
  exact absurd capped (by decide)

end Avalant
