import Avalant.Lib.Tasks
import Avalant.Billing.Rows
import Avalant.Referral.Credits

/-!
Checkouts, webhooks and refunds, statement by statement under READ COMMITTED.

A webhook locks its payment row (`SELECT ... FOR UPDATE`) and keeps the lock
until it commits; the promo row, the user and the usage count it reads on the
way are not locked, and what it writes is computed from them. A refund by an
admin reads the payment without a lock, and its `UPDATE` waits for one. A
reversal commits with the refund that causes it; the usage is reversed in a
transaction of its own.

The history is for the statements; no code reads it.
-/

namespace Avalant

open Relational Transition

/-- What has happened to the payments. -/
structure History where
  /-- Payments priced with the discount of a referral code, and the code. -/
  discounted : List (Nat × Nat) := []
  /-- Payments with a promo code, and the counter of the code as the checkout read it. -/
  validated : List (Nat × Nat) := []
  /-- The payments of the activations. -/
  extended : List Nat := []
  /-- The payments of the refunds delivered, and the status each has found. -/
  refunds : List (Nat × PaymentStatus) := []

structure BillingDb where
  ledger : Ledger := {}
  subscriptions : Table Subscription := Table.empty
  plans : Table Plan := Table.empty
  periods : Table BillingPeriod := Table.empty
  promos : Table PromoCode := Table.empty
  payments : Table PaymentRow := Table.empty
  promoUsages : Table PromoCodeUsage := Table.empty
  paymentSeq : Nat := 0
  promoUsageSeq : Nat := 0
  history : History := {}

/-- `POST /payments/checkout`, for the user who is logged in. -/
structure CheckoutBody where
  userId : Nat
  planId : Nat
  billingPeriodId : Nat
  promoCode : Option String := none
  deriving DecidableEq, Repr

/-- A checkout whose plan and period are found. -/
structure Checkout where
  body : CheckoutBody
  plan : Plan
  period : BillingPeriod

namespace BillingDb

/-! ## Statements -/

/-- `provider_invoice_id = invoice`. -/
def byInvoice (db : BillingDb) (invoice : String) : Option PaymentRow :=
  db.payments.rows.find? fun p => p.providerInvoiceId == invoice

/-- `promo_service.get_by_code`. -/
def byPromoCode (db : BillingDb) (code : String) : Option PromoCode :=
  db.promos.rows.find? fun promo => promo.code == normalizePromo code

/-- The usages of a promo code. -/
def promoUses (db : BillingDb) (promoCodeId : Nat) : Nat :=
  db.promoUsages.rows.countP fun u => u.promoCodeId == promoCodeId

/-- The usages of a promo code by a user. -/
def promoUsesBy (db : BillingDb) (promoCodeId userId : Nat) : Nat :=
  db.promoUsages.rows.countP fun u => u.promoCodeId == promoCodeId && u.userId == userId

/-- The code a user signed up with. -/
def signupCode (db : BillingDb) (userId : Nat) : Option ReferralCode :=
  ((db.ledger.users.get? userId).bind User.signupCodeId).bind db.ledger.codes.get?

/-- The usages of the user's code that count, and whether they leave a discount. -/
def discountOpen (db : BillingDb) (code : ReferralCode) (userId : Nat) : Bool :=
  db.ledger.countUsages code.id userId < usagesPerReferee

/-- `UPDATE payments SET .. WHERE id`. -/
def updatePayment (db : BillingDb) (paymentId : Nat) (set : PaymentRow → PaymentRow)
    (keeps : ∀ p, (set p).id = p.id) : BillingDb :=
  { db with
    payments := db.payments.map (fun p => if p.id = paymentId then set p else p)
      (fun p => by
        split
        · exact keeps p
        · rfl) }

/-- `INSERT INTO promo_code_usages`, and the counter as the ORM writes it. -/
def countPromo (db : BillingDb) (promo : PromoCode) (payment : PaymentRow) : BillingDb :=
  { db with
    promoUsages := db.promoUsages.insert
      { id := db.promoUsageSeq
        promoCodeId := promo.id
        userId := payment.userId
        paymentId := payment.id
        planId := payment.planId
        discountPct := payment.discountPct }
    promoUsageSeq := db.promoUsageSeq + 1
    promos := db.promos.map
      (fun row => if row.id = promo.id then { row with usedCount := promo.usedCount + 1 } else row)
      (fun row => by split <;> rfl) }

/-- `user.plan_id = .., user.plan_expires_at = ..`. -/
def setPlan (db : BillingDb) (userId planId : Nat) (until_ : Time) : BillingDb :=
  { db with
    subscriptions := db.subscriptions.map
      (fun s =>
        if s.id = userId then
          { s with
            planId := some planId
            plan := ((db.plans.get? planId).map Plan.slug).getD s.plan
            planExpiresAt := some until_ }
        else s)
      (fun s => by split <;> rfl) }

/-- `user.plan_expires_at = now; user.auto_renew = False`. -/
def annulPlan (db : BillingDb) (userId : Nat) (now : Time) : BillingDb :=
  { db with
    subscriptions := db.subscriptions.map
      (fun s =>
        if s.id = userId then { s with planExpiresAt := some now, autoRenew := false } else s)
      (fun s => by split <;> rfl) }

def recordExtension (db : BillingDb) (paymentId : Nat) : BillingDb :=
  { db with history := { db.history with extended := paymentId :: db.history.extended } }

def recordRefund (db : BillingDb) (paymentId : Nat) (found : PaymentStatus) : BillingDb :=
  { db with history := { db.history with refunds := (paymentId, found) :: db.history.refunds } }

/-! ## Checkout -/

/-- The plan and the period of a checkout. -/
def findCheckout (db : BillingDb) (body : CheckoutBody) : Except CheckoutError Checkout :=
  match (db.plans.get? body.planId).filter Plan.isActive with
  | none => .error .planNotFound
  | some plan =>
      if plan.isFree then .error .freePlan
      else
        match (db.periods.get? body.billingPeriodId).filter BillingPeriod.isActive with
        | none => .error .periodNotFound
        | some period => .ok { body, plan, period }

/-- The promo row a checkout reads; `validate_for_plan` up to the query. -/
def findPromo (db : BillingDb) (code : String) (planId userId : Nat) (now : Time) :
    Except CheckoutError PromoCode :=
  match (db.byPromoCode code).filter fun promo => promo.eligibleRow planId userId now with
  | none => .error .invalidPromo
  | some promo => .ok promo

/-- The discount of the user's code, as the checkout reads it. -/
def refDiscount (db : BillingDb) (userId : Nat) : Option ℚ :=
  (db.signupCode userId).map fun code =>
    effectivePct code.discountPct (db.ledger.countUsages code.id userId)

/-- The code whose discount the price has in it. -/
def discountCode (db : BillingDb) (userId : Nat) : Option Nat :=
  ((db.signupCode userId).filter fun code => db.discountOpen code userId).map ReferralCode.id

def price (db : BillingDb) (checkout : Checkout) (promo : Option PromoCode) :
    Except CheckoutError Pricing :=
  let pricing := computePricing checkout.plan checkout.period promo
    (db.refDiscount checkout.body.userId)
  if pricing.finalAmountUsd ≤ 0 then .error .zeroAmount else .ok pricing

/-- The pending payment of a checkout and its invoice, committed; a provider that fails or an
invoice id that is taken leaves nothing. -/
def insertPayment (db : BillingDb) (checkout : Checkout) (promo : Option PromoCode)
    (pricing : Pricing) (code : Option Nat) (invoice : Option String) : BillingDb :=
  match invoice.filter fun uuid => (db.byInvoice uuid).isNone with
  | none => { db with paymentSeq := db.paymentSeq + 1 }
  | some uuid =>
      { db with
        payments := db.payments.insert
          { id := db.paymentSeq
            userId := checkout.body.userId
            planId := checkout.plan.id
            billingPeriodId := some checkout.period.id
            baseAmountUsd := pricing.baseAmountUsd
            discountPct := pricing.discountPct
            finalAmountUsd := pricing.finalAmountUsd
            promoCodeId := promo.map PromoCode.id
            providerInvoiceId := uuid }
        paymentSeq := db.paymentSeq + 1
        history :=
          { db.history with
            discounted :=
              (code.map fun code => (db.paymentSeq, code)).toList ++ db.history.discounted
            validated :=
              (promo.map fun promo => (db.paymentSeq, promo.usedCount)).toList ++
                db.history.validated } }

/-! ## Activation and refund -/

/-- The rows a referral credit adds, with their ids to come. -/
abbrev SplitRows := Option ((Nat → ReferralCodeUsage) × (Nat → ReferralEarning))

/-- Whether the unique indexes admit the rows of a credit. -/
def admitsSplit (db : BillingDb) (paymentId : Nat) : SplitRows → Bool
  | none => true
  | some _ => db.ledger.admitsPayment paymentId

def insertSplit (l : Ledger) : SplitRows → Ledger
  | none => l
  | some (usage, earning) => (l.insertUsage usage).insertEarning earning

/-- The commit of a paid webhook: the payment, the promo usage, the plan and the referral rows.
A violated unique index fails the commit. -/
def activate (db : BillingDb) (payment : PaymentRow) (promo : Option PromoCode)
    (sub : Subscription) (split : SplitRows) (now : Time) : BillingDb :=
  if db.admitsSplit payment.id split then
    let until_ := activatedUntil sub (payment.billingPeriodId.bind db.periods.get?) promo now
    let paid := db.updatePayment payment.id
      (fun p =>
        { p with status := .paid, paidAt := payment.paidAt, activatedUntil := some until_ })
      (fun _ => rfl)
    let counted := match promo with
      | none => paid
      | some promo => paid.countPromo promo payment
    let planned := counted.setPlan payment.userId payment.planId until_
    { planned with ledger := insertSplit planned.ledger split }.recordExtension payment.id
  else db

/-- `refund_payment` up to the commit in `reverse_commission`. -/
def refund (db : BillingDb) (payment : PaymentRow) (reason : Option String) (minPayout : ℚ)
    (now : Time) : BillingDb :=
  let refunded := db.updatePayment payment.id
    (fun p =>
      { p with
        status := .refunded
        refundedAt := some now
        refundedReason := some (reversalReason reason) })
    (fun _ => rfl)
  let annulled := refunded.annulPlan payment.userId now
  let ledger := (annulled.ledger.reverseCommission payment.id reason minPayout now).2
  { annulled with ledger }.recordRefund payment.id .paid

/-- `payment.status = 'failed'` or `'expired'`. -/
def close (db : BillingDb) (paymentId : Nat) (status : PaymentStatus) : BillingDb :=
  db.updatePayment paymentId (fun p => { p with status }) (fun _ => rfl)

end BillingDb

/-! ## Transactions -/

/-- What a transaction has left to do. -/
inductive BillingTask
  | readPromo (checkout : Checkout)
  /-- The per-user query of `is_eligible`. -/
  | countPromo (checkout : Checkout) (promo : PromoCode)
  /-- The user's code, its usages, and the price. -/
  | readPrice (checkout : Checkout) (promo : Option PromoCode)
  | insertPayment (checkout : Checkout) (promo : Option PromoCode) (pricing : Pricing)
      (code : Option Nat)
  /-- `SELECT ... FOR UPDATE`. -/
  | lockPayment (invoice status : String)
  /-- A paid webhook holds the row; `payment` is the object in memory. -/
  | readPaidPromo (payment : PaymentRow)
  | readUser (payment : PaymentRow) (promo : Option PromoCode)
  | countUsages (payment : PaymentRow) (promo : Option PromoCode) (sub : Subscription)
      (user : User)
  | commitPaid (payment : PaymentRow) (promo : Option PromoCode) (sub : Subscription)
      (split : BillingDb.SplitRows)
  /-- The admin's `SELECT`. -/
  | readRefund (paymentId : Nat) (reason : Option String)
  /-- A payment read as paid is refunded; a webhook holds its row, an admin does not. -/
  | commitRefund (payment : PaymentRow) (reason : Option String) (locked : Bool)
  | reverseUsage (paymentId : Nat) (reason : Option String)
  /-- A payout request, or an admin's decision on one. -/
  | payout (op : LedgerOp)

/-- The payment row a transaction holds. -/
def BillingTask.locks : BillingTask → Option Nat
  | .readPaidPromo payment | .readUser payment _ | .countUsages payment _ _ _
  | .commitPaid payment _ _ _ | .commitRefund payment _ true => some payment.id
  | _ => none

inductive BillingRequest
  | checkout (body : CheckoutBody)
  | webhook (invoice status : String)
  | adminRefund (paymentId : Nat) (reason : Option String)
  | payout (op : LedgerOp)
  deriving DecidableEq, Repr

/-- The clock, the payout minimum in force, and the id of the invoice if the provider makes one. -/
structure BillingInput where
  now : Time := 0
  minPayout : ℚ := 100
  invoice : Option String := none
  deriving DecidableEq, Repr

namespace BillingDb

/-- The first task of a request. -/
def start (db : BillingDb) : BillingRequest → Option BillingTask
  | .checkout body => (db.findCheckout body).toOption.map .readPromo
  | .webhook invoice status => some (.lockPayment invoice status)
  | .adminRefund paymentId reason => some (.readRefund paymentId reason)
  | .payout op => if op.onPayouts then some (.payout op) else none

/-- A transaction other than this one holds the payment row. -/
def isLocked (others : List BillingTask) (paymentId : Nat) : Bool :=
  others.any fun task => task.locks == some paymentId

/-- The branches of `verify_and_apply_webhook` on the row it has locked. -/
def deliver (db : BillingDb) (payment : PaymentRow) (status : String) (now : Time) :
    BillingDb × Option BillingTask :=
  match Delivery.ofStatus status with
  | .paid =>
      if payment.status = .paid ∨ payment.status = .refunded then (db, none)
      else (db, some (.readPaidPromo { payment with status := .paid, paidAt := some now }))
  | .closed status =>
      if payment.status = .pending then (db.close payment.id status, none) else (db, none)
  | .refund =>
      if payment.status = .paid then
        (db, some (.commitRefund payment (some ("webhook:" ++ Python.lower status)) true))
      else (db.recordRefund payment.id payment.status, none)
  | .unknown => (db, none)

/-- One statement. -/
def next (db : BillingDb) (others : List BillingTask) (input : BillingInput) :
    BillingTask → Option (BillingDb × Option BillingTask)
  | .readPromo checkout =>
      match Python.nonEmpty checkout.body.promoCode with
      | none => some (db, some (.readPrice checkout none))
      | some code =>
          match db.findPromo code checkout.plan.id checkout.body.userId input.now with
          | .error _ => some (db, none)
          | .ok promo => some (db, some (.countPromo checkout promo))
  | .countPromo checkout promo =>
      if promo.userMayUse (db.promoUsesBy promo.id checkout.body.userId) then
        some (db, some (.readPrice checkout (some promo)))
      else some (db, none)
  | .readPrice checkout promo =>
      match db.price checkout promo with
      | .error _ => some (db, none)
      | .ok pricing =>
          some (db,
            some (.insertPayment checkout promo pricing (db.discountCode checkout.body.userId)))
  | .insertPayment checkout promo pricing code =>
      some (db.insertPayment checkout promo pricing code input.invoice, none)
  | .lockPayment invoice status =>
      match db.byInvoice invoice with
      | none => some (db, none)
      | some payment =>
          if isLocked others payment.id then none
          else some (db.deliver payment status input.now)
  | .readPaidPromo payment =>
      some (db, some (.readUser payment (payment.promoCodeId.bind db.promos.get?)))
  | .readUser payment promo =>
      match db.subscriptions.get? payment.userId, db.ledger.users.get? payment.userId with
      | some sub, some user => some (db, some (.countUsages payment promo sub user))
      -- no such user: `_activate_user` returns before the commit
      | _, _ => some (db, none)
  | .countUsages payment promo sub user =>
      some (db,
        some (.commitPaid payment promo sub (db.ledger.splitRows user payment.toPayment)))
  | .commitPaid payment promo sub split =>
      some (db.activate payment promo sub split input.now, none)
  | .readRefund paymentId reason =>
      match db.payments.get? paymentId with
      | none => some (db, none)
      | some payment =>
          if payment.status = .paid then some (db, some (.commitRefund payment reason false))
          else some (db, none)
  | .commitRefund payment reason _ =>
      if isLocked others payment.id then none
      else
        some (db.refund payment reason input.minPayout input.now,
          some (.reverseUsage payment.id reason))
  | .reverseUsage paymentId reason =>
      some ({ db with ledger := db.ledger.reverseUsage paymentId reason input.now }, none)
  | .payout op => some ({ db with ledger := (db.ledger.step op).getD db.ledger }, none)

end BillingDb

/-- The billing service. -/
def billing : Program BillingDb BillingTask BillingRequest BillingInput where
  start := BillingDb.start
  next := BillingDb.next

/-- A deployment before its first payment: any users, codes, plans, periods and unused promo
codes. A user's signup code is somebody else's. -/
structure BillingDb.Fresh (db : BillingDb) : Prop where
  noPayments : db.payments.rows = []
  noPromoUsages : db.promoUsages.rows = []
  noUsages : db.ledger.usages.rows = []
  noEarnings : db.ledger.earnings.rows = []
  noPayouts : db.ledger.payouts.rows = []
  unused : ∀ promo ∈ db.promos.rows, promo.usedCount = 0 ∧ ∀ maxUses ∈ promo.maxUses, 0 ≤ maxUses
  othersCode : ∀ user ∈ db.ledger.users.rows, ∀ code ∈ user.signupCodeId.bind db.ledger.codes.get?,
    code.ownerId ≠ user.id
  noHistory : db.history = {}

/-- The states the service reaches from a fresh deployment under a guard. -/
def BillingReached (ok : BillingDb → List BillingTask → BillingInput → BillingTask → Prop)
    (s : Pool BillingDb BillingTask) : Prop :=
  ∃ db : BillingDb, db.Fresh ∧ Run billing.step (Program.guard ok) { store := db } s

end Avalant
