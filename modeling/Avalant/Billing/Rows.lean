import Avalant.Referral.Operations

/-!
The billing tables, what a checkout charges, and until when a payment pays.

A price is the period's total less the promo code's and the referral code's
discount, clamped to the global cap. The eligibility of a promo code is split
at its query: the columns of the row, then the usages of the user.
-/

namespace Avalant

open Relational

/-! ## Rows -/

/-- `Payment.status`. -/
inductive PaymentStatus
  | pending | paid | failed | expired | refunded
  deriving DecidableEq, Repr

structure Plan where
  id : Nat
  slug : String
  priceUsdMonthly : ℚ
  isFree : Bool := false
  isActive : Bool := true
  deriving DecidableEq, Repr

structure BillingPeriod where
  id : Nat
  months : Nat
  discountPct : ℚ := 0
  isActive : Bool := true
  deriving DecidableEq, Repr

structure PromoCode where
  id : Nat
  code : String
  discountPct : ℚ := 0
  bonusDays : Nat := 0
  maxUses : Option ℤ := none
  usedCount : Nat := 0
  perUserMaxUses : Option Nat := none
  targetUserId : Option Nat := none
  appliesToPlanIds : List Nat := []
  isActive : Bool := true
  expiresAt : Option Time := none
  deriving DecidableEq, Repr

/-- The whole row of `payments`. -/
structure PaymentRow where
  id : Nat
  userId : Nat
  planId : Nat
  billingPeriodId : Option Nat
  baseAmountUsd : ℚ
  discountPct : ℚ
  finalAmountUsd : ℚ
  promoCodeId : Option Nat
  providerInvoiceId : String
  status : PaymentStatus := .pending
  paidAt : Option Time := none
  activatedUntil : Option Time := none
  refundedAt : Option Time := none
  refundedReason : Option String := none
  deriving DecidableEq, Repr

/-- The columns the commission is computed from. -/
def PaymentRow.toPayment (p : PaymentRow) : Payment :=
  { id := p.id, baseAmountUsd := some p.baseAmountUsd, finalAmountUsd := some p.finalAmountUsd }

structure PromoCodeUsage where
  id : Nat
  promoCodeId : Nat
  userId : Nat
  paymentId : Nat
  planId : Nat
  discountPct : ℚ
  deriving DecidableEq, Repr

/-- The plan columns of a `users` row; `id` is the user's. -/
structure Subscription where
  id : Nat
  planId : Option Nat := none
  plan : String := "free"
  planExpiresAt : Option Time := none
  autoRenew : Bool := false
  deriving DecidableEq, Repr

instance : Keyed Plan := ⟨Plan.id⟩
instance : Keyed BillingPeriod := ⟨BillingPeriod.id⟩
instance : Keyed PromoCode := ⟨PromoCode.id⟩
instance : Keyed PaymentRow := ⟨PaymentRow.id⟩
instance : Keyed PromoCodeUsage := ⟨PromoCodeUsage.id⟩
instance : Keyed Subscription := ⟨Subscription.id⟩

@[simp] theorem key_promoCode (p : PromoCode) : key p = p.id := rfl

@[simp] theorem key_paymentRow (p : PaymentRow) : key p = p.id := rfl

@[simp] theorem key_promoCodeUsage (u : PromoCodeUsage) : key u = u.id := rfl

@[simp] theorem key_subscription (s : Subscription) : key s = s.id := rfl

/-! ## Prices -/

/-- `billing_period_service.compute_total`. -/
def computeTotal (baseMonthlyUsd : ℚ) (period : BillingPeriod) : ℚ :=
  let months := if period.months = 0 then 1 else period.months
  Python.quantizeHalfUp (baseMonthlyUsd * months * (100 - period.discountPct) / 100)

structure Pricing where
  baseAmountUsd : ℚ
  discountPct : ℚ
  finalAmountUsd : ℚ
  deriving DecidableEq, Repr

/-- `compute_pricing`. -/
def computePricing (plan : Plan) (period : BillingPeriod) (promo : Option PromoCode)
    (refCodeDiscountPct : Option ℚ) : Pricing :=
  let base := computeTotal plan.priceUsdMonthly period
  let promoPct := (promo.map PromoCode.discountPct).getD 0
  let refPct := refCodeDiscountPct.getD 0
  let totalDiscount := min (promoPct + refPct) globalCapPct
  { baseAmountUsd := base
    discountPct := totalDiscount
    finalAmountUsd := Python.quantizeHalfUp (base * (100 - totalDiscount) / 100) }

/-- Why a checkout is refused. -/
inductive CheckoutError
  | planNotFound
  | freePlan
  | periodNotFound
  | invalidPromo
  | zeroAmount
  deriving DecidableEq, Repr

def CheckoutError.message : CheckoutError → String
  | .planNotFound => "plan not found"
  | .freePlan => "free plan does not require checkout"
  | .periodNotFound => "billing period not found"
  | .invalidPromo => "invalid promo code"
  | .zeroAmount => "computed amount is zero — refusing to create invoice"

/-! ## Promo codes -/

/-- `promo_service._normalize`. -/
def normalizePromo (code : String) : String :=
  Python.upper (Python.strip code)

/-- `promo.max_uses is None or promo.used_count < promo.max_uses`. -/
def PromoCode.hasUses (promo : PromoCode) : Bool :=
  match promo.maxUses with
  | none => true
  | some maxUses => promo.usedCount < maxUses

/-- The per-user cap, against the number of the user's usages. -/
def PromoCode.userMayUse (promo : PromoCode) (used : Nat) : Bool :=
  match promo.perUserMaxUses with
  | none => true
  | some perUser => perUser == 0 || used < perUser

/-- What `is_eligible` checks on the row. -/
def PromoCode.eligibleRow (promo : PromoCode) (planId userId : Nat) (now : Time) : Bool :=
  promo.isActive &&
    (match promo.expiresAt with
      | none => true
      | some expiresAt => now < expiresAt) &&
    promo.hasUses &&
    (match promo.targetUserId with
      | none => true
      | some target => userId == target) &&
    (promo.appliesToPlanIds.isEmpty || promo.appliesToPlanIds.contains planId)

/-! ## Activation -/

/-- A day, in seconds. -/
def day : Time := 86400

/-- `_activation_window`. -/
def activationWindow (period : BillingPeriod) : Time :=
  period.months * 30 * day

/-- Until when `_activate_user` extends the plan. -/
def activatedUntil (sub : Subscription) (period : Option BillingPeriod)
    (promo : Option PromoCode) (now : Time) : Time :=
  let baseUntil := max (sub.planExpiresAt.getD now) now
  let window := match period with
    | some period => activationWindow period
    | none => 30 * day
  baseUntil + window + ((promo.map PromoCode.bonusDays).getD 0 : Nat) * day

/-- The kinds of a webhook. -/
inductive Delivery
  | paid
  /-- The invoice will not be paid; the status to write. -/
  | closed (status : PaymentStatus)
  | refund
  | unknown
  deriving DecidableEq, Repr

/-- The branch of `verify_and_apply_webhook` that a status takes. -/
def Delivery.ofStatus (status : String) : Delivery :=
  let s := Python.lower status
  if s = "paid" ∨ s = "success" then .paid
  else if s = "canceled" ∨ s = "cancelled" ∨ s = "expired" then .closed .expired
  else if s = "failed" then .closed .failed
  else if s = "refunded" ∨ s = "chargeback" ∨ s = "reversed" then .refund
  else .unknown

end Avalant
