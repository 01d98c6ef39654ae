import Avalant.Db.Models
import Avalant.Wallets.Service

/-!
`services/plan_service.py`: the plan of a user, and the limits that follow from
it.

The rows are those that `plan_service` sees: it keeps them in a cache of its
own, so they may be older than the table.
-/

namespace Avalant

namespace Subscriptions

/-! ## Rows -/

structure PlanRow where
  id : Nat
  slug : String
  name : String := ""
  isFree : Bool := false
  isActive : Bool := true
  portfolioLimit : ℤ := 5
  portfolioLimitGrace : ℤ := 5
  exchangeKeysPerVenue : ℤ := 1
  tradeDelayMs : ℤ := 0
  maxSpreadPct : ℚ := 100
  allowTpSlOrders : Bool := true
  hasPortfolio : Bool := true
  sortOrder : ℤ := 0
  deriving DecidableEq, Repr

/-- The columns of `users` that the plan depends on. -/
structure PlanUser where
  id : Nat
  isAdmin : Bool := false
  planId : Option Nat := none
  plan : String := "basic"
  planExpiresAt : Option Time := none
  deriving DecidableEq, Repr

/-! ## The plan of a user -/

def getPlan (plans : List PlanRow) (planId : Nat) : Option PlanRow :=
  plans.find? fun plan => plan.id = planId

def getPlanBySlug (plans : List PlanRow) (slug : String) : Option PlanRow :=
  plans.find? fun plan => plan.slug = slug

/-- `ORDER BY sort_order, id`. -/
def PlanRow.comesFirst (plan plan' : PlanRow) : Bool :=
  plan.sortOrder < plan'.sortOrder ∨ plan.sortOrder = plan'.sortOrder ∧ plan.id ≤ plan'.id

def getFreePlan (plans : List PlanRow) : Option PlanRow :=
  ((plans.filter fun plan => plan.isFree && plan.isActive).mergeSort PlanRow.comesFirst).head?

/-- `get_user_plan`; `none` when it raises. -/
def getUserPlan (plans : List PlanRow) (user : PlanUser) : Option PlanRow :=
  (((user.planId.filter (· ≠ 0)).bind (getPlan plans)).filter PlanRow.isActive).or
    (getFreePlan plans)

structure EffectiveLimits where
  planId : Nat
  planSlug : String
  planName : String
  isFree : Bool
  isExpired : Bool
  hasPortfolio : Bool
  portfolioLimit : ℤ
  exchangeKeysPerVenue : ℤ
  tradeDelayMs : ℤ
  maxSpreadPct : ℚ
  allowTpSlOrders : Bool
  expiresAt : Option Time
  deriving DecidableEq, Repr

/-- `x or default`, of a number. -/
def orNumber (x default : ℚ) : ℚ := if x = 0 then default else x

/-- Whether the paid period of a plan is over. -/
def isExpired (plan : PlanRow) (user : PlanUser) (now : Time) : Bool :=
  !plan.isFree && user.planExpiresAt.any fun expires => expires ≤ now

/-- The plan whose limits apply: admins have those of the plan `unlim`. -/
def limitsPlan (plans : List PlanRow) (user : PlanUser) (plan : PlanRow) : PlanRow :=
  if user.isAdmin then (getPlanBySlug plans "unlim").getD plan else plan

/-- `effective_limits`; `none` when it raises. -/
def effectiveLimits (plans : List PlanRow) (user : PlanUser) (now : Time) :
    Option EffectiveLimits :=
  (getUserPlan plans user).map fun own =>
    let plan := limitsPlan plans user own
    let free := (getFreePlan plans).getD plan
    let expired := isExpired plan user now
    { planId := plan.id, planSlug := plan.slug, planName := plan.name, isFree := plan.isFree
      isExpired := expired
      hasPortfolio := plan.hasPortfolio
      portfolioLimit := if expired then plan.portfolioLimitGrace else plan.portfolioLimit
      exchangeKeysPerVenue :=
        if expired then free.exchangeKeysPerVenue else plan.exchangeKeysPerVenue
      tradeDelayMs := if expired then free.tradeDelayMs else plan.tradeDelayMs
      maxSpreadPct :=
        if expired then orNumber free.maxSpreadPct 10 else orNumber plan.maxSpreadPct 100
      allowTpSlOrders := if expired then free.allowTpSlOrders else plan.allowTpSlOrders
      expiresAt := user.planExpiresAt }

/-- The two limits that the wallets look at. -/
def EffectiveLimits.wallets (limits : EffectiveLimits) : Wallets.WalletLimits :=
  ⟨limits.portfolioLimit, limits.exchangeKeysPerVenue⟩

/-- A user without an expiry has the limits of the plan. -/
theorem effectiveLimits_of_plan {plans : List PlanRow} {user : PlanUser} {plan : PlanRow}
    (now : Time) (own : getUserPlan plans user = some plan) (common : user.isAdmin = false)
    (lasting : user.planExpiresAt = none) :
    ∃ limits, effectiveLimits plans user now = some limits ∧
      limits.wallets = ⟨plan.portfolioLimit, plan.exchangeKeysPerVenue⟩ := by
  have here : limitsPlan plans user plan = plan := if_neg (by rw [common]; exact Bool.false_ne_true)
  have fresh : isExpired plan user now = false := by
    unfold isExpired
    rw [lasting]
    exact Bool.and_false _
  refine ⟨_, congrArg (Option.map _) own, ?_⟩
  simp only [EffectiveLimits.wallets, here, fresh, Bool.false_eq_true, if_false]

end Subscriptions

end Avalant
