import Avalant.Billing.System

/-!
What one statement of the billing service does, by cases, and what that leaves of
each payment's status.
-/

namespace Avalant

open Relational Transition

namespace BillingDb

variable {db db' : BillingDb} {others : List BillingTask} {input : BillingInput}
  {task : BillingTask} {rest : Option BillingTask}

/-- The statements that do something, and where they leave the transaction. -/
inductive Effect (db : BillingDb) (others : List BillingTask) (input : BillingInput) :
    BillingTask → BillingDb → Option BillingTask → Prop
  /-- The transaction ends and has written nothing. -/
  | stop (task : BillingTask) : Effect db others input task db none
  | noPromo (checkout : Checkout) :
      Effect db others input (.readPromo checkout) db (some (.readPrice checkout none))
  | foundPromo (checkout : Checkout) (promo : PromoCode)
      (stored : db.promos.get? promo.id = some promo) (uses : promo.hasUses = true) :
      Effect db others input (.readPromo checkout) db (some (.countPromo checkout promo))
  | mayUse (checkout : Checkout) (promo : PromoCode)
      (room : promo.userMayUse (db.promoUsesBy promo.id checkout.body.userId) = true) :
      Effect db others input (.countPromo checkout promo) db
        (some (.readPrice checkout (some promo)))
  | priced (checkout : Checkout) (promo : Option PromoCode) (pricing : Pricing)
      (given : db.price checkout promo = .ok pricing) :
      Effect db others input (.readPrice checkout promo) db
        (some (.insertPayment checkout promo pricing (db.discountCode checkout.body.userId)))
  | inserted (checkout : Checkout) (promo : Option PromoCode) (pricing : Pricing)
      (code : Option Nat) :
      Effect db others input (.insertPayment checkout promo pricing code)
        (db.insertPayment checkout promo pricing code input.invoice) none
  | opened {invoice status : String} {payment : PaymentRow}
      (stored : db.payments.get? payment.id = some payment)
      (unlocked : isLocked others payment.id = false)
      (waiting : ¬(payment.status = .paid ∨ payment.status = .refunded)) :
      Effect db others input (.lockPayment invoice status) db
        (some (.readPaidPromo { payment with status := .paid, paidAt := some input.now }))
  | closed {invoice status : String} {payment : PaymentRow} {final : PaymentStatus}
      (stored : db.payments.get? payment.id = some payment)
      (pending : payment.status = .pending) (unpaid : final = .failed ∨ final = .expired) :
      Effect db others input (.lockPayment invoice status) (db.close payment.id final) none
  | refunding {invoice status : String} {payment : PaymentRow} (reason : Option String)
      (stored : db.payments.get? payment.id = some payment)
      (unlocked : isLocked others payment.id = false) (paid : payment.status = .paid) :
      Effect db others input (.lockPayment invoice status) db
        (some (.commitRefund payment reason true))
  | ignored {invoice status : String} {payment : PaymentRow}
      (stored : db.payments.get? payment.id = some payment) (unpaid : payment.status ≠ .paid) :
      Effect db others input (.lockPayment invoice status)
        (db.recordRefund payment.id payment.status) none
  | paidPromo (payment : PaymentRow) :
      Effect db others input (.readPaidPromo payment) db
        (some (.readUser payment (payment.promoCodeId.bind db.promos.get?)))
  | user {payment : PaymentRow} {promo : Option PromoCode} {sub : Subscription} {user : User}
      (stored : db.ledger.users.get? payment.userId = some user) :
      Effect db others input (.readUser payment promo) db
        (some (.countUsages payment promo sub user))
  | counted (payment : PaymentRow) (promo : Option PromoCode) (sub : Subscription) (user : User) :
      Effect db others input (.countUsages payment promo sub user) db
        (some (.commitPaid payment promo sub (db.ledger.splitRows user payment.toPayment)))
  | activated (payment : PaymentRow) (promo : Option PromoCode) (sub : Subscription)
      (split : SplitRows) :
      Effect db others input (.commitPaid payment promo sub split)
        (db.activate payment promo sub split input.now) none
  | adminRefund {paymentId : Nat} {payment : PaymentRow} (reason : Option String)
      (stored : db.payments.get? payment.id = some payment) (paid : payment.status = .paid) :
      Effect db others input (.readRefund paymentId reason) db
        (some (.commitRefund payment reason false))
  | refunded (payment : PaymentRow) (reason : Option String) (locked : Bool)
      (unlocked : isLocked others payment.id = false) :
      Effect db others input (.commitRefund payment reason locked)
        (db.refund payment reason input.minPayout input.now)
        (some (.reverseUsage payment.id reason))
  | usageReversed (paymentId : Nat) (reason : Option String) :
      Effect db others input (.reverseUsage paymentId reason)
        { db with ledger := db.ledger.reverseUsage paymentId reason input.now } none
  | payout {op : LedgerOp} {ledger : Ledger} (done : db.ledger.step op = some ledger) :
      Effect db others input (.payout op) { db with ledger } none

/-- The promo row a checkout goes on with. -/
theorem findPromo_stored {code : String} {planId userId : Nat} {now : Time} {promo : PromoCode}
    (found : db.findPromo code planId userId now = .ok promo) :
    db.promos.get? promo.id = some promo ∧ promo.hasUses = true := by
  unfold findPromo at found
  split at found
  · cases found
  case h_2 known =>
    cases found
    obtain ⟨stored, eligible⟩ := Option.filter_eq_some_iff.mp known
    refine ⟨Table.mem_rows_iff.mp (List.mem_of_find?_eq_some stored), ?_⟩
    simp only [PromoCode.eligibleRow, Bool.and_eq_true] at eligible
    exact eligible.1.1.2

theorem byInvoice_stored {invoice : String} {payment : PaymentRow}
    (found : db.byInvoice invoice = some payment) : db.payments.get? payment.id = some payment :=
  Table.mem_rows_iff.mp (List.mem_of_find?_eq_some found)

theorem ofStatus_closed {status : String} {final : PaymentStatus}
    (closed : Delivery.ofStatus status = .closed final) : final = .failed ∨ final = .expired := by
  unfold Delivery.ofStatus at closed
  dsimp only at closed
  split at closed
  · cases closed
  split at closed
  · cases closed
    exact Or.inr rfl
  split at closed
  · cases closed
    exact Or.inl rfl
  split at closed
  · cases closed
  · cases closed

theorem effect_of_next (done : db.next others input task = some (db', rest)) :
    Effect db others input task db' rest := by
  cases task with
  | readPromo checkout =>
      simp only [next] at done
      split at done
      · cases done
        exact .noPromo checkout
      split at done
      · cases done
        exact .stop _
      case h_2 found =>
        cases done
        obtain ⟨stored, uses⟩ := findPromo_stored found
        exact .foundPromo checkout _ stored uses
  | countPromo checkout promo =>
      simp only [next] at done
      split at done
      case isTrue room =>
        cases done
        exact .mayUse checkout promo room
      · cases done
        exact .stop _
  | readPrice checkout promo =>
      simp only [next] at done
      split at done
      · cases done
        exact .stop _
      case h_2 given =>
        cases done
        exact .priced checkout promo _ given
  | insertPayment checkout promo pricing code =>
      cases done
      exact .inserted checkout promo pricing code
  | lockPayment invoice status =>
      simp only [next] at done
      split at done
      · cases done
        exact .stop _
      case h_2 payment found =>
        have stored := byInvoice_stored found
        split at done
        · cases done
        case isFalse free =>
          have unlocked : isLocked others payment.id = false := by simpa using free
          unfold deliver at done
          split at done
          · split at done
            · cases done
              exact .stop _
            case isFalse waiting =>
              cases done
              exact .opened stored unlocked waiting
          case h_2 final closed =>
            split at done
            case isTrue pending =>
              cases done
              exact .closed stored pending (ofStatus_closed closed)
            · cases done
              exact .stop _
          · split at done
            case isTrue paid =>
              cases done
              exact .refunding _ stored unlocked paid
            case isFalse unpaid =>
              cases done
              exact .ignored stored unpaid
          · cases done
            exact .stop _
  | readPaidPromo payment =>
      cases done
      exact .paidPromo payment
  | readUser payment promo =>
      simp only [next] at done
      split at done
      case h_1 found =>
        cases done
        exact .user found
      · cases done
        exact .stop _
  | countUsages payment promo sub user =>
      cases done
      exact .counted payment promo sub user
  | commitPaid payment promo sub split =>
      cases done
      exact .activated payment promo sub split
  | readRefund paymentId reason =>
      simp only [next] at done
      split at done
      · cases done
        exact .stop _
      case h_2 payment found =>
        have stored : db.payments.get? payment.id = some payment := by
          rw [← Table.key_of_get? found] at found
          exact found
        split at done
        case isTrue paid =>
          cases done
          exact .adminRefund reason stored paid
        · cases done
          exact .stop _
  | commitRefund payment reason locked =>
      simp only [next] at done
      split at done
      · cases done
      case isFalse free =>
        cases done
        exact .refunded payment reason locked (by simpa using free)
  | reverseUsage paymentId reason =>
      cases done
      exact .usageReversed paymentId reason
  | payout op =>
      cases stepped : db.ledger.step op with
      | none =>
          simp only [next, stepped, Option.getD_none] at done
          cases done
          exact .stop _
      | some ledger =>
          simp only [next, stepped, Option.getD_some] at done
          cases done
          exact .payout stepped

/-- The first task of a request holds no row. -/
theorem start_cases {request : BillingRequest} (started : db.start request = some task) :
    (∃ checkout, task = .readPromo checkout) ∨ (∃ invoice status, task = .lockPayment invoice status) ∨
      (∃ paymentId reason, task = .readRefund paymentId reason) ∨
      ∃ op : LedgerOp, op.onPayouts = true ∧ task = .payout op := by
  cases request with
  | checkout body =>
      obtain ⟨checkout, -, rfl⟩ := Option.map_eq_some_iff.mp started
      exact Or.inl ⟨checkout, rfl⟩
  | webhook invoice status =>
      cases started
      exact Or.inr (Or.inl ⟨invoice, status, rfl⟩)
  | adminRefund paymentId reason =>
      cases started
      exact Or.inr (Or.inr (Or.inl ⟨paymentId, reason, rfl⟩))
  | payout op =>
      change (if op.onPayouts then some (.payout op) else none) = some task at started
      split at started
      case isTrue onPayouts =>
        cases started
        exact Or.inr (Or.inr (Or.inr ⟨op, onPayouts, rfl⟩))
      case isFalse => cases started

/-- The plan and the period of a checkout are the stored ones. -/
structure Stands (db : BillingDb) (checkout : Checkout) : Prop where
  plan : db.plans.get? checkout.plan.id = some checkout.plan
  period : db.periods.get? checkout.period.id = some checkout.period

theorem start_stands {request : BillingRequest} {checkout : Checkout}
    (started : db.start request = some (.readPromo checkout)) : db.Stands checkout := by
  cases request with
  | checkout body =>
      obtain ⟨found, accepted, same⟩ := Option.map_eq_some_iff.mp started
      cases same
      have given := Ledger.ok_of_toOption accepted
      unfold findCheckout at given
      split at given
      · cases given
      case h_2 plan planned =>
        split at given
        · cases given
        split at given
        · cases given
        case h_2 period timed =>
          cases given
          have stored := (Option.filter_eq_some_iff.mp planned).1
          have stored' := (Option.filter_eq_some_iff.mp timed).1
          refine ⟨?_, ?_⟩
          · change db.plans.get? (key plan) = some plan
            rw [Table.key_of_get? stored]
            exact stored
          · change db.periods.get? (key period) = some period
            rw [Table.key_of_get? stored']
            exact stored'
  | webhook invoice status => cases started
  | adminRefund paymentId reason => cases started
  | payout op =>
      change (if op.onPayouts then some (BillingTask.payout op) else none) = some _ at started
      split at started
      · cases started
      · cases started

/-! ## The status of a payment -/

def statusOf (db : BillingDb) (paymentId : Nat) : Option PaymentStatus :=
  (db.payments.get? paymentId).map PaymentRow.status

/-- Not paid yet, and not refunded. -/
def Waiting (db : BillingDb) (paymentId : Nat) : Prop :=
  ∃ status, db.statusOf paymentId = some status ∧ status ≠ .paid ∧ status ≠ .refunded

def Settled (db : BillingDb) (paymentId : Nat) : Prop :=
  db.statusOf paymentId = some .paid ∨ db.statusOf paymentId = some .refunded

theorem statusOf_of_stored {payment : PaymentRow}
    (stored : db.payments.get? payment.id = some payment) :
    db.statusOf payment.id = some payment.status := by
  simp [statusOf, stored]

theorem Waiting.not_settled {paymentId : Nat} (waiting : db.Waiting paymentId) :
    ¬db.Settled paymentId := by
  obtain ⟨status, same, unpaid, unrefunded⟩ := waiting
  intro either
  rcases either with paid | refunded
  · exact unpaid (Option.some.inj (same.symm.trans paid))
  · exact unrefunded (Option.some.inj (same.symm.trans refunded))

theorem Waiting.known {paymentId : Nat} (waiting : db.Waiting paymentId) :
    (db.statusOf paymentId).isSome := by
  obtain ⟨status, same, -⟩ := waiting
  simp [same]

theorem Settled.known {paymentId : Nat} (settled : db.Settled paymentId) :
    (db.statusOf paymentId).isSome := by
  rcases settled with paid | refunded
  · simp [paid]
  · simp [refunded]

theorem statusOf_update (db : BillingDb) (target : Nat) (set : PaymentRow → PaymentRow)
    (keeps : ∀ p, (set p).id = p.id) (paymentId : Nat) :
    (db.updatePayment target set keeps).statusOf paymentId =
      if paymentId = target then (db.payments.get? paymentId).map fun p => (set p).status
      else db.statusOf paymentId := by
  unfold statusOf updatePayment
  simp only [Table.get?_map, Option.map_map]
  cases found : db.payments.get? paymentId with
  | none => simp
  | some p =>
      have keyed : p.id = paymentId := Table.key_of_get? found
      by_cases same : paymentId = target
      · simp [keyed, same]
      · simp [keyed, same]

/-- A new payment is pending, under a free number. -/
theorem statusOf_insertPayment (db : BillingDb) (checkout : Checkout) (promo : Option PromoCode)
    (pricing : Pricing) (code : Option Nat) (invoice : Option String) :
    (∀ paymentId, (db.statusOf paymentId).isSome →
        (db.insertPayment checkout promo pricing code invoice).statusOf paymentId =
          db.statusOf paymentId) ∧
      ∀ paymentId, db.statusOf paymentId = none →
        (db.insertPayment checkout promo pricing code invoice).statusOf paymentId = none ∨
          (db.insertPayment checkout promo pricing code invoice).statusOf paymentId =
            some .pending := by
  unfold insertPayment
  split
  · exact ⟨fun _ _ => rfl, fun _ absent => Or.inl absent⟩
  · refine ⟨fun paymentId known => ?_, fun paymentId absent => ?_⟩
    · obtain ⟨status, same⟩ := Option.isSome_iff_exists.mp known
      obtain ⟨p, stored, rfl⟩ := Option.map_eq_some_iff.mp same
      simp [statusOf, stored]
    · have missing : db.payments.get? paymentId = none := by simpa [statusOf] using absent
      by_cases new : db.paymentSeq = paymentId
      · right
        simp [statusOf, new, missing]
      · left
        simp [statusOf, new, missing]

end BillingDb

end Avalant
