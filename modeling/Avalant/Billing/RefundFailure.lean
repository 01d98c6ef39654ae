import Avalant.Billing.Effects
import Avalant.Lib.UnitOfWork
import Avalant.Referral.Reversal

/-!
A refund with a statement that fails.

The reversal of the commission commits in the middle of the refund, with the status that later
calls stop at. The usage is reversed after that, and committed at the end. The handlers on the way
catch failures and never roll back. Where the reversal cancels a payout, it commits without the
stamp of the earning, whether a statement fails or not.
-/

namespace Avalant

open Relational

/-! ## The statements -/

inductive RefundStep
  | loadUser
  | flush
  | findEarning
  | findPayout
  | unlinkEarnings
  | reloadEarning
  | flushSibling
  | commitReversal
  | refreshEarning
  | loadReferrer
  | readBalance
  /-- The commit has expired the payment, whose id is read again. -/
  | reloadPayment
  | findUsage
  | flushUsage
  | commit
  deriving DecidableEq

/-- A call, and which of its statements fail. -/
structure RefundCall where
  reason : Option String
  minPayout : ℚ
  now : Time
  fails : RefundStep → Bool

namespace Ledger

/-- The earning of a payment that is to be reversed. -/
def openEarning (l : Ledger) (paymentId : Nat) : Option ReferralEarning :=
  (l.reversedEarning paymentId).filter (·.reversedAt.isNone)

/-- A usage of a payment that is to be reversed. -/
def openUsage (l : Ledger) (paymentId : Nat) : Bool :=
  l.usages.rows.any fun usage => usage.paymentId = some paymentId ∧ usage.reversedAt = none

/-- What `reverse_commission` reads of the payout, and what it writes of it at once. -/
def payoutSteps (l : Ledger) (earning : ReferralEarning) (minPayout : ℚ) : List RefundStep :=
  if earning.payoutRequestId.isSome then
    match reversalAction earning (earning.payoutRequestId.bind l.payouts.get?) minPayout with
    | .fromPendingCancelled _ _ _ => [.findPayout, .unlinkEarnings, .reloadEarning]
    | _ => [.findPayout]
  else []

/-- What it reads after its commit, and the payment that is read again. -/
def alertSteps (l : Ledger) (earning : ReferralEarning) : List RefundStep :=
  if (l.users.get? earning.referrerId).isSome then
    [.refreshEarning, .loadReferrer, .readBalance, .reloadPayment]
  else [.refreshEarning, .loadReferrer, .reloadPayment]

/-- The statements of a reversal up to its commit. -/
def reversalSteps (l : Ledger) (paymentId : Nat) (minPayout : ℚ) : List RefundStep :=
  [.findEarning] ++
    match l.openEarning paymentId with
    | none => []
    | some earning => l.payoutSteps earning minPayout ++ [.flushSibling, .commitReversal]

/-- Those after it. -/
def afterSteps (l : Ledger) (paymentId : Nat) : List RefundStep :=
  match l.openEarning paymentId with
  | none => []
  | some earning => l.alertSteps earning

def usageSteps (l : Ledger) (paymentId : Nat) : List RefundStep :=
  [.findUsage] ++ if l.openUsage paymentId then [.flushUsage] else []

end Ledger

namespace BillingDb

/-- The payment and the user's plan. -/
def markRefunded (db : BillingDb) (payment : PaymentRow) (call : RefundCall) : BillingDb :=
  (db.updatePayment payment.id
    (fun p =>
      { p with
        status := .refunded
        refundedAt := some call.now
        refundedReason := some (reversalReason call.reason) })
    fun _ => rfl).annulPlan payment.userId call.now

/-- All writes of `reverse_commission`. -/
def reverseCommission (db : BillingDb) (paymentId : Nat) (call : RefundCall) : BillingDb :=
  { db with
    ledger := (db.ledger.reverseCommission paymentId call.reason call.minPayout call.now).2 }

def reverseUsage (db : BillingDb) (paymentId : Nat) (call : RefundCall) : BillingDb :=
  { db with ledger := db.ledger.reverseUsage paymentId call.reason call.now }

/-- `reverse_commission` and its handler. -/
def reversal (u : UnitOfWork BillingDb) (paymentId : Nat) (call : RefundCall) :
    UnitOfWork BillingDb :=
  let u := u.queries call.fails [.findEarning]
  match u.working.ledger.openEarning paymentId with
  | none => u
  | some earning =>
      let u := u.queries call.fails (u.working.ledger.payoutSteps earning call.minPayout)
      let u := u.statement (call.fails .flushSibling) fun db => db.reverseCommission paymentId call
      let u := u.commit (call.fails .commitReversal)
      u.queries call.fails (u.working.ledger.alertSteps earning)

/-- The usage, and its handler. -/
def usageReversal (u : UnitOfWork BillingDb) (paymentId : Nat) (call : RefundCall) :
    UnitOfWork BillingDb :=
  let u := u.queries call.fails [.findUsage]
  if u.working.ledger.openUsage paymentId then
    u.statement (call.fails .flushUsage) fun db => db.reverseUsage paymentId call
  else u

/-- `refund_payment`: what is committed at its end. Whether a failure is caught makes no difference
to that, since nothing rolls back before the session is closed. -/
def refundPayment (db : BillingDb) (paymentId : Nat) (call : RefundCall) : BillingDb :=
  match db.payments.get? paymentId with
  | none => db
  | some payment =>
      if payment.status ≠ .paid then db
      else
        let u := (UnitOfWork.begin_ db).queries call.fails [.loadUser]
        let u := u.statement (call.fails .flush) fun db => db.markRefunded payment call
        let u := usageReversal (reversal u paymentId call) paymentId call
        (u.commit (call.fails .commit)).committed

/-- What the commit in the middle commits. -/
def midway (db : BillingDb) (payment : PaymentRow) (call : RefundCall) : BillingDb :=
  (db.markRefunded payment call).reverseCommission payment.id call

/-- What a call without a failure commits. -/
def whole (db : BillingDb) (payment : PaymentRow) (call : RefundCall) : BillingDb :=
  if db.ledger.openUsage payment.id then
    (db.midway payment call).reverseUsage payment.id call
  else db.midway payment call

/-! ## Whole refunds -/

/-- The payment is refunded, its earning and its usage are reversed, and its plan is annulled. The
earning has a negative sibling, and like the usage it is stamped. -/
structure FullyRefunded (db : BillingDb) (payment : PaymentRow) : Prop where
  status : db.statusOf payment.id = some .refunded
  sibling : db.ledger.CommissionReversed payment.id
  earning : db.ledger.openEarning payment.id = none
  usage : db.ledger.openUsage payment.id = false
  plan : ∃ now, (db.payments.get? payment.id).map PaymentRow.refundedAt = some (some now) ∧
    ∀ sub, db.subscriptions.get? payment.userId = some sub →
      sub.planExpiresAt = some now ∧ sub.autoRenew = false

/-- After a call the payment is fully refunded, or another call under the same payout minimum
completes what is missing. -/
def RefundsSafely (db : BillingDb) (payment : PaymentRow) (call : RefundCall) : Prop :=
  (db.refundPayment payment.id call).FullyRefunded payment ∨
    ∃ retry, retry.minPayout = call.minPayout ∧
      ((db.refundPayment payment.id call).refundPayment payment.id retry).FullyRefunded payment

/-- The statements up to the commit of the reversal. -/
def earlySteps (db : BillingDb) (paymentId : Nat) (call : RefundCall) : List RefundStep :=
  [.loadUser, .flush] ++ db.ledger.reversalSteps paymentId call.minPayout

/-- Those after it, up to the last commit. -/
def lateSteps (db : BillingDb) (paymentId : Nat) : List RefundStep :=
  db.ledger.afterSteps paymentId ++ (db.ledger.usageSteps paymentId ++ [.commit])

/-- Where there are a commission and a usage to reverse, the first failure is not between the two
commits. -/
def FailsWhole (db : BillingDb) (paymentId : Nat) (call : RefundCall) : Prop :=
  (db.ledger.openEarning paymentId).isSome = true → db.ledger.openUsage paymentId = true →
    (db.earlySteps paymentId call).any call.fails = false →
      (db.lateSteps paymentId).any call.fails = false

/-- The reversal cancels no payout, and no failure is between the two commits. -/
def RefundsWhole (db : BillingDb) (paymentId : Nat) (call : RefundCall) : Prop :=
  ¬db.ledger.CancelsPayout paymentId call.minPayout ∧ db.FailsWhole paymentId call

end BillingDb

/-- A payment that is paid. -/
structure PaidPayment where
  db : BillingDb
  payment : PaymentRow
  credited : db.ledger.Credited
  stored : db.payments.get? payment.id = some payment
  paid : payment.status = .paid

namespace BillingDb

variable {db : BillingDb} {payment : PaymentRow} {call : RefundCall} {paymentId : Nat}
  {u : UnitOfWork BillingDb}

/-! ## The reversal of the commission -/

theorem reverseCommission_of_closed (closed : db.ledger.openEarning paymentId = none) :
    db.reverseCommission paymentId call = db := by
  have same : (db.ledger.reverseCommission paymentId call.reason call.minPayout call.now).2 =
      db.ledger := by
    unfold Ledger.reverseCommission
    cases found : db.ledger.reversedEarning paymentId with
    | none => rfl
    | some earning =>
        have stamped : earning.reversedAt.isSome = true := by
          rw [Ledger.openEarning, found] at closed
          cases marked : earning.reversedAt with
          | none => simp [Option.filter, marked] at closed
          | some at_ => rfl
        exact congrArg Prod.snd (if_pos stamped)
  unfold reverseCommission
  rw [same]

/-- A reversal leaves the users, so what is read after its commit does not depend on it. -/
theorem alertSteps_reverseCommission (credited : db.ledger.Credited) (earning : ReferralEarning) :
    (db.reverseCommission paymentId call).ledger.alertSteps earning =
      db.ledger.alertSteps earning := by
  have users := (Ledger.reverseCommission_frame credited paymentId call.reason call.minPayout
    call.now).1
  unfold Ledger.alertSteps
  rw [show (db.reverseCommission paymentId call).ledger.users = db.ledger.users from users]

theorem reversal_of_closed (closed : u.working.ledger.openEarning paymentId = none) :
    reversal u paymentId call = u.queries call.fails [.findEarning] := by
  unfold reversal
  dsimp only
  rw [UnitOfWork.queries_working, closed]

theorem reversal_aborted (credited : u.working.ledger.Credited) (paymentId : Nat)
    (call : RefundCall) :
    (reversal u paymentId call).aborted =
      (u.aborted || (u.working.ledger.reversalSteps paymentId call.minPayout).any call.fails ||
        (u.working.ledger.afterSteps paymentId).any call.fails) := by
  cases found : u.working.ledger.openEarning paymentId with
  | none =>
      rw [reversal_of_closed found, UnitOfWork.queries_aborted]
      simp [Ledger.reversalSteps, Ledger.afterSteps, found]
  | some earning =>
      unfold reversal
      dsimp only
      rw [UnitOfWork.queries_working, found]
      simp only [UnitOfWork.queries_aborted, UnitOfWork.commit_aborted,
        UnitOfWork.statement_aborted, UnitOfWork.commit_working, UnitOfWork.statement_working,
        UnitOfWork.queries_working]
      have reads : ∀ failed : Bool, (if failed = true then u.working
          else u.working.reverseCommission paymentId call).ledger.alertSteps earning =
            u.working.ledger.alertSteps earning := by
        intro failed
        cases failed with
        | false => exact alertSteps_reverseCommission credited earning
        | true => rfl
      rw [reads]
      simp only [Ledger.reversalSteps, Ledger.afterSteps, found, List.any_append, List.any_cons,
        List.any_nil, Bool.or_false, Bool.or_assoc]

theorem reversal_working
    (fine : (u.aborted ||
      (u.working.ledger.reversalSteps paymentId call.minPayout).any call.fails) = false) :
    (reversal u paymentId call).working = u.working.reverseCommission paymentId call := by
  cases found : u.working.ledger.openEarning paymentId with
  | none =>
      rw [reversal_of_closed found, UnitOfWork.queries_working,
        reverseCommission_of_closed found]
  | some earning =>
      rw [Ledger.reversalSteps, found] at fine
      simp only [List.any_append, List.any_cons, List.any_nil, Bool.or_false,
        Bool.or_eq_false_iff] at fine
      obtain ⟨running, findFine, payoutFine, flushFine, -⟩ := fine
      unfold reversal
      dsimp only
      rw [UnitOfWork.queries_working, found]
      simp [UnitOfWork.statement_working, running, findFine, payoutFine, flushFine]

/-- A reversal commits when it has an earning to reverse and nothing fails up to there. -/
theorem reversal_committed (u : UnitOfWork BillingDb) (paymentId : Nat) (call : RefundCall) :
    (reversal u paymentId call).committed =
      if (u.working.ledger.openEarning paymentId).isSome = true ∧ (u.aborted ||
          (u.working.ledger.reversalSteps paymentId call.minPayout).any call.fails) = false
      then u.working.reverseCommission paymentId call
      else u.committed := by
  cases found : u.working.ledger.openEarning paymentId with
  | none =>
      rw [reversal_of_closed found, UnitOfWork.queries_committed, if_neg]
      intro both
      cases both.1
  | some earning =>
      have steps : (u.aborted || (u.working.ledger.reversalSteps paymentId call.minPayout).any
          call.fails) = (u.aborted || call.fails .findEarning ||
            (u.working.ledger.payoutSteps earning call.minPayout).any call.fails ||
              call.fails .flushSibling || call.fails .commitReversal) := by
        simp only [Ledger.reversalSteps, found, List.any_append, List.any_cons, List.any_nil,
          Bool.or_false, Bool.or_assoc]
      rw [steps]
      unfold reversal
      dsimp only
      rw [UnitOfWork.queries_working, found]
      simp only [UnitOfWork.queries_committed, UnitOfWork.commit_committed,
        UnitOfWork.statement_committed, UnitOfWork.statement_aborted, UnitOfWork.queries_aborted,
        UnitOfWork.statement_working, UnitOfWork.queries_working, List.any_cons, List.any_nil,
        Bool.or_false, Option.isSome_some, true_and]
      cases flushed : (u.aborted || call.fails .findEarning ||
          (u.working.ledger.payoutSteps earning call.minPayout).any call.fails ||
            call.fails .flushSibling) with
      | false => cases call.fails .commitReversal <;> simp
      | true => simp

/-! ## The usage and the last commit -/

theorem usageReversal_commit (u : UnitOfWork BillingDb) (paymentId : Nat) (call : RefundCall) :
    ((usageReversal u paymentId call).commit (call.fails .commit)).committed =
      if u.aborted || (u.working.ledger.usageSteps paymentId ++ [RefundStep.commit]).any call.fails then
        u.committed
      else if u.working.ledger.openUsage paymentId then u.working.reverseUsage paymentId call
      else u.working := by
  unfold usageReversal
  dsimp only
  rw [UnitOfWork.queries_working, UnitOfWork.commit_committed]
  cases used : u.working.ledger.openUsage paymentId with
  | false => simp [Ledger.usageSteps, used, Bool.or_assoc]
  | true =>
      simp only [Ledger.usageSteps, used, UnitOfWork.statement_committed,
        UnitOfWork.statement_aborted, UnitOfWork.statement_working, UnitOfWork.queries_committed,
        UnitOfWork.queries_aborted, UnitOfWork.queries_working, List.any_append, List.any_cons,
        List.any_nil, Bool.or_false, if_true, ← Bool.or_assoc]
      cases flushed : (u.aborted || call.fails .findUsage || call.fails .flushUsage) with
      | false => cases call.fails .commit <;> rfl
      | true => rfl

/-! ## What a refund commits -/

@[simp] theorem markRefunded_ledger (db : BillingDb) (payment : PaymentRow) (call : RefundCall) :
    (db.markRefunded payment call).ledger = db.ledger :=
  rfl

/-- The reversal leaves the usages. -/
theorem midway_openUsage (credited : db.ledger.Credited) (payment : PaymentRow) (call : RefundCall)
    (paymentId : Nat) :
    (db.midway payment call).ledger.openUsage paymentId = db.ledger.openUsage paymentId := by
  have usages := (Ledger.reverseCommission_spec credited payment.id call.reason call.minPayout
    call.now).2.2.2.2
  unfold Ledger.openUsage
  exact congrArg (fun usages : Table ReferralCodeUsage => usages.rows.any _) usages

theorem refundPayment_of_unpaid (unpaid : db.statusOf paymentId ≠ some .paid) :
    db.refundPayment paymentId call = db := by
  unfold refundPayment
  cases found : db.payments.get? paymentId with
  | none => rfl
  | some payment =>
      refine if_pos fun paid => unpaid ?_
      rw [statusOf, found, Option.map_some, paid]

/-- The transaction with the payment marked, before the reversal. -/
def marking (s : PaidPayment) (call : RefundCall) : UnitOfWork BillingDb :=
  ((UnitOfWork.begin_ s.db).queries call.fails [.loadUser]).statement (call.fails .flush)
    fun db => db.markRefunded s.payment call

theorem refundPayment_of_paid (s : PaidPayment) (call : RefundCall) :
    s.db.refundPayment s.payment.id call =
      ((usageReversal (reversal (marking s call) s.payment.id call) s.payment.id call).commit
        (call.fails .commit)).committed := by
  unfold refundPayment
  rw [s.stored]
  exact if_neg fun unpaid => unpaid s.paid

theorem marking_committed (s : PaidPayment) (call : RefundCall) :
    (marking s call).committed = s.db := by
  unfold marking
  rw [UnitOfWork.statement_committed, UnitOfWork.queries_committed]
  rfl

theorem marking_working (s : PaidPayment) (call : RefundCall) :
    (marking s call).working =
      if (marking s call).aborted then s.db else s.db.markRefunded s.payment call := by
  unfold marking
  rw [UnitOfWork.statement_working, UnitOfWork.statement_aborted, UnitOfWork.queries_working]
  rfl

theorem marking_ledger (s : PaidPayment) (call : RefundCall) :
    (marking s call).working.ledger = s.db.ledger := by
  rw [marking_working]
  split
  · rfl
  · rfl

/-- The steps up to the commit of the reversal. -/
theorem marking_early (s : PaidPayment) (call : RefundCall) :
    ((marking s call).aborted ||
      ((marking s call).working.ledger.reversalSteps s.payment.id call.minPayout).any call.fails) =
        (s.db.earlySteps s.payment.id call).any call.fails := by
  rw [marking_ledger]
  unfold marking
  rw [UnitOfWork.statement_aborted, UnitOfWork.queries_aborted]
  simp only [UnitOfWork.begin_, earlySteps, List.any_append, List.any_cons, List.any_nil,
    Bool.or_false, Bool.false_or]

/-- The reversal leaves the usage, and what is read of it. -/
theorem midway_usageSteps (s : PaidPayment) (call : RefundCall) :
    (s.db.midway s.payment call).ledger.usageSteps s.payment.id =
      s.db.ledger.usageSteps s.payment.id := by
  unfold Ledger.usageSteps
  rw [midway_openUsage s.credited]

theorem refundPayment_eq (s : PaidPayment) (call : RefundCall) :
    s.db.refundPayment s.payment.id call =
      if (s.db.earlySteps s.payment.id call).any call.fails then s.db
      else if (s.db.lateSteps s.payment.id).any call.fails then
        if (s.db.ledger.openEarning s.payment.id).isSome then s.db.midway s.payment call else s.db
      else s.db.whole s.payment call := by
  rw [refundPayment_of_paid, usageReversal_commit]
  have ledger := marking_ledger s call
  have early := marking_early s call
  have aborted := reversal_aborted (ledger ▸ s.credited : (marking s call).working.ledger.Credited)
    s.payment.id call
  rw [early, ledger] at aborted
  have committed := reversal_committed (marking s call) s.payment.id call
  rw [early, ledger, marking_committed] at committed
  cases failed : (s.db.earlySteps s.payment.id call).any call.fails with
  | true =>
      rw [failed] at aborted committed
      rw [aborted, committed]
      simp
  | false =>
      rw [failed] at early aborted committed
      have running : (marking s call).aborted = false := (Bool.or_eq_false_iff.mp early).1
      have marks : (marking s call).working = s.db.markRefunded s.payment call := by
        rw [marking_working, running]
        rfl
      have reversed : (reversal (marking s call) s.payment.id call).working =
          s.db.midway s.payment call := by
        rw [reversal_working early, marks]
        rfl
      rw [aborted, committed, reversed, midway_usageSteps, midway_openUsage s.credited, marks,
        Bool.false_or, ← List.any_append]
      simp only [and_true]
      rfl

/-! ## Fully refunded -/

theorem whole_payments (db : BillingDb) (payment : PaymentRow) (call : RefundCall) :
    (db.whole payment call).payments = (db.markRefunded payment call).payments ∧
      (db.whole payment call).subscriptions = (db.markRefunded payment call).subscriptions := by
  unfold whole
  split
  · exact ⟨rfl, rfl⟩
  · exact ⟨rfl, rfl⟩

/-- The commission is reversed from the middle commit on. -/
theorem whole_reversed (s : PaidPayment) (call : RefundCall) :
    (s.db.whole s.payment call).ledger.CommissionReversed s.payment.id := by
  have reversed := (Ledger.reverseCommission_spec s.credited s.payment.id call.reason
    call.minPayout call.now).2.1
  unfold whole
  split
  · exact reversed
  · exact reversed

theorem reverseUsage_closes (l : Ledger) (paymentId : Nat) (reason : Option String) (now : Time) :
    (l.reverseUsage paymentId reason now).openUsage paymentId = false := by
  refine List.any_eq_false.mpr fun usage member still => ?_
  obtain ⟨old, -, rfl⟩ := List.mem_map.mp member
  rw [decide_eq_true_eq] at still
  split at still
  · cases still.2
  case isFalse open_ => exact open_ still

theorem whole_openUsage (s : PaidPayment) (call : RefundCall) :
    (s.db.whole s.payment call).ledger.openUsage s.payment.id = false := by
  unfold whole
  split
  · exact reverseUsage_closes _ _ _ _
  case isFalse closed =>
    rw [midway_openUsage s.credited s.payment call, Bool.eq_false_iff]
    exact closed

theorem markRefunded_stored (s : PaidPayment) (call : RefundCall) :
    (s.db.markRefunded s.payment call).payments.get? s.payment.id =
      some { s.payment with
        status := .refunded
        refundedAt := some call.now
        refundedReason := some (reversalReason call.reason) } := by
  unfold markRefunded annulPlan updatePayment
  rw [Table.get?_map, s.stored]
  exact congrArg some (if_pos rfl)

/-- Neither the plan nor the usage has to do with the earning. -/
theorem openEarning_whole (s : PaidPayment) (call : RefundCall) :
    (s.db.whole s.payment call).ledger.openEarning s.payment.id =
      (s.db.midway s.payment call).ledger.openEarning s.payment.id := by
  unfold whole
  split
  · rfl
  · rfl

theorem midway_openEarning_of_spared (s : PaidPayment) {call : RefundCall}
    (spared : ¬s.db.ledger.CancelsPayout s.payment.id call.minPayout) :
    (s.db.midway s.payment call).ledger.openEarning s.payment.id = none := by
  refine Option.filter_eq_none_iff.mpr fun e read => ?_
  have marked := Ledger.stamped_of_spared spared call.reason call.now read
  simpa using Option.isSome_iff_ne_none.mp marked

theorem midway_openEarning_of_cancels (s : PaidPayment) {call : RefundCall}
    (cancels : s.db.ledger.CancelsPayout s.payment.id call.minPayout) :
    ((s.db.midway s.payment call).ledger.openEarning s.payment.id).isSome = true := by
  obtain ⟨e, read, unstamped, -⟩ := Ledger.unstamped_of_cancels cancels call.reason call.now
  have open_ : (s.db.midway s.payment call).ledger.openEarning s.payment.id = some e :=
    Option.filter_eq_some_iff.mpr ⟨read, by simp [unstamped]⟩
  rw [open_]
  rfl

theorem whole_fullyRefunded (s : PaidPayment) {call : RefundCall}
    (spared : ¬s.db.ledger.CancelsPayout s.payment.id call.minPayout) :
    (s.db.whole s.payment call).FullyRefunded s.payment := by
  have rows := whole_payments s.db s.payment call
  have closed : (s.db.whole s.payment call).ledger.openEarning s.payment.id = none :=
    (openEarning_whole s call).trans (midway_openEarning_of_spared s spared)
  refine ⟨?_, whole_reversed s call, closed, whole_openUsage s call, call.now, ?_,
    fun sub stored => ?_⟩
  · rw [statusOf, rows.1, markRefunded_stored]
    rfl
  · rw [rows.1, markRefunded_stored]
    rfl
  · rw [rows.2] at stored
    unfold markRefunded annulPlan at stored
    rw [Table.get?_map] at stored
    obtain ⟨old, found, rfl⟩ := Option.map_eq_some_iff.mp stored
    have own : old.id = s.payment.userId := Table.key_of_get? found
    rw [if_pos own]
    exact ⟨rfl, rfl⟩

/-! ## The retries -/

/-- Nothing is committed, and a call without a failure completes it. -/
theorem refundsSafely_of_unchanged (s : PaidPayment) {call : RefundCall}
    (unchanged : s.db.refundPayment s.payment.id call = s.db)
    (spared : ¬s.db.ledger.CancelsPayout s.payment.id call.minPayout) :
    s.db.RefundsSafely s.payment call := by
  let retry : RefundCall := { call with fails := fun _ => false }
  refine Or.inr ⟨retry, rfl, ?_⟩
  rw [unchanged, refundPayment_eq]
  simp only [retry, List.any_eq_true, Bool.false_eq_true, and_false, exists_false, if_false]
  exact whole_fullyRefunded s spared

theorem midway_statusOf (s : PaidPayment) (call : RefundCall) :
    (s.db.midway s.payment call).statusOf s.payment.id = some .refunded :=
  congrArg (Option.map PaymentRow.status) (markRefunded_stored s call)

theorem whole_statusOf (s : PaidPayment) (call : RefundCall) :
    (s.db.whole s.payment call).statusOf s.payment.id = some .refunded := by
  rw [statusOf, (whole_payments s.db s.payment call).1, markRefunded_stored]
  rfl

/-- A call changes nothing, or its commit stops every other call. -/
theorem refundPayment_stops (s : PaidPayment) (call : RefundCall) :
    s.db.refundPayment s.payment.id call = s.db ∨
      ∀ retry, (s.db.refundPayment s.payment.id call).refundPayment s.payment.id retry =
        s.db.refundPayment s.payment.id call := by
  have stopped : ∀ {db : BillingDb}, db.statusOf s.payment.id = some .refunded →
      ∀ retry, db.refundPayment s.payment.id retry = db := by
    intro db status retry
    refine refundPayment_of_unpaid fun paid => ?_
    rw [status] at paid
    cases paid
  rw [refundPayment_eq]
  split
  · exact Or.inl rfl
  split
  · split
    · exact Or.inr (stopped (midway_statusOf s call))
    · exact Or.inl rfl
  · exact Or.inr (stopped (whole_statusOf s call))

/-- The status stops every retry, and the usage stays open. -/
theorem stuck_of_midway (s : PaidPayment) {call : RefundCall}
    (midway : s.db.refundPayment s.payment.id call = s.db.midway s.payment call)
    (used : s.db.ledger.openUsage s.payment.id = true) :
    ¬s.db.RefundsSafely s.payment call := by
  have still : ¬(s.db.midway s.payment call).FullyRefunded s.payment := by
    intro done
    have closed := done.usage
    rw [midway_openUsage s.credited s.payment call, used] at closed
    cases closed
  intro safe
  rcases safe with done | ⟨retry, -, done⟩
  · rw [midway] at done
    exact still done
  · have stopped : (s.db.midway s.payment call).refundPayment s.payment.id retry =
        s.db.midway s.payment call := by
      refine refundPayment_of_unpaid fun paid => ?_
      rw [midway_statusOf] at paid
      cases paid
    rw [midway, stopped] at done
    exact still done

/-- A call that cancels the payout leaves the earning open, if it commits at all. -/
theorem not_fullyRefunded_of_cancels (s : PaidPayment) {call : RefundCall}
    (cancels : s.db.ledger.CancelsPayout s.payment.id call.minPayout) :
    ¬(s.db.refundPayment s.payment.id call).FullyRefunded s.payment := by
  have unpaid : ¬s.db.FullyRefunded s.payment := by
    intro done
    have status := done.status
    rw [statusOf_of_stored s.stored, s.paid] at status
    cases status
  have open_ := midway_openEarning_of_cancels s cancels
  rw [refundPayment_eq]
  split
  · exact unpaid
  split
  · split
    · intro done
      rw [done.earning] at open_
      cases open_
    · exact unpaid
  · intro done
    rw [← openEarning_whole, done.earning] at open_
    cases open_

theorem not_refundsSafely_of_cancels (s : PaidPayment) {call : RefundCall}
    (cancels : s.db.ledger.CancelsPayout s.payment.id call.minPayout) :
    ¬s.db.RefundsSafely s.payment call := by
  intro safe
  rcases safe with done | ⟨retry, same, done⟩
  · exact not_fullyRefunded_of_cancels s cancels done
  · rcases refundPayment_stops s call with unchanged | stopped
    · rw [unchanged] at done
      exact not_fullyRefunded_of_cancels s (same ▸ cancels) done
    · rw [stopped retry] at done
      exact not_fullyRefunded_of_cancels s cancels done

/-- A refund that cancels no payout is whole or can be completed exactly if its first failure is not
between the two commits. -/
theorem refundsSafely_of_spared (s : PaidPayment) (call : RefundCall)
    (spared : ¬s.db.ledger.CancelsPayout s.payment.id call.minPayout) :
    s.db.RefundsSafely s.payment call ↔ s.db.FailsWhole s.payment.id call := by
  have result := refundPayment_eq s call
  cases early : (s.db.earlySteps s.payment.id call).any call.fails with
  | true =>
      rw [early, if_pos rfl] at result
      refine ⟨fun _ _ _ fine => ?_, fun _ => refundsSafely_of_unchanged s result spared⟩
      rw [early] at fine
      cases fine
  | false =>
      rw [early, if_neg Bool.false_ne_true] at result
      cases late : (s.db.lateSteps s.payment.id).any call.fails with
      | false =>
          rw [late, if_neg Bool.false_ne_true] at result
          refine ⟨fun _ _ _ _ => late, fun _ => Or.inl ?_⟩
          rw [result]
          exact whole_fullyRefunded s spared
      | true =>
          rw [late, if_pos rfl] at result
          cases earned : (s.db.ledger.openEarning s.payment.id).isSome with
          | false =>
              rw [earned, if_neg Bool.false_ne_true] at result
              refine ⟨fun _ earning => ?_, fun _ => refundsSafely_of_unchanged s result spared⟩
              rw [earned] at earning
              cases earning
          | true =>
              rw [earned, if_pos rfl] at result
              cases used : s.db.ledger.openUsage s.payment.id with
              | false =>
                  refine ⟨fun _ _ usage => ?_, fun _ => Or.inl ?_⟩
                  · rw [used] at usage
                    cases usage
                  · have same : s.db.whole s.payment call = s.db.midway s.payment call :=
                      if_neg (by rw [used]; exact Bool.false_ne_true)
                    rw [result, ← same]
                    exact whole_fullyRefunded s spared
              | true =>
                  refine ⟨fun safe => absurd safe (stuck_of_midway s result used), fun whole => ?_⟩
                  have fine := whole earned used early
                  rw [late] at fine
                  cases fine

/-- A refund is whole or can be completed exactly if it cancels no payout and its first failure is
not between the two commits. -/
theorem refundsSafely_iff_refundsWhole (s : PaidPayment) (call : RefundCall) :
    s.db.RefundsSafely s.payment call ↔ s.db.RefundsWhole s.payment.id call := by
  by_cases cancels : s.db.ledger.CancelsPayout s.payment.id call.minPayout
  · exact ⟨fun safe => absurd safe (not_refundsSafely_of_cancels s cancels),
      fun whole => absurd cancels whole.1⟩
  · rw [refundsSafely_of_spared s call cancels]
    exact ⟨fun whole => ⟨cancels, whole⟩, fun whole => whole.2⟩

/-! ## A failure between the commits -/

/-- User 2 has paid 100 with the code of user 1, who has 20 of it. -/
def creditedLedger : Ledger :=
  { users := ⟨[{ id := 1 }, { id := 2, signupCodeId := some 1 }], by decide⟩
    codes := ⟨[{ id := 1, ownerId := 1, commissionPct := 20, discountPct := 10 }], by decide⟩
    usages :=
      ⟨[{ id := 0
          codeId := 1
          refereeId := 2
          paymentId := some 1
          paymentAmountUsd := 100
          commissionEarned := 20
          discountApplied := 10 }], by decide⟩
    earnings :=
      ⟨[{ id := 0
          referrerId := 1
          refereeId := some 2
          paymentId := some 1
          pct := 20
          amountUsd := 20 }], by decide⟩
    usageSeq := 1
    earningSeq := 1 }

theorem creditedLedger_credited : creditedLedger.Credited where
  below := by decide
  once _ := List.countP_le_length
  original := by decide
  stamped := by decide

def paidInvoice : PaymentRow :=
  { id := 1, userId := 2, planId := 1, billingPeriodId := some 1, baseAmountUsd := 110,
    discountPct := 10, finalAmountUsd := 100, promoCodeId := none, providerInvoiceId := "inv",
    status := .paid }

def paidPayment : PaidPayment where
  db := { ledger := creditedLedger, payments := ⟨[paidInvoice], by decide⟩ }
  payment := paidInvoice
  credited := creditedLedger_credited
  stored := by decide +kernel
  paid := rfl

/-- The read of the earning after its commit fails. -/
theorem refundsSafely_broken :
    ¬∀ (s : PaidPayment) (call : RefundCall), s.db.RefundsSafely s.payment call := by
  intro safe
  let call : RefundCall :=
    { reason := none, minPayout := 100, now := 0, fails := (· = .refreshEarning) }
  have midway : paidPayment.db.refundPayment paidPayment.payment.id call =
      paidPayment.db.midway paidPayment.payment call := by
    rw [refundPayment_eq, if_neg (by decide +kernel), if_pos (by decide +kernel),
      if_pos (by decide +kernel)]
  exact stuck_of_midway paidPayment midway (by decide +kernel) (safe paidPayment call)

end BillingDb

end Avalant
