import Avalant.Referral.Ledger

/-!
The operations on the ledger (`referral_service.py`, and the commission half of
`payment_service._activate_user`), each as one transaction.

A reversal is cut in two: what it decides from the earning and the payout it has
read, and what it writes. The service reads with autoflush off, so the refresh
in the cancelling branch throws the stamp of the original earning away.
-/

namespace Avalant

open Relational

/-! ## Commission credit -/

/-- `get_commission_pct`; `DEFAULT_COMMISSION_PCT` is 20. -/
def User.commissionPct (u : User) : ℚ :=
  match u.referralPctOverride with
  | some pct => max 0 (min 100 pct)
  | none => 20

/-- The earning with a payment id, if any. -/
def Ledger.earningOfPayment (l : Ledger) (paymentId : Nat) : Option ReferralEarning :=
  l.earnings.rows.find? fun e => e.paymentId == some paymentId

/-- `credit_commission`: the row it returns, and the ledger. -/
def Ledger.creditCommission (l : Ledger) (referee : User) (paymentId : Nat)
    (amountUsd : Option ℚ) : Option ReferralEarning × Ledger :=
  match referee.referredById, amountUsd with
  | some referrerId, some amount =>
      if amount ≤ 0 then (none, l)
      else
        match l.users.get? referrerId with
        | none => (none, l)
        | some referrer =>
            if referrer.id = referee.id then (none, l)
            else
              match l.earningOfPayment paymentId with
              | some existing => (some existing, l)
              | none =>
                  let commission := Python.quantizeCents (amount * referrer.commissionPct / 100)
                  if commission ≤ 0 then (none, l)
                  else
                    let row (id : Nat) : ReferralEarning :=
                      { id
                        referrerId := referrer.id
                        refereeId := some referee.id
                        paymentId := some paymentId
                        pct := referrer.commissionPct
                        amountUsd := commission }
                    (some (row l.earningSeq), l.insertEarning row)
  | _, _ => (none, l)

/-- `USAGES_PER_REFEREE`. -/
def usagesPerReferee : Nat := 5

/-- `GLOBAL_CAP_PCT`. -/
def globalCapPct : ℚ := 45

/-- `effective_commission_pct` and `effective_discount_pct` of a rate of the code. -/
def effectivePct (raw : ℚ) (usageCount : Nat) : ℚ :=
  if usagesPerReferee ≤ usageCount then 0 else if globalCapPct < raw then globalCapPct
  else if raw < 0 then 0 else raw

/-- `count_non_reversed_usages`. -/
def Ledger.countUsages (l : Ledger) (codeId refereeId : Nat) : Nat :=
  l.usages.rows.countP fun usage =>
    usage.codeId == codeId && usage.refereeId == refereeId && usage.reversedAt.isNone

/-- `INSERT INTO referral_code_usages`. -/
def Ledger.insertUsage (l : Ledger) (row : Nat → ReferralCodeUsage) : Ledger :=
  { l with usages := l.usages.insert (row l.usageSeq), usageSeq := l.usageSeq + 1 }

/-- The earning `_credit_split_discount` adds, and the usage beside it; `none` when it skips. -/
def Ledger.splitRows (l : Ledger) (user : User) (payment : Payment) :
    Option ((Nat → ReferralCodeUsage) × (Nat → ReferralEarning)) :=
  match user.signupCodeId.bind l.codes.get? with
  | none => none
  | some code =>
      let usageCount := l.countUsages code.id user.id
      if code.ownerId = user.id ∨ usagesPerReferee ≤ usageCount then none
      else
        let finalAmount := payment.finalAmountUsd.getD 0
        let commissionPct := effectivePct code.commissionPct usageCount
        let discountPct := effectivePct code.discountPct usageCount
        let commission := Python.quantizeCents (finalAmount * commissionPct / 100)
        some
          (fun id =>
            { id
              codeId := code.id
              refereeId := user.id
              paymentId := some payment.id
              paymentAmountUsd := finalAmount
              commissionEarned := commission
              discountApplied :=
                Python.quantizeCents (payment.baseAmountUsd.getD 0 * discountPct / 100) },
          fun id =>
            { id
              referrerId := code.ownerId
              refereeId := some user.id
              paymentId := some payment.id
              pct := commissionPct
              amountUsd := commission })

/-- Both unique indexes on `payment_id` admit the rows of a payment. -/
def Ledger.admitsPayment (l : Ledger) (paymentId : Nat) : Bool :=
  (l.earningOfPayment paymentId).isNone &&
    !(l.usages.rows.any fun usage => usage.paymentId == some paymentId)

/-- `_credit_split_discount`; a second credit of one payment violates the unique indexes, and
nothing is written. -/
def Ledger.creditSplitDiscount (l : Ledger) (user : User) (payment : Payment) : Ledger :=
  match l.splitRows user payment with
  | none => l
  | some (usage, earning) =>
      if l.admitsPayment payment.id then (l.insertUsage usage).insertEarning earning else l

/-! ## Payout requests -/

/-- The business rules a payout operation can fail on. -/
inductive PayoutError
  | invalidAddress
  | alreadyPending
  | refundDebt (debt : ℚ)
  | belowMinimum (minPayout : ℚ)
  | notFound
  | alreadyResolved (status : PayoutStatus)
  deriving DecidableEq, Repr

/-- The error's text; `money` writes a `Decimal`. -/
def PayoutError.message (money : ℚ → String) : PayoutError → String
  | .invalidAddress => "Invalid TRC20 address"
  | .alreadyPending => "You already have a pending payout request"
  | .refundDebt debt =>
      "Outstanding refund debt: $" ++ money debt ++
        " must be covered by future earnings before another payout can be requested."
  | .belowMinimum minPayout => "Minimum payout is $" ++ money minPayout
  | .notFound => "Payout not found"
  | .alreadyResolved status => "Payout already resolved (" ++ status.text ++ ")"

/-- The characters after the `T` of a TRC20 address. -/
def base58 (c : Char) : Bool :=
  ('A' ≤ c && c ≤ 'H') || ('J' ≤ c && c ≤ 'N') || ('P' ≤ c && c ≤ 'Z') ||
    ('1' ≤ c && c ≤ '9') || ('a' ≤ c && c ≤ 'k') || ('m' ≤ c && c ≤ 'z')

/-- `verify_trc20_address`. -/
def verifyTrc20Address (address : String) : Bool :=
  match (Python.strip address).toList with
  | 'T' :: rest => rest.length == 33 && rest.all base58
  | _ => false

/-- The checks of `request_payout` on the balance it has read. -/
def checkBalance (amount minPayout : ℚ) : Except PayoutError Unit :=
  if amount < 0 then .error (.refundDebt |amount|)
  else if amount < minPayout then .error (.belowMinimum minPayout)
  else .ok ()

/-- The row a request inserts. -/
def newRequest (id userId : Nat) (amount : ℚ) (address : String) : ReferralPayoutRequest :=
  { id, userId, amountUsd := amount, address := Python.strip address }

/-- `request_payout`; `minPayout` is `current_min_payout_usd`. -/
def Ledger.requestPayout (l : Ledger) (userId : Nat) (address : String) (minPayout : ℚ) :
    Except PayoutError Ledger := do
  if !verifyTrc20Address address then throw .invalidAddress
  if l.hasPendingPayout userId then throw .alreadyPending
  let amount := l.availableBalance userId
  checkBalance amount minPayout
  let req := newRequest l.payoutSeq userId amount address
  let l := l.setPayoutAddress userId req.address
  let l := { l.insertPayout req with payoutSeq := l.payoutSeq + 1 }
  return l.relink (unclaimedBy userId) (some req.id)

/-- The pending payout with an id, for the admin operations. -/
def Ledger.pendingPayout (l : Ledger) (payoutId : Nat) :
    Except PayoutError ReferralPayoutRequest :=
  match l.payouts.get? payoutId with
  | none => .error .notFound
  | some p => if p.status = .pending then .ok p else .error (.alreadyResolved p.status)

/-- `admin_complete_payout`. -/
def Ledger.adminCompletePayout (l : Ledger) (payoutId : Nat) (note : Option String)
    (now : Time) : Except PayoutError Ledger := do
  let p ← l.pendingPayout payoutId
  return l.resolve p.id .completed note now

/-- `admin_cancel_payout`. -/
def Ledger.adminCancelPayout (l : Ledger) (payoutId : Nat) (note : Option String)
    (now : Time) : Except PayoutError Ledger := do
  let p ← l.pendingPayout payoutId
  return (l.resolve p.id .cancelled note now).relink (linkedTo p.id) none

/-! ## Reversal -/

/-- What a reversal does to the payout of its earning. -/
inductive ReversalAction
  | fromUnclaimed
  | fromDangling
  | fromCompletedLoggedOnly (payoutId : Nat)
  | fromPendingAdjusted (payoutId : Nat) (newAmount : ℚ)
  | fromPendingCancelled (payoutId : Nat) (newAmount floor : ℚ)
  deriving DecidableEq, Repr

/-- `report["action"]`; a link to a missing or cancelled payout is reported like none. -/
def ReversalAction.text : ReversalAction → String
  | .fromUnclaimed | .fromDangling => "from_unclaimed"
  | .fromCompletedLoggedOnly _ => "from_completed_logged_only"
  | .fromPendingAdjusted _ _ => "from_pending_adjusted"
  | .fromPendingCancelled _ _ _ => "from_pending_cancelled"

/-- The branch `reverse_commission` takes on the earning and the payout it has read. -/
def reversalAction (earning : ReferralEarning) (payout : Option ReferralPayoutRequest)
    (minPayout : ℚ) : ReversalAction :=
  match earning.payoutRequestId, payout with
  | none, _ => .fromUnclaimed
  | some _, none => .fromDangling
  | some _, some p =>
      match p.status with
      | .cancelled => .fromDangling
      | .completed => .fromCompletedLoggedOnly p.id
      | .pending =>
          let newAmount := p.amountUsd - earning.amountUsd
          if minPayout ≤ newAmount then .fromPendingAdjusted p.id newAmount
          else .fromPendingCancelled p.id newAmount minPayout

/-- The note of an auto-cancelled payout. -/
def autoCancelNote (paymentId : Nat) (newAmount floor : ℚ) : String :=
  "auto-cancelled: refund of payment #" ++ toString paymentId ++ " reduced amount to $" ++
    Python.fixed2 newAmount ++ " (below $" ++ Python.fixed2 floor ++ ")"

/-- `(reason or "")[:500]`. -/
def reversalReason (reason : Option String) : String :=
  Python.take 500 (reason.getD "")

/-- The negative sibling of a reversed earning. -/
def siblingOf (earning : ReferralEarning) (reason : Option String) (id : Nat) :
    ReferralEarning :=
  { id
    referrerId := earning.referrerId
    refereeId := earning.refereeId
    paymentId := none
    pct := earning.pct
    amountUsd := -earning.amountUsd
    reversalOfId := some earning.id
    reversalReason := some (reversalReason reason) }

/-- The writes of a branch, before the sibling's. -/
def Ledger.settleReversal (l : Ledger) (earning : ReferralEarning) (action : ReversalAction)
    (paymentId : Nat) (reason : Option String) (now : Time) : Ledger :=
  let stamped := l.stamp earning.id (reversalReason reason) now
  match action with
  | .fromUnclaimed | .fromCompletedLoggedOnly _ => stamped
  | .fromDangling => stamped.relink (fun e => e.id == earning.id) none
  | .fromPendingAdjusted payoutId newAmount =>
      (stamped.setAmount payoutId newAmount).relink (fun e => e.id == earning.id) none
  | .fromPendingCancelled payoutId newAmount floor =>
      -- `db.refresh(earning)` discards the stamp
      (l.relink (linkedTo payoutId) none).resolve payoutId .cancelled
        (some (autoCancelNote paymentId newAmount floor)) now

/-- All writes of a reversal. -/
def Ledger.applyReversal (l : Ledger) (earning : ReferralEarning) (action : ReversalAction)
    (paymentId : Nat) (reason : Option String) (now : Time) : Ledger :=
  (l.settleReversal earning action paymentId reason now).insertEarning (siblingOf earning reason)

/-- The earning a reversal of a payment is about. -/
def Ledger.reversedEarning (l : Ledger) (paymentId : Nat) : Option ReferralEarning :=
  l.earnings.rows.find? fun e => e.paymentId == some paymentId && e.reversalOfId.isNone

/-- What `reverse_commission` reports. -/
inductive ReversalReport
  | noEarning
  | alreadyReversed (earningId : Nat)
  | reversed (earningId : Nat) (action : ReversalAction) (siblingId : Nat)
  deriving DecidableEq, Repr

/-- `reverse_commission`. -/
def Ledger.reverseCommission (l : Ledger) (paymentId : Nat) (reason : Option String)
    (minPayout : ℚ) (now : Time) : ReversalReport × Ledger :=
  match l.reversedEarning paymentId with
  | none => (.noEarning, l)
  | some earning =>
      if earning.reversedAt.isSome then (.alreadyReversed earning.id, l)
      else
        let action := reversalAction earning (earning.payoutRequestId.bind l.payouts.get?) minPayout
        (.reversed earning.id action l.earningSeq,
          l.applyReversal earning action paymentId reason now)

/-- The usage half of `refund_payment`. -/
def Ledger.reverseUsage (l : Ledger) (paymentId : Nat) (reason : Option String) (now : Time) :
    Ledger :=
  { l with
    usages := l.usages.map
      (fun usage =>
        if usage.paymentId = some paymentId ∧ usage.reversedAt = none then
          { usage with reversedAt := some now, reversalReason := some (reversalReason reason) }
        else usage)
      (fun usage => by split <;> rfl) }

end Avalant
