import Avalant.Lib.Aggregate
import Avalant.Db.Models

/-!
The referral ledger: earnings, payout requests, and the sums the service reads.

An earning is credited once for a payment, with a link to the payout request
that claims it. A reversal adds a sibling row with the negative amount and no
payment. The available balance is the sum of the unlinked earnings; what is paid
and what is pending are sums over the requests.
-/

namespace Avalant

open Relational

/-! ## Rows -/

/-- `ReferralPayoutRequest.status`. -/
inductive PayoutStatus
  | pending | completed | cancelled
  deriving DecidableEq, Repr

/-- The status column's text. -/
def PayoutStatus.text : PayoutStatus → String
  | .pending => "pending"
  | .completed => "completed"
  | .cancelled => "cancelled"

/-- The columns of `users` that the referral services read or write. -/
structure User where
  id : Nat
  referredById : Option Nat := none
  signupCodeId : Option Nat := none
  referralPctOverride : Option ℚ := none
  referralPayoutAddress : Option String := none
  deriving DecidableEq, Repr

/-- A payment as the commission is computed from it. -/
structure Payment where
  id : Nat
  baseAmountUsd : Option ℚ
  finalAmountUsd : Option ℚ
  deriving DecidableEq, Repr

structure ReferralCode where
  id : Nat
  ownerId : Nat
  commissionPct : ℚ
  discountPct : ℚ
  deriving DecidableEq, Repr

structure ReferralCodeUsage where
  id : Nat
  codeId : Nat
  refereeId : Nat
  paymentId : Option Nat
  paymentAmountUsd : ℚ
  commissionEarned : ℚ
  discountApplied : ℚ
  reversedAt : Option Time := none
  reversalReason : Option String := none
  deriving DecidableEq, Repr

structure ReferralEarning where
  id : Nat
  referrerId : Nat
  refereeId : Option Nat
  paymentId : Option Nat
  pct : ℚ
  amountUsd : ℚ
  payoutRequestId : Option Nat := none
  reversedAt : Option Time := none
  reversalReason : Option String := none
  reversalOfId : Option Nat := none
  deriving DecidableEq, Repr

structure ReferralPayoutRequest where
  id : Nat
  userId : Nat
  amountUsd : ℚ
  address : String
  status : PayoutStatus := .pending
  note : Option String := none
  resolvedAt : Option Time := none
  deriving DecidableEq, Repr

instance : Keyed User := ⟨User.id⟩
instance : Keyed ReferralCode := ⟨ReferralCode.id⟩
instance : Keyed ReferralCodeUsage := ⟨ReferralCodeUsage.id⟩
instance : Keyed ReferralEarning := ⟨ReferralEarning.id⟩
instance : Keyed ReferralPayoutRequest := ⟨ReferralPayoutRequest.id⟩

@[simp] theorem key_referralEarning (e : ReferralEarning) : key e = e.id := rfl

@[simp] theorem key_referralPayoutRequest (p : ReferralPayoutRequest) : key p = p.id := rfl

/-- The tables, and the sequences that number their rows. -/
structure Ledger where
  users : Table User := Table.empty
  codes : Table ReferralCode := Table.empty
  usages : Table ReferralCodeUsage := Table.empty
  earnings : Table ReferralEarning := Table.empty
  payouts : Table ReferralPayoutRequest := Table.empty
  usageSeq : Nat := 0
  earningSeq : Nat := 0
  payoutSeq : Nat := 0

/-! ## Sums -/

def earnedBy (userId : Nat) (e : ReferralEarning) : Bool :=
  e.referrerId == userId

/-- An earning of the user that no request has claimed. -/
def unclaimedBy (userId : Nat) (e : ReferralEarning) : Bool :=
  earnedBy userId e && e.payoutRequestId.isNone

def linkedTo (payoutId : Nat) (e : ReferralEarning) : Bool :=
  e.payoutRequestId == some payoutId

def payoutOf (userId : Nat) (status : PayoutStatus)
    (p : ReferralPayoutRequest) : Bool :=
  p.userId == userId && p.status == status

namespace Ledger

/-- `total_earned`. -/
def totalEarned (l : Ledger) (userId : Nat) : ℚ :=
  l.earnings.sumWhere (earnedBy userId) ReferralEarning.amountUsd

/-- `total_paid`. -/
def totalPaid (l : Ledger) (userId : Nat) : ℚ :=
  l.payouts.sumWhere (payoutOf userId .completed) ReferralPayoutRequest.amountUsd

/-- `total_pending`. -/
def totalPending (l : Ledger) (userId : Nat) : ℚ :=
  l.payouts.sumWhere (payoutOf userId .pending) ReferralPayoutRequest.amountUsd

/-- `available_balance`. -/
def availableBalance (l : Ledger) (userId : Nat) : ℚ :=
  l.earnings.sumWhere (unclaimedBy userId) ReferralEarning.amountUsd

/-- `has_pending_payout`. -/
def hasPendingPayout (l : Ledger) (userId : Nat) : Bool :=
  l.payouts.rows.any (payoutOf userId .pending)

/-- `list_earnings_for_payout`. -/
def earningsForPayout (l : Ledger) (payoutId : Nat) : List ReferralEarning :=
  l.earnings.where_ (linkedTo payoutId)

/-- The sum of the earnings of a payout. -/
def linkedAmount (l : Ledger) (payoutId : Nat) : ℚ :=
  l.earnings.sumWhere (linkedTo payoutId) ReferralEarning.amountUsd

/-! ## Statements -/

/-- `INSERT INTO referral_earnings`; the sequence numbers the row. -/
def insertEarning (l : Ledger) (row : Nat → ReferralEarning) : Ledger :=
  { l with earnings := l.earnings.insert (row l.earningSeq), earningSeq := l.earningSeq + 1 }

/-- `UPDATE referral_earnings SET payout_request_id = link WHERE selected`. -/
def relink (l : Ledger) (selected : ReferralEarning → Bool) (link : Option Nat) : Ledger :=
  { l with
    earnings := l.earnings.map
      (fun e => if selected e then { e with payoutRequestId := link } else e)
      (fun e => by split <;> rfl) }

/-- `earning.reversed_at = now; earning.reversal_reason = reason`. -/
def stamp (l : Ledger) (earningId : Nat) (reason : String) (now : Time) : Ledger :=
  { l with
    earnings := l.earnings.map
      (fun e =>
        if e.id = earningId then { e with reversedAt := some now, reversalReason := some reason }
        else e)
      (fun e => by split <;> rfl) }

/-- `INSERT INTO referral_payout_requests`. -/
def insertPayout (l : Ledger) (p : ReferralPayoutRequest) : Ledger :=
  { l with payouts := l.payouts.insert p }

/-- `payout.amount_usd = amount`. -/
def setAmount (l : Ledger) (payoutId : Nat) (amount : ℚ) : Ledger :=
  { l with
    payouts := l.payouts.map
      (fun p => if p.id = payoutId then { p with amountUsd := amount } else p)
      (fun p => by split <;> rfl) }

/-- `p.status = status; p.note = note; p.resolved_at = now`. -/
def resolve (l : Ledger) (payoutId : Nat) (status : PayoutStatus) (note : Option String)
    (now : Time) : Ledger :=
  { l with
    payouts := l.payouts.map
      (fun p =>
        if p.id = payoutId then { p with status, note, resolvedAt := some now } else p)
      (fun p => by split <;> rfl) }

/-- `user.referral_payout_address = addr`. -/
def setPayoutAddress (l : Ledger) (userId : Nat) (address : String) : Ledger :=
  { l with
    users := l.users.map
      (fun u => if u.id = userId then { u with referralPayoutAddress := some address } else u)
      (fun u => by split <;> rfl) }

end Ledger

end Avalant
