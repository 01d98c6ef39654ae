import Avalant.Referral.Conservation

/-!
Payout requests, commission credits and reversals of one user, statement by
statement under READ COMMITTED.

A statement reads what is committed when it starts. The writes of a transaction
show when it commits, so each task carries what it has read and will write: a
request the balance, then its row, then the earnings its `UPDATE` found; a
reversal the earning and the branch it chose. Row locks only delay a statement,
and the order of two writes to one row is that of the commits. The one lock that
decides something is the partial unique index on pending requests: a second
insert waits for the first transaction, and fails when it has committed.
-/

namespace Avalant

open Relational Transition

/-- What a transaction has left to do. -/
inductive PayoutTask
  /-- `has_pending_payout`. -/
  | checkPending (address : String)
  /-- `available_balance`, and the checks on it. -/
  | readBalance (address : String)
  /-- `db.flush()` of the new request. -/
  | insertRequest (address : String) (amount : ℚ)
  /-- The `UPDATE` that claims the unclaimed earnings. -/
  | claimRows (req : ReferralPayoutRequest)
  | commitRequest (req : ReferralPayoutRequest) (claimed : List Nat)
  | commitCredit (paymentId : Nat) (usage : Nat → ReferralCodeUsage)
      (earning : Nat → ReferralEarning)
  | readEarning (paymentId : Nat) (reason : Option String)
  | readPayout (paymentId : Nat) (reason : Option String) (earning : ReferralEarning)
  | commitReversal (paymentId : Nat) (reason : Option String) (earning : ReferralEarning)
      (action : ReversalAction)

/-- The row a request has inserted and not committed yet. -/
def PayoutTask.inserted : PayoutTask → Option ReferralPayoutRequest
  | .claimRows req | .commitRequest req _ => some req
  | _ => none

/-- A request has read its balance and not yet claimed its earnings. -/
def PayoutTask.inWindow : PayoutTask → Bool
  | .insertRequest _ _ | .claimRows _ => true
  | _ => false

/-- A request has claimed its earnings. -/
def PayoutTask.committing : PayoutTask → Bool
  | .commitRequest _ _ => true
  | _ => false

structure PayoutTxn where
  id : Nat
  task : PayoutTask

instance : Keyed PayoutTxn := ⟨PayoutTxn.id⟩

@[simp] theorem key_payoutTxn (txn : PayoutTxn) : key txn = txn.id := rfl

structure PayoutSys where
  ledger : Ledger
  txns : Table PayoutTxn := Table.empty

inductive PayoutAction
  | request (k : Nat) (address : String)
  /-- A referee's payment is activated: `_credit_split_discount` reads what it adds. -/
  | credit (k : Nat) (refereeId : Nat) (payment : Payment)
  | reverse (k : Nat) (paymentId : Nat) (reason : Option String)
  /-- The next statement of a transaction. -/
  | advance (k : Nat) (minPayout : ℚ) (now : Time)
  deriving DecidableEq, Repr

namespace PayoutSys

def spawn (s : PayoutSys) (k : Nat) (task : PayoutTask) : Option PayoutSys :=
  if (s.txns.get? k).isSome then none else some { s with txns := s.txns.insert ⟨k, task⟩ }

/-- The transaction goes on with another statement. -/
def goOn (s : PayoutSys) (k : Nat) (task : PayoutTask) : PayoutSys :=
  { s with txns := s.txns.put ⟨k, task⟩ }

/-- The transaction ends, with the ledger it leaves. -/
def finish (s : PayoutSys) (k : Nat) (ledger : Ledger) : PayoutSys :=
  { ledger, txns := s.txns.erase k }

/-- A transaction has inserted a request it has not committed. -/
def insertPending (s : PayoutSys) : Bool :=
  s.txns.rows.any fun txn => txn.task.inserted.isSome

/-- One statement of transaction `k`. -/
def runTask (userId : Nat) (s : PayoutSys) (k : Nat) (minPayout : ℚ) (now : Time) :
    PayoutTask → Option PayoutSys
  | .checkPending address =>
      if s.ledger.hasPendingPayout userId then some (s.finish k s.ledger)
      else some (s.goOn k (.readBalance address))
  | .readBalance address =>
      match checkBalance (s.ledger.availableBalance userId) minPayout with
      | .error _ => some (s.finish k s.ledger)
      | .ok () => some (s.goOn k (.insertRequest address (s.ledger.availableBalance userId)))
  | .insertRequest address amount =>
      -- the unique index: fail, wait, or insert
      if s.ledger.hasPendingPayout userId then some (s.finish k s.ledger)
      else if s.insertPending then none
      else
        let ledger := { s.ledger with payoutSeq := s.ledger.payoutSeq + 1 }
        some (({ s with ledger }).goOn k
          (.claimRows (newRequest s.ledger.payoutSeq userId amount address)))
  | .claimRows req =>
      let claimed := (s.ledger.earnings.where_ (unclaimedBy userId)).map ReferralEarning.id
      some (s.goOn k (.commitRequest req claimed))
  | .commitRequest req claimed =>
      let ledger := (s.ledger.setPayoutAddress userId req.address).insertPayout req
      some (s.finish k (ledger.relink (fun e => claimed.contains e.id) (some req.id)))
  | .commitCredit paymentId usage earning =>
      if s.ledger.admitsPayment paymentId then
        some (s.finish k ((s.ledger.insertUsage usage).insertEarning earning))
      else some (s.finish k s.ledger)
  | .readEarning paymentId reason =>
      match s.ledger.reversedEarning paymentId with
      | none => some (s.finish k s.ledger)
      | some earning =>
          if earning.referrerId ≠ userId then none
          else if earning.reversedAt.isSome then some (s.finish k s.ledger)
          else if earning.payoutRequestId.isSome then
            some (s.goOn k (.readPayout paymentId reason earning))
          else some (s.goOn k (.commitReversal paymentId reason earning .fromUnclaimed))
  | .readPayout paymentId reason earning =>
      let payout := earning.payoutRequestId.bind s.ledger.payouts.get?
      some (s.goOn k
        (.commitReversal paymentId reason earning (reversalAction earning payout minPayout)))
  | .commitReversal paymentId reason earning action =>
      some (s.finish k (s.ledger.applyReversal earning action paymentId reason now))

def step (userId : Nat) (s : PayoutSys) : PayoutAction → Option PayoutSys
  | .request k address =>
      if verifyTrc20Address address then s.spawn k (.checkPending address) else none
  | .credit k refereeId payment =>
      match (s.ledger.users.get? refereeId).bind fun user => s.ledger.splitRows user payment with
      | none => none
      | some (usage, earning) =>
          if (earning 0).referrerId = userId then s.spawn k (.commitCredit payment.id usage earning)
          else none
  | .reverse k paymentId reason => s.spawn k (.readEarning paymentId reason)
  | .advance k minPayout now =>
      (s.txns.get? k).bind fun txn => s.runTask userId k minPayout now txn.task

end PayoutSys

end Avalant
