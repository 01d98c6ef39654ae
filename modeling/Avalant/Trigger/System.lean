import Avalant.Lib.Run
import Avalant.Reconcile.AutoPair
import Avalant.Trigger.Api

/-!
The trigger system: trigger workers, request handlers and reconcile passes of
any number of replicas over one database.

Every party is a task that alternates between loading rows and committing
writes; a task sits in the table from its load to its commit, and any other
step may happen in between. Only the claim is a single atomic statement
(`UPDATE … WHERE status='pending'`), so it is one step. Manual closes place
venue orders and write `trade_orders` rows only; they reach these tables through
the live snapshot of a later reconcile pass, which is an arbitrary list here.
-/

namespace Avalant

open Relational

/-! ## Tasks -/

/-- Where a party stands. The first five constructors are a trigger worker holding the
claimed trigger `tid`. -/
inductive Task
  /-- claimed, before `db.refresh` -/
  | claimed (tid claim : Nat)
  /-- both opening orders sent, awaiting the legs -/
  | openLegs (tid : Nat) (qty : ℚ)
  /-- about to commit `pos.status = "closing"` -/
  | closing (tid pid : Nat) (set : PositionSet)
  /-- both closing orders sent, awaiting the legs -/
  | closeLegs (tid pid : Nat)
  /-- about to commit the outcome -/
  | finishing (tid : Nat) (w : WorkerWrite)
  /-- reconcile pass about to commit the single legs -/
  | reconcileTrades (userId : Nat) (live : List LiveRow) (w : TradeWrites)
  /-- reconcile pass between its two transactions -/
  | reconcileNext (userId : Nat) (live : List LiveRow)
  /-- reconcile pass about to commit the arbitrage positions -/
  | reconcileArbs (w : ArbWrites)
  /-- cancel request past its status check -/
  | cancelling (tid : Nat)
  /-- patch request past its status check -/
  | patching (tid : Nat) (set : PatchSet)
  /-- attach request past its status check -/
  | attaching (pos : ArbPosition) (body : AttachTpSl)
  deriving DecidableEq, Repr

/-- The trigger a worker holds. -/
def Task.worker : Task → Option Nat
  | .claimed tid _ | .openLegs tid _ | .closing tid _ _ | .closeLegs tid _
  | .finishing tid _ => some tid
  | _ => none

/-- The transaction a task is about to commit, and what it goes on as. -/
def Task.txn : Task → Option (Txn × Option Task)
  | .closing tid pid set =>
      some ({ positions := setClauses [(pid, set)] PositionSet.apply PositionSet.apply_id },
        some (.closeLegs tid pid))
  | .finishing tid w => some (w.txn tid, none)
  | .reconcileTrades userId live w => some (w.txn, some (.reconcileNext userId live))
  | .reconcileArbs w => some (w.txn, none)
  | .cancelling tid => some (cancelTxn tid, none)
  | .patching tid set => some (set.txn tid, none)
  | .attaching pos body => some ({ newOrders := body.rows pos }, none)
  | .claimed _ _ | .openLegs _ _ | .closeLegs _ _ | .reconcileNext _ _ => none

structure TaskRow where
  id : Nat
  task : Task
  deriving DecidableEq, Repr

instance : Keyed TaskRow := ⟨TaskRow.id⟩

@[simp] theorem key_taskRow (row : TaskRow) : key row = row.id := rfl

/-! ## The system -/

/-- A portion whose orders were sent: which claim it belongs to, what it ordered, and the
trigger's total at that moment. -/
structure Portion where
  trigger : Nat
  claim : Nat
  qty : ℚ
  total : Option ℚ
  infinite : Bool
  deriving DecidableEq, Repr

/-- The database, the tasks in flight, the portions ordered so far (newest first), and the
number of claims won. -/
structure Sys where
  db : Db
  tasks : Table TaskRow
  portions : List Portion
  claims : Nat

def Sys.task? (s : Sys) (k : Nat) : Option Task :=
  (s.tasks.get? k).map TaskRow.task

def Sys.setTask (s : Sys) (k : Nat) (task : Task) : Table TaskRow :=
  s.tasks.put ⟨k, task⟩

/-- The task table after `k` went on as `next`. -/
def Sys.goOn (s : Sys) (k : Nat) (next : Option Task) : Table TaskRow :=
  match next with
  | none => s.tasks.erase k
  | some task => s.setTask k task

/-- A fresh deployment: wallets, and whatever trades happened outside. -/
def Sys.init (wallets : Table Wallet) (tradeOrders : Table TradeOrder)
    (tradePositions : Table TradePosition) (tradePositionSeq : Nat) : Sys where
  db :=
    { wallets, tradeOrders, tradePositions, arbPositions := Table.empty, triggers := Table.empty
      tradePositionSeq, arbPositionSeq := 1, triggerSeq := 1 }
  tasks := Table.empty
  portions := []
  claims := 0

/-! ## Single-statement transactions -/

/-- `SET status='pending' WHERE status='scheduled' AND activate_at <= :now`. -/
def promoteRow (now : Time) (row : ArbTriggerOrder) : ArbTriggerOrder :=
  if row.status = .scheduled ∧ (row.activateAt.any fun at_ => decide (at_ ≤ now)) then
    { row with status := .pending }
  else row

/-- `claim_for_fire`: `SET status='firing' WHERE id=:id AND status='pending'`. -/
def claimRow (tid : Nat) (row : ArbTriggerOrder) : ArbTriggerOrder :=
  if row.id = tid ∧ row.status = .pending then { row with status := .firing } else row

theorem promoteRow_id (now : Time) (row : ArbTriggerOrder) : (promoteRow now row).id = row.id := by
  unfold promoteRow
  split <;> rfl

theorem claimRow_id (tid : Nat) (row : ArbTriggerOrder) : (claimRow tid row).id = row.id := by
  unfold claimRow
  split <;> rfl

def promoteTxn (now : Time) : Txn where
  orders := ⟨promoteRow now, promoteRow_id now⟩

def claimTxn (tid : Nat) : Txn where
  orders := ⟨claimRow tid, claimRow_id tid⟩

/-! ## Actions -/

inductive Action
  /-- the tick's promotion statement -/
  | promote (now : Time)
  /-- a tick that loaded `seen` (with its position) selects it and wins the claim -/
  | claim (k : Nat) (seen : ArbTriggerOrder) (seenPos : Option ArbPosition) (books : Books)
      (now : Time)
  /-- `db.refresh(order)` and the part before the venue calls -/
  | start (k : Nat)
  /-- the opening legs returned -/
  | openReturn (k : Nat) (long short : LegResult) (now : Time)
  /-- the closing legs returned -/
  | closeReturn (k : Nat) (long short : LegResult) (now : Time)
  /-- an exception reached the tick -/
  | raised (k : Nat) (message : String)
  | commit (k : Nat)
  /-- the process running the task dies -/
  | drop (k : Nat)
  /-- a reconcile pass loads the user's single legs -/
  | reconcile (k userId : Nat) (live : List LiveRow) (now : Time)
  /-- the same pass loads the user's positions -/
  | reconcileNext (k : Nat) (now : Time)
  | create (userId : Nat) (body : ArbOrderCreate) (now : Time)
  | cancel (k userId tid : Nat)
  | patch (k userId tid : Nat) (body : ArbOrderPatch)
  | attach (k userId pid : Nat) (body : AttachTpSl)
  /-- a manual close: venue orders only -/
  | manualClose (userId walletId : Nat) (symbol : String)

/-- A new task under an unused key. -/
def Sys.spawn (s : Sys) (k : Nat) (task : Task) : Option Sys :=
  if s.task? k = none then some { s with tasks := s.setTask k task } else none

/-- The claim of a selected trigger; the loser of the race goes on to the next row. -/
def Sys.claim (s : Sys) (k : Nat) (seen : ArbTriggerOrder) (seenPos : Option ArbPosition)
    (books : Books) (now : Time) : Option Sys :=
  if tickFires books seen seenPos now = true ∧ s.task? k = none ∧
      (s.db.triggers.get? seen.id).any (fun row => row.status == .pending) = true then
    some
      { s with
        db := s.db.commit (claimTxn seen.id)
        tasks := s.setTask k (.claimed seen.id s.claims)
        claims := s.claims + 1 }
  else none

/-- `_execute_portion` on the refreshed row, up to the venue calls. -/
def Sys.start (s : Sys) (k : Nat) : Option Sys :=
  match s.task? k with
  | some (.claimed tid claim) =>
      match s.db.triggers.get? tid with
      | none => none
      | some order =>
          match s.db.startPortion order with
          | .refused w => some { s with tasks := s.setTask k (.finishing tid w) }
          | .closing pid set => some { s with tasks := s.setTask k (.closing tid pid set) }
          | .openLegs qty =>
              some
                { s with
                  tasks := s.setTask k (.openLegs tid qty)
                  portions :=
                    ⟨tid, claim, qty, order.totalQtyToken, order.infiniteFill⟩ :: s.portions }
  | _ => none

def Sys.openReturn (s : Sys) (k : Nat) (long short : LegResult) (now : Time) : Option Sys :=
  match s.task? k with
  | some (.openLegs tid qty) =>
      (s.db.triggers.get? tid).map fun order =>
        { s with tasks := s.setTask k (.finishing tid (s.db.finishOpen order qty long short now)) }
  | _ => none

def Sys.closeReturn (s : Sys) (k : Nat) (long short : LegResult) (now : Time) : Option Sys :=
  match s.task? k with
  | some (.closeLegs tid pid) =>
      some { s with tasks := s.setTask k (.finishing tid (finishClose pid long short now)) }
  | _ => none

/-- The handler in `_tick`: the trigger is marked failed. -/
def Sys.raised (s : Sys) (k : Nat) (message : String) : Option Sys :=
  match s.task? k with
  | some (.claimed tid _) | some (.openLegs tid _) | some (.closeLegs tid _) =>
      some
        { s with
          tasks := s.setTask k (.finishing tid (failedWrite .internal (Python.take 400 message))) }
  | _ => none

def Sys.commit (s : Sys) (k : Nat) : Option Sys :=
  match (s.task? k).bind Task.txn with
  | none => none
  | some (x, next) => some { s with db := s.db.commit x, tasks := s.goOn k next }

def Sys.drop (s : Sys) (k : Nat) : Option Sys :=
  if s.task? k = none then none else some { s with tasks := s.tasks.erase k }

/-- The second load of a reconcile pass. -/
def Sys.reconcileNext (s : Sys) (k : Nat) (now : Time) : Option Sys :=
  match s.task? k with
  | some (.reconcileNext userId live) =>
      some { s with tasks := s.setTask k (.reconcileArbs (s.db.reconcileArbs userId live now)) }
  | _ => none

def Sys.create (s : Sys) (userId : Nat) (body : ArbOrderCreate) (now : Time) : Option Sys :=
  match s.db.createArbOrder userId body now with
  | .error _ => none
  | .ok rows => some { s with db := s.db.commit { newOrders := rows } }

def Sys.step (s : Sys) : Action → Option Sys
  | .promote now => some { s with db := s.db.commit (promoteTxn now) }
  | .claim k seen seenPos books now => s.claim k seen seenPos books now
  | .start k => s.start k
  | .openReturn k long short now => s.openReturn k long short now
  | .closeReturn k long short now => s.closeReturn k long short now
  | .raised k message => s.raised k message
  | .commit k => s.commit k
  | .drop k => s.drop k
  | .reconcile k userId live now =>
      s.spawn k (.reconcileTrades userId live (s.db.reconcileTrades userId live now))
  | .reconcileNext k now => s.reconcileNext k now
  | .create userId body now => s.create userId body now
  | .cancel k userId tid =>
      match s.db.cancelOrder userId tid with
      | .error _ => none
      | .ok () => s.spawn k (.cancelling tid)
  | .patch k userId tid body =>
      match s.db.patchOrder userId tid body with
      | .error _ => none
      | .ok set => s.spawn k (.patching tid set)
  | .attach k userId pid body =>
      match s.db.attachTpSl userId pid body with
      | .error _ => none
      | .ok pos => s.spawn k (.attaching pos body)
  | .manualClose _ _ _ => some s

end Avalant
