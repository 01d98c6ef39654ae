import Avalant.Lib.Binary64
import Avalant.Trigger.Portion

/-!
The request handlers that create, edit and cancel triggers
(`backend/api/v1/arb_orders.py`).

A handler loads, checks, and leaves writes for its commit. Gates that only
reject and read nothing of the tables below (plan limit, balance reservation,
venue preflight, immediate-execution warning) are left out: a request that
reaches the writes is one that passed them.
-/

namespace Avalant

open Relational

/-! ## Request schemas -/

structure TpSlSpec where
  triggerSpreadPct : ℚ
  portionSizeToken : Option ℚ := none
  deriving DecidableEq, Repr

inductive CreateKind
  | open_ | close
  deriving DecidableEq, Repr

def CreateKind.trigger : CreateKind → TriggerKind
  | .open_ => .open_
  | .close => .close

theorem CreateKind.trigger_eq_open {kind : CreateKind} :
    kind.trigger = .open_ ↔ kind = .open_ := by
  cases kind <;> simp [trigger]

structure ArbOrderCreate where
  kind : CreateKind
  longExchange : String
  longSymbol : String
  longWalletId : Nat
  shortExchange : String
  shortSymbol : String
  shortWalletId : Nat
  triggerSpreadPct : Option ℚ := none
  totalQtyToken : ℚ
  portionSizeToken : Option ℚ := none
  infiniteFill : Bool := false
  activateAt : Option Time := none
  leverage : Nat := 1
  marginMode : String := "isolated"
  reduceOnly : Bool := false
  tp : Option TpSlSpec := none
  sl : Option TpSlSpec := none
  arbPositionId : Option Nat := none
  deriving DecidableEq, Repr

/-- `Field(..., gt=0)` on an optional number. -/
def positiveField (x : Option ℚ) : Bool :=
  x.all fun value => decide (0 < value)

/-- `TpSlSpec`: a portion of zero or more. -/
def TpSlSpec.wellFormed (spec : TpSlSpec) : Bool :=
  spec.portionSizeToken.all fun value => decide (0 ≤ value)

/-- Field constraints and `_validate`; the error is the failing field or the validator's
text. -/
def ArbOrderCreate.validate (m : ArbOrderCreate) : Except String Unit :=
  if m.totalQtyToken ≤ 0 then .error "total_qty_token"
  else if !positiveField m.portionSizeToken then .error "portion_size_token"
  else if m.leverage < 1 ∨ 125 < m.leverage then .error "leverage"
  else if m.marginMode ≠ "isolated" ∧ m.marginMode ≠ "cross" then .error "margin_mode"
  else if !(m.tp.all TpSlSpec.wellFormed && m.sl.all TpSlSpec.wellFormed) then
    .error "portion_size_token"
  else if m.infiniteFill && !Python.truthy m.portionSizeToken then
    .error "infinite_fill requires portion_size_token"
  else if Python.truthy m.portionSizeToken ∧ m.totalQtyToken < Python.orZero m.portionSizeToken
  then .error "portion_size_token cannot exceed total_qty_token"
  else if m.kind = .close ∧ m.arbPositionId = none then
    .error "kind='close' requires arb_position_id"
  else if m.tp.isSome ∧ m.kind ≠ .open_ then
    .error "tp can only be attached to an open trigger"
  else if m.sl.isSome ∧ m.kind ≠ .open_ then
    .error "sl can only be attached to an open trigger"
  else .ok ()

/-- `_portions_target`: the quotient of two floats, rounded up. -/
def portionsTarget (total portion : Option ℚ) : Option Nat :=
  if !Python.truthy total || !Python.truthy portion || decide (Python.orZero portion ≤ 0) then
    if Python.truthy total then some 1 else none
  else
    let portions :=
      Python.float (Python.float (Python.orZero total) / Python.float (Python.orZero portion))
    some (max 1 portions.ceil.toNat)

/-! ## Create -/

/-- `initial_status`. -/
def ArbOrderCreate.initialStatus (body : ArbOrderCreate) (now : Time) : TriggerStatus :=
  match body.activateAt with
  | some at_ => if now < at_ then .scheduled else .pending
  | none => .pending

/-- The row `create_arb_order` adds; the id is drawn at the flush. -/
def ArbOrderCreate.order (body : ArbOrderCreate) (userId : Nat) (now : Time) :
    ArbTriggerOrder where
  id := 0
  userId
  arbPositionId := body.arbPositionId
  parentTriggerId := none
  kind := body.kind.trigger
  triggerSpreadPct := body.triggerSpreadPct
  longExchange := some body.longExchange
  longSymbol := some body.longSymbol
  longWalletId := some body.longWalletId
  shortExchange := some body.shortExchange
  shortSymbol := some body.shortSymbol
  shortWalletId := some body.shortWalletId
  totalQtyToken := some body.totalQtyToken
  portionSizeToken := body.portionSizeToken
  portionsFilled := 0
  portionsTarget := portionsTarget (some body.totalQtyToken) body.portionSizeToken
  infiniteFill := body.infiniteFill
  activateAt := body.activateAt
  leverage := some body.leverage
  marginMode := body.marginMode
  reduceOnly := body.reduceOnly || body.kind == .close
  status := body.initialStatus now
  errorKind := none
  errorMessage := none

/-- `_make_child`: a TP or SL of a trigger that has not opened its position yet. The child
names its parent; it has no total and no `arb_position_id`. -/
def makeChild (parent : ArbTriggerOrder) (kind : TriggerKind) (spec : TpSlSpec) :
    ArbTriggerOrder where
  id := 0
  userId := parent.userId
  arbPositionId := none
  parentTriggerId := some parent.id
  kind
  triggerSpreadPct := some spec.triggerSpreadPct
  longExchange := parent.longExchange
  longSymbol := parent.longSymbol
  longWalletId := parent.longWalletId
  shortExchange := parent.shortExchange
  shortSymbol := parent.shortSymbol
  shortWalletId := parent.shortWalletId
  totalQtyToken := none
  portionSizeToken := spec.portionSizeToken
  portionsFilled := 0
  portionsTarget := none
  infiniteFill := false
  activateAt := none
  leverage := parent.leverage
  marginMode := parent.marginMode
  reduceOnly := true
  status := .scheduled
  errorKind := none
  errorMessage := none

/-- `_existing_child`. -/
def Db.existingChild (d : Db) (arbPositionId : Option Nat) (kind : TriggerKind) : Bool :=
  match arbPositionId with
  | none => false
  | some pid =>
      d.triggers.rows.any fun row =>
        row.arbPositionId == some pid && row.kind == kind && row.status.active

/-- `_verify_user_owns_wallets`. -/
def Db.ownsWallet (d : Db) (userId walletId : Nat) : Bool :=
  (d.wallets.get? walletId).any fun w => w.userId == userId

/-- The rows `create_arb_order` inserts: the trigger, then its TP and SL. The trigger is
flushed first, so its children carry the id the insert gives it. -/
def Db.createArbOrder (d : Db) (userId : Nat) (body : ArbOrderCreate) (now : Time) :
    Except HttpError (List ArbTriggerOrder) :=
  match body.validate with
  | .error message => .error ⟨422, message⟩
  | .ok () =>
      if !d.ownsWallet userId body.longWalletId then
        .error ⟨404, s!"wallet {body.longWalletId} not found or not owned by user"⟩
      else if !d.ownsWallet userId body.shortWalletId then
        .error ⟨404, s!"wallet {body.shortWalletId} not found or not owned by user"⟩
      else if body.tp.isSome && d.existingChild body.arbPositionId .tp then
        .error ⟨409, "tp_already_exists"⟩
      else if body.sl.isSome && d.existingChild body.arbPositionId .sl then
        .error ⟨409, "sl_already_exists"⟩
      else
        let order := { body.order userId now with id := d.triggerSeq }
        .ok (order :: ((body.tp.map (makeChild order .tp)).toList ++
          (body.sl.map (makeChild order .sl)).toList))

/-! ## Patch -/

structure ArbOrderPatch where
  triggerSpreadPct : Option ℚ := none
  totalQtyToken : Option ℚ := none
  portionSizeToken : Option ℚ := none
  infiniteFill : Option Bool := none
  activateAt : Option Time := none
  leverage : Option Nat := none
  marginMode : Option String := none
  deriving DecidableEq, Repr

/-- The field constraints of a patch. There is no check of the portion against the total. -/
def ArbOrderPatch.wellFormed (body : ArbOrderPatch) : Bool :=
  positiveField body.totalQtyToken && positiveField body.portionSizeToken &&
    (body.leverage.all fun l => decide (1 ≤ l) && decide (l ≤ 125)) &&
    (body.marginMode.all fun m => m == "isolated" || m == "cross")

/-- The loaded row with the given fields set and, if a quantity was given, the target
recomputed. -/
def ArbOrderPatch.assign (body : ArbOrderPatch) (order : ArbTriggerOrder) : ArbTriggerOrder :=
  let order' :=
    { order with
      triggerSpreadPct := body.triggerSpreadPct.or order.triggerSpreadPct
      totalQtyToken := body.totalQtyToken.or order.totalQtyToken
      portionSizeToken := body.portionSizeToken.or order.portionSizeToken
      infiniteFill := body.infiniteFill.getD order.infiniteFill
      activateAt := body.activateAt.or order.activateAt
      leverage := body.leverage.or order.leverage
      marginMode := body.marginMode.getD order.marginMode }
  if body.totalQtyToken.isSome || body.portionSizeToken.isSome then
    { order' with
      portionsTarget := portionsTarget order'.totalQtyToken order'.portionSizeToken }
  else order'

/-- `patch_order` up to its commit. -/
def Db.patchOrder (d : Db) (userId tid : Nat) (body : ArbOrderPatch) :
    Except HttpError PatchSet :=
  if body.wellFormed then
    match (d.triggers.get? tid).filter fun order => order.userId == userId with
    | none => .error ⟨404, ""⟩
    | some order =>
        if order.status.editable then .ok (PatchSet.diff order (body.assign order))
        else .error ⟨409, "trigger is firing or already finalized"⟩
  else .error ⟨422, ""⟩

def PatchSet.txn (tid : Nat) (set : PatchSet) : Txn where
  orders := setClauses [(tid, set)] PatchSet.apply fun _ _ => rfl

/-! ## Cancel -/

/-- `cancel_order` up to its commit: the check of the status. -/
def Db.cancelOrder (d : Db) (userId tid : Nat) : Except HttpError Unit :=
  match (d.triggers.get? tid).filter fun order => order.userId == userId with
  | none => .error ⟨404, ""⟩
  | some order =>
      if order.status.editable then .ok ()
      else .error ⟨409, "trigger has already fired or finalized"⟩

/-- The writes of a cancel: every child whatever its status, and the trigger itself. -/
def cancelRow (tid : Nat) (row : ArbTriggerOrder) : ArbTriggerOrder :=
  if row.parentTriggerId = some tid ∨ row.id = tid then { row with status := .cancelled }
  else row

theorem cancelRow_id (tid : Nat) (row : ArbTriggerOrder) : (cancelRow tid row).id = row.id := by
  unfold cancelRow
  split <;> rfl

def cancelTxn (tid : Nat) : Txn where
  orders := ⟨cancelRow tid, cancelRow_id tid⟩

/-! ## Attach TP/SL -/

/-- `_attach_child`: a TP or SL of an existing position. -/
def attachChild (pos : ArbPosition) (kind : TriggerKind) (spec : TpSlSpec) :
    ArbTriggerOrder where
  id := 0
  userId := pos.userId
  arbPositionId := some pos.id
  parentTriggerId := none
  kind
  triggerSpreadPct := some spec.triggerSpreadPct
  longExchange := some pos.longExchange
  longSymbol := some pos.longSymbol
  longWalletId := pos.longWalletId
  shortExchange := some pos.shortExchange
  shortSymbol := some pos.shortSymbol
  shortWalletId := pos.shortWalletId
  totalQtyToken := none
  portionSizeToken := spec.portionSizeToken
  portionsFilled := 0
  portionsTarget := none
  infiniteFill := false
  activateAt := none
  leverage := pos.leverage
  marginMode := if pos.marginMode = "" then "isolated" else pos.marginMode
  reduceOnly := true
  status := .pending
  errorKind := none
  errorMessage := none

structure AttachTpSl where
  tp : Option TpSlSpec := none
  sl : Option TpSlSpec := none
  deriving DecidableEq, Repr

/-- The rows `attach_tp_sl` inserts for a loaded position. -/
def AttachTpSl.rows (body : AttachTpSl) (pos : ArbPosition) : List ArbTriggerOrder :=
  (body.tp.map (attachChild pos .tp)).toList ++ (body.sl.map (attachChild pos .sl)).toList

/-- `attach_tp_sl` up to its commit: the position it loaded and accepted. -/
def Db.attachTpSl (d : Db) (userId pid : Nat) (body : AttachTpSl) :
    Except HttpError ArbPosition :=
  if body.tp.all TpSlSpec.wellFormed && body.sl.all TpSlSpec.wellFormed then
    match (d.arbPositions.get? pid).filter fun pos => pos.userId == userId with
    | none => .error ⟨404, ""⟩
    | some pos =>
        if !pos.status.closable then
          .error ⟨409, "can only attach TP/SL to open or partial positions"⟩
        else if body.tp.isNone && body.sl.isNone then
          .error ⟨422, "must specify at least one of tp / sl"⟩
        else if body.tp.isSome && d.existingChild (some pos.id) .tp then
          .error ⟨409, "tp_already_exists"⟩
        else if body.sl.isSome && d.existingChild (some pos.id) .sl then
          .error ⟨409, "sl_already_exists"⟩
        else .ok pos
  else .error ⟨422, ""⟩

/-- Attached rows close the loaded position and have no parent. -/
theorem AttachTpSl.mem_rows {body : AttachTpSl} {pos : ArbPosition} {row : ArbTriggerOrder}
    (member : row ∈ body.rows pos) :
    (row.kind = .tp ∨ row.kind = .sl) ∧ row.parentTriggerId = none ∧
      row.arbPositionId = some pos.id := by
  rcases List.mem_append.mp member with tp | sl
  · obtain ⟨spec, -, rfl⟩ := Option.map_eq_some_iff.mp (Option.mem_toList.mp tp)
    exact ⟨Or.inl rfl, rfl, rfl⟩
  · obtain ⟨spec, -, rfl⟩ := Option.map_eq_some_iff.mp (Option.mem_toList.mp sl)
    exact ⟨Or.inr rfl, rfl, rfl⟩

/-- Created rows: the trigger itself, or a TP/SL child of it without a position. -/
theorem Db.mem_createArbOrder {d : Db} {userId : Nat} {body : ArbOrderCreate} {now : Time}
    {rows : List ArbTriggerOrder} {row : ArbTriggerOrder}
    (accepted : d.createArbOrder userId body now = .ok rows) (member : row ∈ rows) :
    row = { body.order userId now with id := d.triggerSeq } ∨
      ((row.kind = .tp ∨ row.kind = .sl) ∧ row.parentTriggerId = some d.triggerSeq ∧
        row.arbPositionId = none) := by
  unfold createArbOrder at accepted
  split at accepted
  case h_1 => cases accepted
  case h_2 =>
    split at accepted
    · cases accepted
    split at accepted
    · cases accepted
    split at accepted
    · cases accepted
    split at accepted
    · cases accepted
    cases accepted
    rcases List.mem_cons.mp member with self | child
    · exact Or.inl self
    · rcases List.mem_append.mp child with tp | sl
      · obtain ⟨spec, -, rfl⟩ := Option.map_eq_some_iff.mp (Option.mem_toList.mp tp)
        exact Or.inr ⟨Or.inl rfl, rfl, rfl⟩
      · obtain ⟨spec, -, rfl⟩ := Option.map_eq_some_iff.mp (Option.mem_toList.mp sl)
        exact Or.inr ⟨Or.inr rfl, rfl, rfl⟩

end Avalant
