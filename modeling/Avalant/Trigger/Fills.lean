import Avalant.Trade.PlaceOrder
import Avalant.Trigger.Closing

/-!
From the venue's fill to the position.

A leg's fill crosses four layers: the engine's answer, the dictionary of the
adapter or proxy client, the one `place_open_order` returns, and the keys
`_execute_open_portion` reads. The price arrives under `avg_price` and is read
under `avg_fill_price` and `price`; the quantity is dropped by the proxy client
and by all but two adapters, and where it is kept a zero reads like a missing
key. What is folded into the position is therefore price 0, and the requested
quantity unless a non-zero one came through.
-/

namespace Avalant

open Relational

/-! ## A leg's order call -/

/-- What the venue reports of an executed order. -/
structure VenueFill where
  avgPrice : Option {price : ℚ // 0 < price}
  filledQty : Option {qty : ℚ // 0 ≤ qty}

/-- The engine that answers, and for an adapter the parts of the report its result keeps. -/
inductive OrderPath
  | go
  | python (keepsPrice keepsQty : Bool)
  deriving DecidableEq, Repr

/-- One leg: what its order call finds, which engine answers, and the fill. -/
structure LegCall where
  env : OrderEnv
  path : OrderPath
  fill : VenueFill
  orderId : Option String := none
  status : Option String := none
  clientOrderId : Option String := none

/-- `float(avg or 0)` of the reported price. -/
def VenueFill.price (fill : VenueFill) : ℚ :=
  match fill.avgPrice with
  | some price => price.1
  | none => 0

def VenueFill.qty (fill : VenueFill) : Option ℚ :=
  fill.filledQty.map Subtype.val

def JsonNumber.ofOption : Option ℚ → JsonNumber
  | none => .missing
  | some x => .number x

/-- The engine answers with the whole report, or is out of reach. -/
def LegCall.engine (leg : LegCall) : GoEngine :=
  match leg.path with
  | .go =>
      { first := .answered true 200 (.object
          { orderId := leg.orderId
            avgPrice := .ofOption (leg.fill.avgPrice.map Subtype.val)
            quantity := .ofOption leg.fill.qty
            status := leg.status
            clientOrderId := leg.clientOrderId })
        second := .connectError "" }
  | .python _ _ => { first := .connectError "", second := .connectError "" }

/-- The adapter's answer, when it is the engine: `avg_price` or 0.0, and `filled or None`. -/
def LegCall.adapter (leg : LegCall) : AdapterCall :=
  match leg.path with
  | .go => { placed := false, outcome := .error (.runtime "not called") }
  | .python keepsPrice keepsQty =>
      { placed := true
        outcome := .ok
          { orderId := leg.orderId
            avgPrice := some (if keepsPrice then leg.fill.price else 0)
            filledQty :=
              if keepsQty then Python.or_ leg.fill.qty none else none } }

/-- The dictionary of the engine layer. -/
def LegCall.answer (leg : LegCall) : OrderResult :=
  match leg.path with
  | .go =>
      { orderId := leg.orderId
        avgPrice := some leg.fill.price
        status := leg.status
        clientOrderId := leg.clientOrderId }
  | .python keepsPrice keepsQty =>
      { orderId := leg.orderId
        avgPrice := some (if keepsPrice then leg.fill.price else 0)
        filledQty :=
          if keepsQty then Python.or_ leg.fill.qty none else none }

def LegCall.run (leg : LegCall) (req : OrderRequest) : OrderRun :=
  leg.env.placeOpenOrder req leg.engine leg.adapter

/-- The engine of the leg is open to the request. -/
def LegCall.OpenTo (leg : LegCall) (req : OrderRequest) (exchange : String) : Prop :=
  match leg.path with
  | .go => leg.env.proxy.isEnabled exchange = true
  | .python _ _ => req.fallbackRefused exchange = none

/-- The request passes every check and its engine is open to it. -/
def LegCall.Succeeds (leg : LegCall) (req : OrderRequest) : Prop :=
  ∃ exchange, leg.env.check req = .ok exchange ∧
    (leg.env.preflightQty req.quantity).isOk = true ∧ leg.OpenTo req exchange

/-! ## Requests of a portion -/

def ArbTriggerOrder.legRequest (order : ArbTriggerOrder) (walletId : Option Nat)
    (symbol : Option String) (side : String) (qty : ℚ) : OrderRequest where
  userId := order.userId
  walletId := walletId.getD 0
  symbol := Python.orStr symbol ""
  side
  quantity := qty
  leverage := match order.leverage with
    | none | some 0 => 1
    | some leverage => leverage
  marginMode := Python.orStr (some order.marginMode) "isolated"

/-- `_open_long`. -/
def ArbTriggerOrder.longRequest (order : ArbTriggerOrder) (qty : ℚ) : OrderRequest :=
  order.legRequest order.longWalletId order.longSymbol "buy" qty

/-- `_open_short`. -/
def ArbTriggerOrder.shortRequest (order : ArbTriggerOrder) (qty : ℚ) : OrderRequest :=
  order.legRequest order.shortWalletId order.shortSymbol "sell" qty

/-! ## What is folded -/

/-- The fills `_execute_open_portion` passes to `accumulate_position`. -/
def foldedFills (qty : ℚ) (long short : LegResult) : Option (Fill × Fill) :=
  match long, short with
  | .ok longRes, .ok shortRes => some (longRes.portionFill qty, shortRes.portionFill qty)
  | .ok longRes, .error _ => some (longRes.lonelyFill qty, ⟨0, 0⟩)
  | .error _, .ok shortRes => some (⟨0, 0⟩, shortRes.lonelyFill qty)
  | .error _, .error _ => none

/-- The outcome of a portion is the accumulation of these fills, and nothing else is written
to a position. -/
theorem Db.finishOpen_folds (d : Db) (order : ArbTriggerOrder) (qty : ℚ)
    (long short : LegResult) (now : Time) :
    match foldedFills qty long short with
    | some fills => ∃ status w, w.position = none ∧ w.newPosition = none ∧
        d.finishOpen order qty long short now =
          d.accumulatePosition order fills.1 fills.2 status now w
    | none => (d.finishOpen order qty long short now).position = none ∧
        (d.finishOpen order qty long short now).newPosition = none := by
  cases long with
  | ok longRes =>
      cases short with
      | ok shortRes => exact ⟨_, _, rfl, rfl, rfl⟩
      | error shortErr => exact ⟨_, _, rfl, rfl, rfl⟩
  | error longErr =>
      cases short with
      | ok shortRes => exact ⟨_, _, rfl, rfl, rfl⟩
      | error shortErr => exact ⟨rfl, rfl⟩

/-- The row the fills are folded into: the linked position, or the new one. -/
def Db.foldedInto (d : Db) (order : ArbTriggerOrder) (now : Time) : ArbPosition :=
  (order.arbPositionId.bind d.arbPositions.get?).getD (order.newPosition now)

/-! ## The property -/

/-- A leg's fill is recorded as the venue reported it: folded with its price and its quantity,
not logged as filled when it is zero, and without an entry price of 0 on a held leg. -/
structure LegRecorded (fill : VenueFill) (log : Option OrderLog) (folded : Fill)
    (entryPrice : Option ℚ) (heldQty : ℚ) : Prop where
  price : ∀ price ∈ fill.avgPrice, folded.price = price.1
  qty : ∀ qty ∈ fill.filledQty, folded.qty = qty.1
  zeroLogged : ∀ qty ∈ fill.filledQty, qty.1 = 0 → ∀ row ∈ log, row.status ≠ .filled
  entry : fill.avgPrice.isSome = true → 0 < heldQty → entryPrice ≠ some 0

/-- Every successful leg of the portion is recorded as the venue reported it. -/
def PortionRecorded (d : Db) (order : ArbTriggerOrder) (qty : ℚ) (long short : LegCall)
    (now : Time) : Prop :=
  ∀ fills ∈ foldedFills qty (long.run (order.longRequest qty)).result
      (short.run (order.shortRequest qty)).result,
    let pos := (d.foldedInto order now).accumulate fills.1 fills.2 now
    ((long.run (order.longRequest qty)).result.isOk = true →
      LegRecorded long.fill (long.run (order.longRequest qty)).log fills.1
        pos.longEntryPrice pos.longQty) ∧
    ((short.run (order.shortRequest qty)).result.isOk = true →
      LegRecorded short.fill (short.run (order.shortRequest qty)).log fills.2
        pos.shortEntryPrice pos.shortQty)

/-- The report loses nothing on its way: no price, and no quantity but the requested one or a
non-zero one that the engine's result keeps. -/
def LegCall.Lossless (leg : LegCall) (qty : ℚ) : Prop :=
  leg.fill.avgPrice = none ∧
    ∀ filled ∈ leg.fill.filledQty, filled.1 = qty ∨
      ((∃ keepsPrice, leg.path = .python keepsPrice true) ∧ filled.1 ≠ 0)

/-! ## The order call of a leg -/

theorem LegCall.engine_of_go {leg : LegCall} (path : leg.path = .go) :
    leg.engine.placeOrder = .ok leg.answer := by
  simp only [engine, answer, path, VenueFill.price, GoEngine.placeOrder, GoEngine.post,
    GoEngine.last, Attempt.settle]
  cases leg.fill.avgPrice <;> rfl

theorem LegCall.engine_of_python {leg : LegCall} {keepsPrice keepsQty : Bool}
    (path : leg.path = .python keepsPrice keepsQty) :
    ∃ e, leg.engine.placeOrder = .error (.go e) ∧ e.final = none := by
  rw [GoEngine.placeOrder_fallback_iff]
  simp only [engine, path]
  rfl

section Leg

variable {leg : LegCall} {req : OrderRequest} {exchange : String}

theorem LegCall.outcome_of_open (reachable : leg.OpenTo req exchange) :
    (runEngines (leg.env.proxy.isEnabled exchange) leg.engine.placed leg.engine.placeOrder
      (req.fallbackRefused exchange) leg.adapter).outcome = .answered leg.answer := by
  unfold OpenTo at reachable
  cases path : leg.path with
  | go =>
      simp only [path] at reachable
      simp [runEngines, reachable, engine_of_go path]
  | python keepsPrice keepsQty =>
      simp only [path] at reachable
      obtain ⟨e, failed, fallback⟩ := engine_of_python path
      have adapter : leg.adapter.outcome = .ok leg.answer := by
        simp only [LegCall.adapter, answer, path]
      cases enabled : leg.env.proxy.isEnabled exchange <;>
        simp [runEngines, runPython, failed, fallback, reachable, adapter]

theorem LegCall.outcome_of_not_open (closed : ¬ leg.OpenTo req exchange) :
    ∃ e, (runEngines (leg.env.proxy.isEnabled exchange) leg.engine.placed leg.engine.placeOrder
        (req.fallbackRefused exchange) leg.adapter).outcome = .noFallback e ∨
      (runEngines (leg.env.proxy.isEnabled exchange) leg.engine.placed leg.engine.placeOrder
        (req.fallbackRefused exchange) leg.adapter).outcome = .raised (.runtime e.message) := by
  unfold OpenTo at closed
  cases path : leg.path with
  | go =>
      simp only [path] at closed
      have adapter : leg.adapter.outcome = .error (.runtime "not called") := by
        simp only [LegCall.adapter, path]
      cases refused : req.fallbackRefused exchange with
      | some e => exact ⟨e, Or.inl (by simp [runEngines, runPython, closed])⟩
      | none =>
          exact ⟨userError "not called", Or.inr (by simp [runEngines, runPython, closed, adapter,
            userError])⟩
  | python keepsPrice keepsQty =>
      simp only [path] at closed
      obtain ⟨e, failed, fallback⟩ := engine_of_python path
      obtain ⟨refusal, refused⟩ := Option.ne_none_iff_exists'.mp closed
      refine ⟨refusal, Or.inl ?_⟩
      cases enabled : leg.env.proxy.isEnabled exchange <;>
        simp [runEngines, runPython, failed, fallback, refused]

/-- A successful leg returns the dictionary of its engine, extended with what was ordered, and
its row is finalized from the same dictionary. -/
theorem LegCall.run_of_succeeds (succeeds : leg.Succeeds req) :
    ∃ exchange quantity, (leg.run req).result =
        .ok (leg.answer.returned req exchange quantity leg.env.orderRowId) ∧
      (leg.run req).log = some (leg.answer.finalized quantity) := by
  obtain ⟨exchange, checked, preflight, reachable⟩ := succeeds
  cases qty : leg.env.preflightQty req.quantity with
  | error e =>
      rw [qty] at preflight
      cases preflight
  | ok quantity =>
      have outcome := outcome_of_open reachable
      refine ⟨exchange, quantity, ?_, ?_⟩
      · simp only [run, OrderEnv.placeOpenOrder, checked, qty, OrderEnv.dispatch, outcome]
      · simp only [run, OrderEnv.placeOpenOrder, checked, qty, OrderEnv.dispatch, outcome]

theorem LegCall.run_of_not_succeeds (fails : ¬ leg.Succeeds req) :
    ∃ e, (leg.run req).result = .error e := by
  unfold run OrderEnv.placeOpenOrder
  cases checked : leg.env.check req with
  | error e => exact ⟨e, rfl⟩
  | ok exchange =>
      cases qty : leg.env.preflightQty req.quantity with
      | error e => exact ⟨e, rfl⟩
      | ok quantity =>
          have closed : ¬ leg.OpenTo req exchange := fun reachable =>
            fails ⟨exchange, checked, by rw [qty]; rfl, reachable⟩
          obtain ⟨e, noFallback | raised⟩ := outcome_of_not_open closed
          · exact ⟨e, by simp only [OrderEnv.dispatch, noFallback]⟩
          · exact ⟨(PyError.runtime e.message).surfaced.1,
              by simp only [OrderEnv.dispatch, raised]⟩

/-- An accepted request asks for a positive quantity. -/
theorem LegCall.Succeeds.positive (succeeds : leg.Succeeds req) : 0 < req.quantity := by
  obtain ⟨exchange, checked, -, -⟩ := succeeds
  unfold OrderEnv.check at checked
  simp only at checked
  split at checked
  · cases checked
  split at checked
  · cases checked
  split at checked
  · cases checked
  split at checked
  · cases checked
  split at checked
  · cases checked
  case isFalse positive => exact not_le.mp positive

end Leg

/-! ## What a successful leg is folded with -/

section Folded

variable {leg : LegCall} {req : OrderRequest} {exchange : String} {quantity : ℚ} {row : Nat}

/-- The quantity that comes through, or else the requested one. -/
def LegCall.foldedQty (leg : LegCall) (qty : ℚ) : ℚ :=
  Python.orZero (Python.or_ leg.answer.filledQty (some qty))

/-- No path sets the keys the portion reads the price from: both branches fold price 0. -/
theorem LegCall.portionFill_returned (leg : LegCall) (qty : ℚ) :
    (leg.answer.returned req exchange quantity row).portionFill qty = ⟨0, leg.foldedQty qty⟩ := by
  unfold foldedQty
  cases path : leg.path <;>
    simp [OrderResult.portionFill, OrderResult.returned, answer, path]

theorem LegCall.lonelyFill_returned (leg : LegCall) (qty : ℚ) :
    (leg.answer.returned req exchange quantity row).lonelyFill qty = ⟨0, leg.foldedQty qty⟩ := by
  unfold foldedQty
  cases path : leg.path <;>
    simp [OrderResult.lonelyFill, OrderResult.returned, answer, path]

/-- The folded quantity is the reported one exactly when that is the requested quantity, or is
not zero and kept by the engine's result. -/
theorem LegCall.foldedQty_eq_iff {qty : ℚ} {filled : {qty : ℚ // 0 ≤ qty}}
    (reported : leg.fill.filledQty = some filled) :
    leg.foldedQty qty = filled.1 ↔ filled.1 = qty ∨
      ((∃ keepsPrice, leg.path = .python keepsPrice true) ∧ filled.1 ≠ 0) := by
  have given : leg.fill.qty = some filled.1 := congrArg (Option.map Subtype.val) reported
  unfold foldedQty answer
  cases path : leg.path with
  | go => simp [eq_comm]
  | python keepsPrice keepsQty =>
      cases keepsQty with
      | false => simp [eq_comm]
      | true =>
          by_cases zero : filled.1 = 0
          · have missing : Python.or_ leg.fill.qty none = none := by
              rw [given, zero]
              exact Python.or_zero none
            simp [missing, zero, eq_comm]
          · have kept : Python.or_ leg.fill.qty none = some filled.1 := by
              rw [given]
              exact Python.or_of_truthy none ((Python.truthy_some _).mpr zero)
            have through : Python.or_ (some filled.1) (some qty) = some filled.1 :=
              Python.or_of_truthy _ ((Python.truthy_some _).mpr zero)
            simp [kept, through, zero]

/-- A leg folded at price 0 with `foldedQty` is recorded as reported exactly when its report
loses nothing. -/
theorem LegCall.recorded_iff_lossless {qty heldQty : ℚ} {log : Option OrderLog}
    {entryPrice : Option ℚ} (positive : 0 < qty) :
    LegRecorded leg.fill log ⟨0, leg.foldedQty qty⟩ entryPrice heldQty ↔ leg.Lossless qty := by
  constructor
  · intro recorded
    constructor
    · cases reported : leg.fill.avgPrice with
      | none => rfl
      | some price =>
          have zero : (0 : ℚ) = price.1 := recorded.price price reported
          exact absurd zero price.2.ne
    · intro filled reported
      exact (foldedQty_eq_iff reported).mp (recorded.qty filled reported)
  · intro given
    rcases given with ⟨noPrice, lossless⟩
    refine ⟨fun price reported => ?_, fun filled reported => ?_, fun filled reported zero => ?_,
      fun reported => ?_⟩
    · rw [noPrice] at reported
      cases reported
    · exact (foldedQty_eq_iff reported).mpr (lossless filled reported)
    · rcases lossless filled reported with requested | ⟨-, nonzero⟩
      · exact absurd (requested.symm.trans zero) positive.ne'
      · exact absurd zero nonzero
    · rw [noPrice] at reported
      cases reported

end Folded

/-! ## A portion -/

/-- A portion records the fills of its legs as the venues reported them exactly when the
reports of its successful legs lose nothing on their way. -/
theorem portionRecorded_iff_lossless (d : Db) (order : ArbTriggerOrder) (qty : ℚ)
    (long short : LegCall) (now : Time) :
    PortionRecorded d order qty long short now ↔
      (long.Succeeds (order.longRequest qty) → long.Lossless qty) ∧
      (short.Succeeds (order.shortRequest qty) → short.Lossless qty) := by
  by_cases longOk : long.Succeeds (order.longRequest qty)
  · obtain ⟨longEx, longQty, longRes, longLog⟩ := LegCall.run_of_succeeds longOk
    have positive : 0 < qty := longOk.positive
    by_cases shortOk : short.Succeeds (order.shortRequest qty)
    · obtain ⟨shortEx, shortQty, shortRes, shortLog⟩ := LegCall.run_of_succeeds shortOk
      simp only [PortionRecorded, longRes, shortRes, foldedFills, LegCall.portionFill_returned,
        Option.mem_def, Option.some.injEq, forall_eq', Except.isOk, Except.toBool,
        LegCall.recorded_iff_lossless positive, longOk, shortOk]
    · obtain ⟨e, shortRes⟩ := LegCall.run_of_not_succeeds shortOk
      simp only [PortionRecorded, longRes, shortRes, foldedFills, LegCall.lonelyFill_returned,
        Option.mem_def, Option.some.injEq, forall_eq', Except.isOk, Except.toBool,
        LegCall.recorded_iff_lossless positive, longOk, shortOk]
      simp
  · obtain ⟨e, longRes⟩ := LegCall.run_of_not_succeeds longOk
    by_cases shortOk : short.Succeeds (order.shortRequest qty)
    · obtain ⟨shortEx, shortQty, shortRes, shortLog⟩ := LegCall.run_of_succeeds shortOk
      have positive : 0 < qty := shortOk.positive
      simp only [PortionRecorded, longRes, shortRes, foldedFills, LegCall.lonelyFill_returned,
        Option.mem_def, Option.some.injEq, forall_eq', Except.isOk, Except.toBool,
        LegCall.recorded_iff_lossless positive, longOk, shortOk]
      simp
    · obtain ⟨e', shortRes⟩ := LegCall.run_of_not_succeeds shortOk
      simp [PortionRecorded, longRes, shortRes, foldedFills, longOk, shortOk]

/-! ## A half-filled portion -/

/-- Both venues of `twoWallets` on the cutover list. -/
def cutoverEnv : OrderEnv where
  wallets := twoWallets
  proxy := ⟨"secret", "bybit,okx"⟩

/-- A leg through the Go engine. -/
def goLeg (fill : VenueFill) : LegCall where
  env := cutoverEnv
  path := .go
  fill
  orderId := some "1"

def halfLong : LegCall := goLeg ⟨some ⟨100, by norm_num⟩, some ⟨1 / 2, by norm_num⟩⟩

def emptyShort : LegCall := goLeg ⟨none, some ⟨0, le_rfl⟩⟩

/-- Half of the long leg fills at 100 and nothing of the short leg: both are folded as one
token at price 0, and the empty one is logged as filled. -/
theorem portionRecorded_broken_by_half_fill :
    ¬ PortionRecorded freshSys.db (openedRow 1 1) 1 halfLong emptyShort 1000 ∧
      foldedFills 1 (halfLong.run ((openedRow 1 1).longRequest 1)).result
        (emptyShort.run ((openedRow 1 1).shortRequest 1)).result = some (⟨0, 1⟩, ⟨0, 1⟩) ∧
      (emptyShort.run ((openedRow 1 1).shortRequest 1)).log.map OrderLog.status = some .filled := by
  have folded : foldedFills 1 (halfLong.run ((openedRow 1 1).longRequest 1)).result
      (emptyShort.run ((openedRow 1 1).shortRequest 1)).result = some (⟨0, 1⟩, ⟨0, 1⟩) := by
    decide +kernel
  have succeeded : (halfLong.run ((openedRow 1 1).longRequest 1)).result.isOk = true := by
    decide +kernel
  refine ⟨fun recorded => ?_, folded, by decide +kernel⟩
  have price : (0 : ℚ) = 100 := ((recorded _ folded).1 succeeded).price _ rfl
  norm_num at price

end Avalant
