import Avalant.Trade.OneOrder

/-!
The `trade_orders` row of an order call, when the call ends.

Every exit of the engine part finalises the row, but for one: `place_open_order` raises the error of
a request that may not go to the adapter inside the `try` whose handler lets a `TradeError` through.
`close_position` finalises the row before it raises its own.
-/

namespace Avalant

open Relational

/-- The row that the call has inserted, if any, is no longer pending. -/
def OrderRun.Finalised (run : OrderRun) : Prop :=
  ∀ log, run.log = some log → log.status ≠ .pending

/-- The request cannot be placed by the Python adapter of a venue: it is a spot order on one that
only has futures, or no market order. -/
def OrderRequest.NeedsEngine (req : OrderRequest) (exchange : String) : Prop :=
  (req.isSpot = true ∧ spotNative exchange = false) ∨ req.orderType ≠ "market"

/-- The Go engine does not take the request: its venue is not on the list, or its client takes the
call for failed. -/
def OrderEnv.EngineOut (env : OrderEnv) (exchange : String) (go : GoEngine) : Prop :=
  env.proxy.isEnabled exchange = false ∨ go.last.looksFailed = true

/-- A request that passes every check and needs an engine that is out. -/
def OrderEnv.Strands (env : OrderEnv) (req : OrderRequest) (go : GoEngine) : Prop :=
  ∃ exchange, env.check req = .ok exchange ∧ (env.preflightQty req.quantity).isOk = true ∧
    env.EngineOut exchange go ∧ req.NeedsEngine exchange

theorem loggedStatus_ne_pending (quantity fillQty : ℚ) :
    loggedStatus quantity fillQty ≠ .pending := by
  unfold loggedStatus
  split
  · nofun
  · split <;> nofun

theorem OrderRequest.fallbackRefused_eq_none_iff {req : OrderRequest} {exchange : String} :
    req.fallbackRefused exchange = none ↔ ¬req.NeedsEngine exchange := by
  unfold fallbackRefused NeedsEngine
  by_cases spot : req.isSpot = true ∧ spotNative exchange = false
  · simp [spot]
  · rw [if_neg (by simpa using spot)]
    by_cases market : req.orderType = "market" <;> simp [spot, market]

section Engines

variable {enabled goPlaced : Bool} {call : Except PostError OrderResult}
  {refused : Option TradeError} {py : AdapterCall}

theorem runPython_noFallback_iff {e : TradeError} :
    (runPython goPlaced refused py).outcome = .noFallback e ↔ refused = some e := by
  unfold runPython
  cases refused with
  | some e' => simp
  | none => cases outcome : py.outcome <;> simp

/-- The engines end without a fallback where the adapter's turn comes and it may not be called. -/
theorem runEngines_noFallback_iff {e : TradeError} :
    (runEngines enabled goPlaced call refused py).outcome = .noFallback e ↔
      (enabled = false ∨ ∃ err, call = .error (.go err) ∧ err.final = none) ∧
        refused = some e := by
  cases enabled with
  | false => simp [runEngines, runPython_noFallback_iff]
  | true =>
      cases call with
      | ok res => simp [runEngines]
      | error err =>
          cases err with
          | other err => simp [runEngines]
          | go err =>
              cases final : err.final with
              | some kind => simp [runEngines, final]
              | none => simp [runEngines, final, runPython_noFallback_iff]

end Engines

/-- The dispatched row stays pending where the engines end without a fallback. -/
theorem OrderEnv.dispatch_finalised_iff (env : OrderEnv) (req : OrderRequest) (exchange : String)
    (quantity : ℚ) (go : GoEngine) (py : AdapterCall) :
    (env.dispatch req exchange quantity go py).Finalised ↔
      ¬(env.EngineOut exchange go ∧ req.NeedsEngine exchange) := by
  have stranded : (∃ e, (runEngines (env.proxy.isEnabled exchange) go.placed go.placeOrder
      (req.fallbackRefused exchange) py).outcome = .noFallback e) ↔
        env.EngineOut exchange go ∧ req.NeedsEngine exchange := by
    simp only [runEngines_noFallback_iff, go.placeOrder_fallback_iff]
    rw [exists_and_left, ← Option.ne_none_iff_exists', Ne, OrderRequest.fallbackRefused_eq_none_iff,
      not_not]
    rfl
  rw [← stranded]
  unfold OrderRun.Finalised dispatch
  simp only [Option.some.injEq, forall_eq']
  cases (runEngines (env.proxy.isEnabled exchange) go.placed go.placeOrder
    (req.fallbackRefused exchange) py).outcome with
  | answered res => simpa [OrderResult.finalized] using loggedStatus_ne_pending _ _
  | refused e => simp [OrderLog.fail]
  | noFallback e => simp
  | raised e => simp [OrderLog.raised, OrderLog.fail]

theorem OrderEnv.placeOpenOrder_finalised_iff (env : OrderEnv) (req : OrderRequest)
    (go : GoEngine) (py : AdapterCall) :
    (env.placeOpenOrder req go py).Finalised ↔ ¬env.Strands req go := by
  unfold placeOpenOrder Strands
  cases checked : env.check req with
  | error e => simp [OrderRun.Finalised, OrderRun.refused]
  | ok exchange =>
      cases qty : env.preflightQty req.quantity with
      | error e => simp [OrderRun.Finalised, OrderLog.fail, Except.isOk, Except.toBool]
      | ok quantity =>
          rw [dispatch_finalised_iff]
          refine not_congr ⟨?_, ?_⟩
          · rintro ⟨out, needs⟩
            exact ⟨exchange, rfl, rfl, out, needs⟩
          · rintro ⟨exchange', same, -, out, needs⟩
            cases same
            exact ⟨out, needs⟩

/-- A close never leaves its row pending. -/
theorem OrderEnv.closePosition_finalised (env : OrderEnv) (req : CloseRequest) (go : GoEngine)
    (py : AdapterCall) : (env.closePosition req go py).Finalised := by
  unfold closePosition
  cases tradingWallet env.wallets req.userId req.walletId Wallet.typeValue with
  | error e => simp [OrderRun.Finalised, OrderRun.refused]
  | ok exchange =>
      unfold OrderRun.Finalised dispatchClose
      simp only [Option.some.injEq, forall_eq']
      cases (runEngines (env.proxy.isEnabled exchange) go.placed go.closePosition
        ((pythonCloseFallbackUnsafe exchange req.marketType).map userError) py).outcome with
      | answered res => simp [OrderResult.closed]
      | refused e => simp [OrderLog.fail]
      | noFallback e => simp [OrderLog.fail]
      | raised e => simp [OrderLog.raised, OrderLog.fail]

/-- No row stays pending, exactly if no open request is left that needs an engine that is out. -/
theorem finalised_iff_not_stranded (env : OrderEnv) (go : GoEngine) (py : AdapterCall) :
    (∀ req : OrderRequest, (env.placeOpenOrder req go py).Finalised ↔ ¬env.Strands req go) ∧
      ∀ req : CloseRequest, (env.closePosition req go py).Finalised :=
  ⟨fun req => env.placeOpenOrder_finalised_iff req go py,
    fun req => env.closePosition_finalised req go py⟩

/-- A limit order whose engine is out of reach. -/
def limitRequest : OrderRequest :=
  { buyRequest with orderType := "limit" }

def unreachable : GoEngine where
  first := .connectError "refused"
  second := .connectError "refused"

/-- The call raises, and its row is pending. -/
theorem limit_stays_pending :
    (bybitEnv.placeOpenOrder limitRequest unreachable adapterFilled).result.isOk = false ∧
      ((bybitEnv.placeOpenOrder limitRequest unreachable adapterFilled).log.map OrderLog.status) =
        some .pending ∧
      ¬(bybitEnv.placeOpenOrder limitRequest unreachable adapterFilled).Finalised := by
  have pending : (bybitEnv.placeOpenOrder limitRequest unreachable adapterFilled).log.map
      OrderLog.status = some .pending := by decide +kernel
  have raised : (bybitEnv.placeOpenOrder limitRequest unreachable adapterFilled).result.isOk =
      false := by decide +kernel
  refine ⟨raised, pending, fun finalised => ?_⟩
  obtain ⟨log, logged, status⟩ := Option.map_eq_some_iff.mp pending
  exact finalised log logged status

end Avalant
