import Avalant.Trade.PlaceOrder

/-!
At most one venue order for a request.

Both order calls send the request a second time, through the Python adapter,
whenever the engine's error is no final refusal. A read timeout, a disconnect
and an error status of kind `transient`, `internal` or `rate_limit` are such
errors, and none of them says that the engine has not placed the order. The
engine's client itself repeats a POST only after a connect error.
-/

namespace Avalant

open Relational

/-- The venue accepted one order at most, and the adapter was called only when the engine had
placed none. -/
def OrderRun.AtMostOne (run : OrderRun) : Prop :=
  run.placed ≤ 1 ∧ (run.python.isSome = true → run.goPlaced = false)

/-- The engine placed the order and its client takes the call for failed. -/
def GoEngine.LostOrder (go : GoEngine) : Prop :=
  go.placed = true ∧ go.last.looksFailed = true

/-- An open request that passes every check, goes to the engine first, and may go on to the
adapter. -/
def OrderEnv.Resends (env : OrderEnv) (req : OrderRequest) : Prop :=
  ∃ exchange, env.check req = .ok exchange ∧ (env.preflightQty req.quantity).isOk = true ∧
    env.proxy.isEnabled exchange = true ∧ req.fallbackRefused exchange = none

/-- A close request that passes every check, goes to the engine first, and may go on to the
adapter. -/
def OrderEnv.CloseResends (env : OrderEnv) (req : CloseRequest) : Prop :=
  ∃ exchange, tradingWallet env.wallets req.userId req.walletId Wallet.typeValue = .ok exchange ∧
    env.proxy.isEnabled exchange = true ∧
    pythonCloseFallbackUnsafe exchange req.marketType = none

/-! ## The two engines -/

section Engines

variable {enabled goPlaced : Bool} {call : Except PostError OrderResult}
  {refused : Option TradeError} {py : AdapterCall}

/-- The adapter runs after the engine exactly when the engine's error is no final refusal and
nothing forbids it. -/
theorem runEngines_python_iff :
    (runEngines true goPlaced call refused py).python.isSome = true ↔
      (∃ e, call = .error (.go e) ∧ e.final = none) ∧ refused = none := by
  have adapter : (runPython goPlaced refused py).python.isSome = true ↔ refused = none := by
    unfold runPython
    cases refused with
    | some e => simp
    | none => cases outcome : py.outcome <;> simp
  cases call with
  | ok res => simp [runEngines]
  | error e =>
      cases e with
      | other e => simp [runEngines]
      | go e =>
          cases final : e.final with
          | some kind => simp [runEngines, final]
          | none => simpa [runEngines, final] using adapter

theorem runPython_goPlaced : (runPython goPlaced refused py).goPlaced = goPlaced := by
  unfold runPython
  split
  · rfl
  · split <;> rfl

theorem runEngines_goPlaced :
    (runEngines true goPlaced call refused py).goPlaced = goPlaced := by
  unfold runEngines
  rw [if_pos rfl]
  split
  · rfl
  · rfl
  · split
    · rfl
    · exact runPython_goPlaced

theorem runEngines_disabled :
    (runEngines false goPlaced call refused py).goPlaced = false := by
  unfold runEngines
  exact runPython_goPlaced

end Engines

/-- A run is safe exactly when the adapter was not called after the engine placed an order. -/
theorem OrderRun.atMostOne_iff (run : OrderRun) :
    run.AtMostOne ↔ ¬ (run.goPlaced = true ∧ run.python.isSome = true) := by
  unfold AtMostOne placed
  rcases run with ⟨goPlaced, python, result, log⟩
  cases goPlaced with
  | false =>
      refine iff_of_true ⟨?_, fun _ => rfl⟩ (by simp)
      simpa using Bool.toNat_le _
  | true =>
      cases python with
      | none => simp
      | some placed => simp

/-- The engines are safe unless the engine placed an order its client takes for failed and
the fallback is open. -/
theorem runEngines_safe_iff (enabled : Bool) (go : GoEngine) (refused : Option TradeError)
    (py : AdapterCall) {call : Except PostError OrderResult}
    (client : (∃ e, call = .error (.go e) ∧ e.final = none) ↔ go.last.looksFailed = true) :
    ((runEngines enabled go.placed call refused py).goPlaced = true ∧
        (runEngines enabled go.placed call refused py).python.isSome = true) ↔
      enabled = true ∧ go.LostOrder ∧ refused = none := by
  cases enabled with
  | false => simp [runEngines_disabled]
  | true =>
      rw [runEngines_goPlaced, runEngines_python_iff, client]
      exact ⟨fun ⟨placed, looksFailed, allowed⟩ => ⟨rfl, ⟨placed, looksFailed⟩, allowed⟩,
        fun ⟨_, ⟨placed, looksFailed⟩, allowed⟩ => ⟨placed, looksFailed, allowed⟩⟩

/-! ## The order calls -/

theorem OrderEnv.dispatch_atMostOne_iff (env : OrderEnv) (req : OrderRequest)
    (exchange : String) (quantity : ℚ) (go : GoEngine) (py : AdapterCall) :
    (env.dispatch req exchange quantity go py).AtMostOne ↔
      ¬ (env.proxy.isEnabled exchange = true ∧ go.LostOrder ∧
        req.fallbackRefused exchange = none) := by
  have engines := runEngines_safe_iff (env.proxy.isEnabled exchange) go
    (req.fallbackRefused exchange) py go.placeOrder_fallback_iff
  rw [OrderRun.atMostOne_iff]
  simp only [dispatch]
  exact not_congr engines

theorem OrderEnv.dispatchClose_atMostOne_iff (env : OrderEnv) (req : CloseRequest)
    (exchange : String) (go : GoEngine) (py : AdapterCall) :
    (env.dispatchClose req exchange go py).AtMostOne ↔
      ¬ (env.proxy.isEnabled exchange = true ∧ go.LostOrder ∧
        pythonCloseFallbackUnsafe exchange req.marketType = none) := by
  have engines := runEngines_safe_iff (env.proxy.isEnabled exchange) go
    ((pythonCloseFallbackUnsafe exchange req.marketType).map userError) py
    go.closePosition_fallback_iff
  rw [Option.map_eq_none_iff] at engines
  rw [OrderRun.atMostOne_iff]
  simp only [dispatchClose]
  exact not_congr engines

theorem OrderEnv.placeOpenOrder_atMostOne_iff (env : OrderEnv) (req : OrderRequest)
    (go : GoEngine) (py : AdapterCall) :
    (env.placeOpenOrder req go py).AtMostOne ↔ ¬ (env.Resends req ∧ go.LostOrder) := by
  unfold placeOpenOrder Resends
  cases checked : env.check req with
  | error e => simp [OrderRun.refused, OrderRun.AtMostOne, OrderRun.placed]
  | ok exchange =>
      cases qty : env.preflightQty req.quantity with
      | error e => simp [OrderRun.AtMostOne, OrderRun.placed, Except.isOk, Except.toBool]
      | ok quantity =>
          rw [dispatch_atMostOne_iff]
          refine not_congr ⟨fun ⟨enabled, lost, allowed⟩ => ?_, ?_⟩
          · exact ⟨⟨exchange, rfl, rfl, enabled, allowed⟩, lost⟩
          · intro given
            rcases given with ⟨⟨exchange', same, -, enabled, allowed⟩, lost⟩
            cases same
            exact ⟨enabled, lost, allowed⟩

theorem OrderEnv.closePosition_atMostOne_iff (env : OrderEnv) (req : CloseRequest)
    (go : GoEngine) (py : AdapterCall) :
    (env.closePosition req go py).AtMostOne ↔ ¬ (env.CloseResends req ∧ go.LostOrder) := by
  unfold closePosition CloseResends
  cases checked : tradingWallet env.wallets req.userId req.walletId Wallet.typeValue with
  | error e => simp [OrderRun.refused, OrderRun.AtMostOne, OrderRun.placed]
  | ok exchange =>
      rw [dispatchClose_atMostOne_iff]
      refine not_congr ⟨fun ⟨enabled, lost, allowed⟩ => ?_, ?_⟩
      · exact ⟨⟨exchange, rfl, enabled, allowed⟩, lost⟩
      · intro given
        rcases given with ⟨⟨exchange', same, enabled, allowed⟩, lost⟩
        cases same
        exact ⟨enabled, lost, allowed⟩

/-- Both order calls send at most one order, exactly when the engine did not place an order
that its client takes for failed while the fallback was open to the request. -/
theorem atMostOneOrder_iff_not_lost (env : OrderEnv) (go : GoEngine) (py : AdapterCall) :
    (∀ req : OrderRequest,
      (env.placeOpenOrder req go py).AtMostOne ↔ ¬ (env.Resends req ∧ go.LostOrder)) ∧
    ∀ req : CloseRequest,
      (env.closePosition req go py).AtMostOne ↔ ¬ (env.CloseResends req ∧ go.LostOrder) :=
  ⟨fun req => env.placeOpenOrder_atMostOne_iff req go py,
    fun req => env.closePosition_atMostOne_iff req go py⟩

/-! ## A lost answer -/

/-- One bybit wallet, with bybit on the cutover list. -/
def bybitEnv : OrderEnv where
  wallets := Table.insertAll Table.empty [⟨1, 9, .exchange, "bybit", .screener, false⟩]
  proxy := ⟨"secret", "bybit"⟩

/-- The engine places the order and its answer is lost to a read timeout. -/
def readTimeout : GoEngine where
  first := .requestError true "ReadTimeout('')"
  second := .connectError ""

/-- The adapter's order fills at 100. -/
def adapterFilled : AdapterCall where
  placed := true
  outcome := .ok { orderId := some "2", avgPrice := some 100 }

def buyRequest : OrderRequest where
  userId := 9
  walletId := 1
  symbol := "BTCUSDT"
  side := "buy"
  quantity := 1
  leverage := 1
  marginMode := "isolated"

def sellRequest : CloseRequest where
  userId := 9
  walletId := 1
  symbol := "BTCUSDT"
  side := some "sell"

/-- Two orders for one open request, and two for one close request. -/
theorem atMostOneOrder_broken_by_readTimeout :
    ¬ (bybitEnv.placeOpenOrder buyRequest readTimeout adapterFilled).AtMostOne ∧
      (bybitEnv.placeOpenOrder buyRequest readTimeout adapterFilled).placed = 2 ∧
      ¬ (bybitEnv.closePosition sellRequest readTimeout adapterFilled).AtMostOne ∧
      (bybitEnv.closePosition sellRequest readTimeout adapterFilled).placed = 2 := by
  have openTwice : (bybitEnv.placeOpenOrder buyRequest readTimeout adapterFilled).placed = 2 := by
    decide +kernel
  have closeTwice : (bybitEnv.closePosition sellRequest readTimeout adapterFilled).placed = 2 := by
    decide +kernel
  refine ⟨fun safe => ?_, openTwice, fun safe => ?_, closeTwice⟩
  · have atMost := safe.1
    omega
  · have atMost := safe.1
    omega

end Avalant
