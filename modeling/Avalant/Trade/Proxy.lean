import Avalant.Trade.Result

/-!
The HTTP client of the Go trade engine (`backend/services/trade_proxy.py`).

A call POSTs once, and once more after a connect error, which is the one
failure after which nothing was sent. Every other failure is read off the
answer alone: whether the engine had placed the order by then is not something
the client can see. In the model each attempt carries that fact (`placed`)
beside what the client gets.

One request makes the engine send the venue at most one order.
-/

namespace Avalant

/-! ## Which venues go through the engine -/

/-- The environment variables of the cutover. -/
structure ProxyEnv where
  internalSecret : String
  goTradeVenues : String
  deriving DecidableEq, Repr

/-- `_enabled_venues`. -/
def ProxyEnv.enabledVenues (env : ProxyEnv) : List String :=
  (((Python.strip env.goTradeVenues).toList.splitOn ',').map fun v =>
    Python.lower (Python.strip (String.ofList v))).filter (· != "")

/-- `is_enabled`. -/
def ProxyEnv.isEnabled (env : ProxyEnv) (exchange : String) : Bool :=
  Python.strip env.internalSecret != "" && env.enabledVenues.contains (Python.lower exchange)

/-! ## One attempt -/

/-- A JSON field that the client passes through `float(v or 0)`. -/
inductive JsonNumber
  | missing
  | number (x : ℚ)
  | malformed (text : String)
  deriving DecidableEq, Repr

/-- `float(v or 0)`. -/
def JsonNumber.float : JsonNumber → Except PyError ℚ
  | .missing => .ok 0
  | .number x => .ok x
  | .malformed text => .error (.other "ValueError" s!"could not convert string to float: '{text}'")

/-- The keys of an engine answer that some caller reads. -/
structure GoPayload where
  kind : Option String := none
  error : Option String := none
  code : Option String := none
  orderId : Option String := none
  avgPrice : JsonNumber := .missing
  quantity : JsonNumber := .missing
  status : Option String := none
  clientOrderId : Option String := none
  deriving DecidableEq, Repr

inductive GoBody
  /-- no JSON -/
  | text (text : String)
  | object (payload : GoPayload)
  /-- JSON that is no object: the first `.get` on it raises -/
  | other (typeName : String)
  deriving DecidableEq, Repr

/-- What a POST comes to. `placed` says whether the venue accepted an order on it. -/
inductive Attempt
  /-- `ConnectError` or `ConnectTimeout`: nothing was sent -/
  | connectError (message : String)
  /-- any other `RequestError`: read or write timeout, disconnect -/
  | requestError (placed : Bool) (message : String)
  /-- an exception that is no `RequestError` -/
  | raised (placed : Bool) (error : PyError)
  | answered (placed : Bool) (statusCode : Nat) (body : GoBody)
  deriving DecidableEq, Repr

def Attempt.placed : Attempt → Bool
  | .connectError _ => false
  | .requestError placed _ | .raised placed _ | .answered placed _ _ => placed

structure GoTradeError where
  kind : String
  message : String
  code : Option String := none
  deriving DecidableEq, Repr

/-- An exception of a proxy call: its own error, or any other. -/
inductive PostError
  | go (error : GoTradeError)
  | other (error : PyError)
  deriving DecidableEq, Repr

def networkError (message : String) : PostError :=
  .go { kind := "transient", message := "proxy network error: " ++ message }

/-- What `_post` makes of an attempt that it does not repeat. -/
def Attempt.settle : Attempt → Except PostError GoPayload
  | .connectError message | .requestError _ message => .error (networkError message)
  | .raised _ error => .error (.other error)
  | .answered _ statusCode body =>
      if statusCode = 204 then .ok {}
      else
        match body with
        | .other typeName =>
            .error (.other
              (.other "AttributeError" s!"'{typeName}' object has no attribute 'get'"))
        | .object payload =>
            if 400 ≤ statusCode then
              .error (.go
                { kind := Python.orStr payload.kind "internal"
                  message := Python.orStr payload.error "proxy returned error"
                  code := payload.code })
            else .ok payload
        | .text text =>
            let error := Python.orStr (some text) "<no body>"
            if 400 ≤ statusCode then .error (.go { kind := "internal", message := error })
            else .ok { error := some error }

/-! ## A call -/

/-- What the engine does with the first POST of a call, and with a second one. -/
structure GoEngine where
  first : Attempt
  second : Attempt
  deriving DecidableEq, Repr

/-- The attempt that decides the call: the second one after a connect error. -/
def GoEngine.last (go : GoEngine) : Attempt :=
  match go.first with
  | .connectError _ => go.second
  | first => first

/-- `_post`. -/
def GoEngine.post (go : GoEngine) : Except PostError GoPayload :=
  go.last.settle

/-- The engine placed an order in the call. -/
def GoEngine.placed (go : GoEngine) : Bool :=
  go.last.placed

/-- `place_order` of the client. -/
def GoEngine.placeOrder (go : GoEngine) : Except PostError OrderResult :=
  match go.post with
  | .error e => .error e
  | .ok out =>
      match out.avgPrice.float with
      | .error e => .error (.other e)
      | .ok avgPrice =>
          .ok
            { orderId := out.orderId
              avgPrice := some avgPrice
              status := out.status
              clientOrderId := out.clientOrderId }

/-- `close_position` of the client. -/
def GoEngine.closePosition (go : GoEngine) : Except PostError OrderResult :=
  match go.post with
  | .error e => .error e
  | .ok out =>
      match out.quantity.float, out.avgPrice.float with
      | .ok closedQty, .ok avgPrice =>
          .ok
            { orderId := out.orderId
              closedQty := some closedQty
              avgPrice := some avgPrice
              status := out.status }
      | .error e, _ | .ok _, .error e => .error (.other e)

/-! ## Errors of a call -/

/-- `gerr.kind in ("user", "exchange")`: surfaced, without a fallback. -/
def GoTradeError.final (e : GoTradeError) : Option TradeErrorKind :=
  if e.kind = "user" then some .user
  else if e.kind = "exchange" then some .exchange
  else none

/-- The client cannot tell this attempt from an engine that did nothing: a network error, or
an error status whose kind is neither `user` nor `exchange`. -/
def Attempt.looksFailed : Attempt → Bool
  | .connectError _ | .requestError _ _ => true
  | .raised _ _ => false
  | .answered _ statusCode body =>
      decide (400 ≤ statusCode) &&
        match body with
        | .text _ => true
        | .object payload => payload.kind != some "user" && payload.kind != some "exchange"
        | .other _ => false

theorem GoTradeError.final_eq_none {e : GoTradeError} :
    e.final = none ↔ e.kind ≠ "user" ∧ e.kind ≠ "exchange" := by
  unfold final
  by_cases user : e.kind = "user"
  · simp [user]
  · by_cases exchange : e.kind = "exchange" <;> simp [user, exchange]

/-- A missing or empty kind counts as `internal`. -/
theorem orStr_internal {kind : Option String} {final : String} (nonEmpty : final ≠ "")
    (other : final ≠ "internal") : Python.orStr kind "internal" = final ↔ kind = some final := by
  unfold Python.orStr
  split
  · exact ⟨fun same => absurd same.symm other, nofun⟩
  · exact ⟨fun same => absurd same.symm other,
      fun same => absurd (Option.some.inj same).symm nonEmpty⟩
  · simp

/-- The proxy errors that are no final refusal are those of an attempt that looks failed. -/
theorem Attempt.settle_fallback_iff (attempt : Attempt) :
    (∃ e, attempt.settle = .error (.go e) ∧ e.final = none) ↔ attempt.looksFailed = true := by
  cases attempt with
  | connectError message =>
      exact ⟨fun _ => rfl, fun _ => ⟨_, rfl, by simp [GoTradeError.final]⟩⟩
  | requestError placed message =>
      exact ⟨fun _ => rfl, fun _ => ⟨_, rfl, by simp [GoTradeError.final]⟩⟩
  | raised placed error => simp [settle, looksFailed]
  | answered placed statusCode body =>
      by_cases empty : statusCode = 204
      · simp [settle, looksFailed, empty]
      by_cases failed : 400 ≤ statusCode
      · cases body with
        | other typeName => simp [settle, looksFailed, empty]
        | text text => simp [settle, looksFailed, empty, failed, GoTradeError.final]
        | object payload =>
            have user := @orStr_internal payload.kind "user" (by decide) (by decide)
            have exchange := @orStr_internal payload.kind "exchange" (by decide) (by decide)
            simp [settle, looksFailed, empty, failed, GoTradeError.final_eq_none, user, exchange]
      · cases body <;> simp [settle, looksFailed, empty, failed]

/-- An open call of the engine ends in an error that allows the fallback exactly when its last
attempt looks failed. -/
theorem GoEngine.placeOrder_fallback_iff (go : GoEngine) :
    (∃ e, go.placeOrder = .error (.go e) ∧ e.final = none) ↔ go.last.looksFailed = true := by
  rw [← Attempt.settle_fallback_iff]
  unfold placeOrder post
  cases settled : go.last.settle with
  | error e => simp
  | ok out =>
      rcases price : out.avgPrice.float with _ | _
      · simp [price]
      · simp [price]

theorem GoEngine.closePosition_fallback_iff (go : GoEngine) :
    (∃ e, go.closePosition = .error (.go e) ∧ e.final = none) ↔ go.last.looksFailed = true := by
  rw [← Attempt.settle_fallback_iff]
  unfold closePosition post
  cases settled : go.last.settle with
  | error e => simp
  | ok out =>
      rcases qty : out.quantity.float with _ | _
      · simp [qty]
      · rcases price : out.avgPrice.float with _ | _
        · simp [qty, price]
        · simp [qty, price]

end Avalant
