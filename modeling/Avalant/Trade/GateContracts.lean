import Avalant.Lib.Ascii
import Avalant.Lib.Go
import Mathlib.Algebra.Order.Field.Rat
import Mathlib.Algebra.Order.Group.Unbundled.Abs
import Mathlib.Data.Rat.Floor
import Mathlib.Tactic.FieldSimp
import Mathlib.Tactic.Linarith
import Mathlib.Tactic.NormNum
import Mathlib.Tactic.Ring

/-!
Coins and contracts of Gate futures.

Orders, positions and closed positions of the engine are in coins, and Gate counts contracts. A
contract is a fixed number of coins, its multiplier. Arithmetic is exact.
-/

namespace Avalant

namespace GateTrade

inductive Side where
  | buy
  | sell
deriving DecidableEq

/-- Of a position of the side. -/
def Side.signed (side : Side) (x : ℚ) : ℚ :=
  if side = .sell then -x else x

inductive OrderType where
  | market
  | limit
  | stopMarket
  | takeProfitMarket
deriving DecidableEq

structure Contract where
  quantoMultiplier : ℚ
  orderSizeMin : ℤ
  enableDecimal : Bool
deriving DecidableEq

structure OpenRequest where
  symbol : String
  side : Side
  quantity : ℚ
  leverage : ℤ := 1
  orderType : OrderType := .market
  limitPrice : ℚ := 0
  stopPrice : ℚ := 0

def OpenRequest.validate (req : OpenRequest) : Except String Unit :=
  if req.symbol = "" then .error "symbol required"
  else if req.quantity ≤ 0 then .error "quantity must be > 0"
  else if req.orderType = .limit ∧ req.limitPrice ≤ 0 then
    .error "limit_price required for limit orders"
  else if (req.orderType = .stopMarket ∨ req.orderType = .takeProfitMarket) ∧ req.stopPrice ≤ 0 then
    .error "stop_price required for stop/take_profit orders"
  else if req.leverage ≤ 0 then .error "leverage must be > 0"
  else .ok ()

def toGateSymbol (sym : String) : String :=
  Ascii.upper sym ++ "_USDT"

/-! ## Orders -/

/-- `int64(x)`, which is the least number where it overflows. -/
def toInt64 (n : ℤ) : ℤ :=
  (Go.int64 n).getD (-2 ^ 63)

/-- `int(x)`, without the fraction. -/
def toInt (x : ℚ) : ℤ :=
  toInt64 (x.num.tdiv x.den)

def coinsToContracts (qty quanto : ℚ) : ℤ :=
  if quanto ≤ 0 then toInt64 qty.floor else toInt64 (qty / quanto).floor

/-- The size of an order, a text where the contract allows decimals. -/
inductive Size where
  | text (raw : ℚ)
  | number (num : ℤ)
deriving DecidableEq

def Size.contracts : Size → ℚ
  | .text raw => raw
  | .number num => num

def orderSize (contract : String) (info : Contract) (req : OpenRequest) : Except String Size :=
  if info.enableDecimal then
    let raw := if 0 < info.quantoMultiplier then req.quantity / info.quantoMultiplier
      else req.quantity
    let raw : ℚ := (raw * 10).floor / 10
    if raw ≤ 0 then
      .error ("quantity too small for " ++ contract ++ " (rounds to 0 contracts)")
    else .ok (.text (if req.side = .sell then -raw else raw))
  else
    let num := coinsToContracts req.quantity info.quantoMultiplier
    if num ≤ 0 ∨ num < info.orderSizeMin then
      .error ("quantity too small for " ++ contract ++ " (min " ++ toString info.orderSizeMin ++
        " contracts)")
    else .ok (.number (if req.side = .sell then -num else num))

/-- What is posted to `orders`, or to `price_orders`. -/
inductive Body where
  | order (contract : String) (size : Size) (price : ℚ) (tif : String)
  | priceOrder (contract : String) (size : Size) (triggerPrice : ℚ) (rule : ℤ)
deriving DecidableEq

def Body.size : Body → Size
  | .order _ size _ _ => size
  | .priceOrder _ size _ _ => size

def orderBody (contract : String) (size : Size) (req : OpenRequest) : Body :=
  match req.orderType with
  | .limit => .order contract size req.limitPrice "gtc"
  | .stopMarket => .priceOrder contract size req.stopPrice 2
  | .takeProfitMarket => .priceOrder contract size req.stopPrice 1
  | .market => .order contract size 0 "ioc"

/-- An order in a response. Prices and sizes that cannot be read are 0. -/
structure Answer where
  id : String
  fillPrice : ℚ
  status : String
  size : ℚ

structure Result where
  orderId : String := ""
  symbol : String
  side : Option Side := none
  quantity : ℚ := 0
  avgPrice : ℚ := 0
  status : String
deriving DecidableEq

/-- The result of an order that was taken. -/
def orderResult (req : OpenRequest) (answer : Answer) : Result :=
  match req.orderType with
  | .stopMarket | .takeProfitMarket =>
      { orderId := answer.id, symbol := req.symbol, side := some req.side,
        quantity := req.quantity, status := "PENDING" }
  | .market | .limit =>
      { orderId := answer.id, symbol := req.symbol, side := some req.side,
        quantity := req.quantity, avgPrice := answer.fillPrice, status := answer.status }

/-- The order sent, and the result after the answer. -/
def placeOrder (contracts : List (String × Contract)) (post : Body → Except String Answer)
    (req : OpenRequest) : Except String (Body × Result) := do
  req.validate
  let contract := toGateSymbol req.symbol
  match contracts.lookup contract with
  | none => .error ("symbol " ++ contract ++ " is not listed on Gate.io futures")
  | some info =>
      let size ← orderSize contract info req
      let body := orderBody contract size req
      let answer ← post body
      return (body, orderResult req answer)

/-! ## Positions -/

/-- The size of a position in a response. -/
inductive JsonSize where
  | int (n : ℤ)
  | decimal (x : ℚ)

/-- Only an integer in range is read. -/
def JsonSize.int64 : JsonSize → Option ℤ
  | .int n => Go.int64 n
  | .decimal _ => none

structure PositionRow where
  contract : String
  size : JsonSize
  entryPrice : ℚ
  markPrice : ℚ
  leverage : ℚ
  unrealisedPnl : ℚ
  crossLeverage : ℚ

structure Position where
  symbol : String
  side : Side
  quantity : ℚ
  entryPrice : ℚ
  markPrice : ℚ
  leverage : ℤ
  unrealizedPnl : ℚ
  notional : ℚ
  cross : Bool

def toPosition (contracts : List (String × Contract)) (r : PositionRow) (size : ℤ) : Position :=
  let quanto := match contracts.lookup r.contract with
    | some c => if 0 < c.quantoMultiplier then c.quantoMultiplier else 1
    | none => 1
  { symbol := Go.trimSuffix r.contract "_USDT"
    side := if size < 0 then .sell else .buy
    quantity := |(size : ℚ)| * quanto
    entryPrice := r.entryPrice
    markPrice := r.markPrice
    leverage := toInt r.leverage
    unrealizedPnl := r.unrealisedPnl
    notional := |(size : ℚ)| * quanto * r.markPrice
    cross := 0 < r.crossLeverage }

/-- All rows must be read before any is looked at. -/
def listPositions (contracts : List (String × Contract)) (rows : List PositionRow)
    (symbol : String) : Except String (List Position) :=
  match rows.mapM fun r => r.size.int64.map fun size => (r, size) with
  | none => .error "parse positions"
  | some read =>
      .ok (read.filterMap fun row =>
        if row.2 = 0 then none
        else if symbol ≠ "" ∧ row.1.contract ≠ toGateSymbol symbol then none
        else some (toPosition contracts row.1 row.2))

/-! ## Closing -/

structure VenueError where
  code : String
  message : String
deriving DecidableEq

structure CloseRequest where
  symbol : String
  side : Option Side

/-- There is no position to close. -/
def VenueError.flat (e : VenueError) : Bool :=
  Go.hasPrefix e.code "POSITION_" || e.code == "ORDER_REDUCE_ONLY"

def flatResult (req : CloseRequest) : Result :=
  { symbol := req.symbol, status := "FLAT" }

def closeResult (req : CloseRequest) (answer : Answer) : Result :=
  { orderId := answer.id, symbol := req.symbol,
    side := some (if req.side = some .sell then .buy else .sell),
    quantity := if answer.size < 0 then -answer.size else answer.size,
    avgPrice := answer.fillPrice, status := "NEW" }

/-- With the answers to the order with `close`, and to the one with `auto_size` that follows it in
dual mode. `quote` is the `%q` of `fmt`. -/
def closePosition (quote : String → String) (first retry : Except VenueError Answer)
    (req : CloseRequest) : Except VenueError Result :=
  if req.symbol = "" then .error ⟨"", "symbol required"⟩
  else
    match first with
    | .ok answer => .ok (closeResult req answer)
    | .error e =>
        if e.code = "POSITION_DUAL_MODE" then
          match retry with
          | .ok answer => .ok (closeResult req answer)
          | .error e => if e.flat then .ok (flatResult req) else .error e
        else if e.flat then .ok (flatResult req)
        else .error ⟨e.code, "gate close: unmapped code=" ++ quote e.code ++ " msg=" ++ e.message⟩

/-! ## Coins everywhere -/

/-- What Gate writes of positions and closed positions: a size is written as an integer where it is
one, and a closing order has the size that it closed. -/
structure Venue where
  positionSize : ℚ → JsonSize
  closedSize : ℚ → ℚ
  positionSize_int : ∀ x n, positionSize x = .int n ↔ x = n
  closedSize_abs : ∀ x, |closedSize x| = |x|

/-- The answers of a venue that closes a position of a size. -/
def Venue.Closes (venue : Venue) (size : ℚ) (first retry : Except VenueError Answer) : Prop :=
  (∃ answer, first = .ok answer ∧ answer.size = venue.closedSize size) ∨
    ∃ e answer, first = .error e ∧ e.code = "POSITION_DUAL_MODE" ∧ retry = .ok answer ∧
      answer.size = venue.closedSize size

/-- One step of the sizes of a contract. -/
def Contract.sizeStep (info : Contract) : ℚ :=
  if info.enableDecimal then 1 / 10 else 1

/-- An order, its result, its position and the result of closing it are about the same coins. -/
structure CoinsEverywhere (venue : Venue) (contracts : List (String × Contract)) (info : Contract)
    (req : OpenRequest) (body : Body) (result : Result) : Prop where
  atMost : |body.size.contracts| * info.quantoMultiplier ≤ req.quantity
  within : req.quantity - info.sizeStep * info.quantoMultiplier <
    |body.size.contracts| * info.quantoMultiplier
  result : result.quantity = |body.size.contracts| * info.quantoMultiplier
  position : ∀ row : PositionRow, row.contract = toGateSymbol req.symbol →
    row.size = venue.positionSize body.size.contracts → ∀ symbol, symbol = "" ∨ symbol = req.symbol →
      ∃ p, listPositions contracts [row] symbol = .ok [p] ∧
        p.quantity = |body.size.contracts| * info.quantoMultiplier ∧ p.side = req.side
  closed : ∀ quote first retry, venue.Closes body.size.contracts first retry →
    ∃ r, closePosition quote first retry ⟨req.symbol, some req.side⟩ = .ok r ∧
      r.quantity = |body.size.contracts| * info.quantoMultiplier

section

variable {contracts : List (String × Contract)} {post : Body → Except String Answer}
  {info : Contract} {req : OpenRequest} {body : Body} {result : Result} {size : Size}
  {venue : Venue}

/-! ## The size sent -/

theorem orderBody_size (contract : String) (size : Size) (req : OpenRequest) :
    (orderBody contract size req).size = size := by
  unfold orderBody
  cases req.orderType <;> rfl

theorem orderResult_quantity (req : OpenRequest) (answer : Answer) :
    (orderResult req answer).quantity = req.quantity := by
  unfold orderResult
  cases req.orderType <;> rfl

/-- What an order that was accepted sends, and its result. -/
theorem placeOrder_eq_ok (listed : contracts.lookup (toGateSymbol req.symbol) = some info)
    (placed : placeOrder contracts post req = .ok (body, result)) :
    req.symbol ≠ "" ∧ orderSize (toGateSymbol req.symbol) info req = .ok body.size ∧
      result.quantity = req.quantity := by
  unfold placeOrder at placed
  rcases Go.bind_eq_ok placed with ⟨_, valid, placed⟩
  have named : req.symbol ≠ "" := by
    intro blank
    unfold OpenRequest.validate at valid
    rw [if_pos blank] at valid
    cases valid
  simp only [listed] at placed
  rcases Go.bind_eq_ok placed with ⟨size, sized, placed⟩
  rcases Go.bind_eq_ok placed with ⟨answer, -, placed⟩
  cases placed
  exact ⟨named, by rw [orderBody_size, sized], orderResult_quantity req answer⟩

/-- The steps of the size in the request. -/
def steps (info : Contract) (req : OpenRequest) : ℤ :=
  (req.quantity / info.quantoMultiplier / info.sizeStep).floor

theorem sizeStep_pos (info : Contract) : 0 < info.sizeStep := by
  unfold Contract.sizeStep
  split <;> norm_num

theorem toInt64_of_pos {n : ℤ} (pos : 0 < toInt64 n) : toInt64 n = n ∧ n < 2 ^ 63 := by
  unfold toInt64 Go.int64 at *
  split_ifs at * with range
  · exact ⟨rfl, range.2⟩
  · exact absurd pos (by decide)

/-- The size is the steps of the request, with the sign of the side. Sizes without decimals are in
the range of `int64`. -/
theorem orderSize_eq_ok (pos : 0 < info.quantoMultiplier) {contract : String}
    (sized : orderSize contract info req = .ok size) :
    0 < steps info req ∧ size.contracts = req.side.signed (steps info req * info.sizeStep) ∧
      (info.enableDecimal = false → steps info req < 2 ^ 63) := by
  unfold orderSize at sized
  unfold steps Contract.sizeStep
  cases decimals : info.enableDecimal with
  | true =>
      simp only [decimals, if_true, if_pos pos] at sized ⊢
      rw [div_div_eq_mul_div, div_one]
      split at sized
      · cases sized
      case isFalse some_size =>
        cases sized
        have whole : (0 : ℚ) < (req.quantity / info.quantoMultiplier * 10).floor := by
          have tenth := not_le.mp some_size
          linarith
        refine ⟨by exact_mod_cast whole, ?_, fun off => absurd off (by decide)⟩
        rw [mul_one_div]
        rfl
  | false =>
      simp only [decimals, Bool.false_eq_true, if_false] at sized ⊢
      rw [div_one, mul_one]
      unfold coinsToContracts at sized
      rw [if_neg (not_le.mpr pos)] at sized
      split at sized
      · cases sized
      case isFalse some_size =>
        cases sized
        have num_pos : 0 < toInt64 (req.quantity / info.quantoMultiplier).floor := by
          by_contra low
          exact some_size (Or.inl (not_lt.mp low))
        rcases toInt64_of_pos num_pos with ⟨same, small⟩
        rw [same] at num_pos ⊢
        refine ⟨num_pos, ?_, fun _ => small⟩
        change ((if req.side = .sell then -_ else _ : ℤ) : ℚ) = _
        unfold Side.signed
        split <;> push_cast <;> rfl

theorem abs_signed (side : Side) {x : ℚ} (nonneg : 0 ≤ x) : |side.signed x| = x := by
  unfold Side.signed
  split
  · rw [abs_neg, abs_of_nonneg nonneg]
  · exact abs_of_nonneg nonneg

/-- The size sent is never worth more coins than requested, and less than one step short. -/
theorem size_bounds (req : OpenRequest) (pos : 0 < info.quantoMultiplier) :
    steps info req * info.sizeStep * info.quantoMultiplier ≤ req.quantity ∧
      req.quantity - info.sizeStep * info.quantoMultiplier <
        steps info req * info.sizeStep * info.quantoMultiplier := by
  have step := sizeStep_pos info
  have below : (steps info req : ℚ) ≤ req.quantity / info.quantoMultiplier / info.sizeStep :=
    Rat.floor_le _
  have above : req.quantity / info.quantoMultiplier / info.sizeStep < steps info req + 1 := by
    have bound := Rat.lt_floor_add_one (req.quantity / info.quantoMultiplier / info.sizeStep)
    push_cast at bound
    exact bound
  rw [le_div_iff₀ step, le_div_iff₀ pos] at below
  rw [div_lt_iff₀ step, div_lt_iff₀ pos] at above
  exact ⟨below, by linarith⟩

/-! ## What is reported -/

theorem closeResult_quantity (req : CloseRequest) (answer : Answer) :
    (closeResult req answer).quantity = |answer.size| := by
  unfold closeResult
  dsimp only
  split
  case isTrue neg => rw [abs_of_neg neg]
  case isFalse nonneg => rw [abs_of_nonneg (not_lt.mp nonneg)]

/-- A position that is closed is reported in contracts. -/
theorem closePosition_quantity (quote : String → String) (close : CloseRequest)
    {first retry : Except VenueError Answer} {x : ℚ} (named : close.symbol ≠ "")
    (closes : venue.Closes x first retry) :
    ∃ r, closePosition quote first retry close = .ok r ∧ r.quantity = |x| := by
  unfold closePosition
  rw [if_neg named]
  rcases closes with ⟨answer, rfl, closed⟩ | ⟨e, answer, rfl, dual, rfl, closed⟩
  · refine ⟨closeResult close answer, rfl, ?_⟩
    rw [closeResult_quantity, closed, venue.closedSize_abs]
  · refine ⟨closeResult close answer, ?_, ?_⟩
    · simp only [dual, if_true]
    · rw [closeResult_quantity, closed, venue.closedSize_abs]

/-- A closed position is reported with its coins where a contract is one coin. -/
theorem closed_iff (venue : Venue) (close : CloseRequest) (named : close.symbol ≠ "") {x m : ℚ}
    (nonzero : x ≠ 0) :
    (∀ quote first retry, venue.Closes x first retry →
      ∃ r, closePosition quote first retry close = .ok r ∧ r.quantity = |x| * m) ↔ m = 1 := by
  constructor
  · intro reported
    let answer : Answer := ⟨"", 0, "", venue.closedSize x⟩
    have closes : venue.Closes x (.ok answer) (.ok answer) := Or.inl ⟨answer, rfl, rfl⟩
    rcases closePosition_quantity id close named closes with ⟨r, done, contracts_closed⟩
    rcases reported id _ _ closes with ⟨r', done', coins_closed⟩
    rw [done] at done'
    cases done'
    have scaled : |x| * m = |x| * 1 := by rw [← coins_closed, contracts_closed, mul_one]
    exact mul_left_cancel₀ (abs_ne_zero.mpr nonzero) scaled
  · rintro rfl quote first retry closes
    rcases closePosition_quantity quote close named closes with ⟨r, done, closed⟩
    exact ⟨r, done, by rw [closed, mul_one]⟩

/-- One position is listed where its size is read as an `int64` that is not 0. -/
theorem listPositions_one {row : PositionRow} {symbol : String} {n : ℤ}
    (own : row.contract = toGateSymbol req.symbol) (asked : symbol = "" ∨ symbol = req.symbol)
    (read : row.size.int64 = some n) (nonzero : n ≠ 0) :
    listPositions contracts [row] symbol = .ok [toPosition contracts row n] := by
  have wanted : ¬(symbol ≠ "" ∧ row.contract ≠ toGateSymbol symbol) := by
    rintro ⟨named, other⟩
    rw [own, asked.resolve_left named] at other
    exact other rfl
  simp [listPositions, read, nonzero, wanted]

theorem listPositions_unread {row : PositionRow} {symbol : String} (unread : row.size.int64 = none) :
    listPositions contracts [row] symbol = .error "parse positions" := by
  simp [listPositions, unread]

theorem toPosition_quantity {row : PositionRow} {n : ℤ}
    (listed : contracts.lookup row.contract = some info) (pos : 0 < info.quantoMultiplier) :
    (toPosition contracts row n).quantity = |(n : ℚ)| * info.quantoMultiplier := by
  simp only [toPosition, listed, if_pos pos]

theorem side_of_signed {x : ℚ} {n : ℤ} (pos : 0 < x) (same : req.side.signed x = n) :
    (if n < 0 then Side.sell else Side.buy) = req.side := by
  unfold Side.signed at same
  cases side : req.side with
  | buy =>
      rw [side, if_neg (by decide)] at same
      have positive : (0 : ℚ) < n := same ▸ pos
      exact if_neg (not_lt.mpr (by exact_mod_cast positive.le))
  | sell =>
      rw [side, if_pos rfl] at same
      have negative : (n : ℚ) < 0 := by linarith
      exact if_pos (by exact_mod_cast negative)

/-- The position is reported with its coins and side where its size is an `int64`. -/
theorem position_iff (venue : Venue) (listed : contracts.lookup (toGateSymbol req.symbol) = some info)
    (pos : 0 < info.quantoMultiplier) {x : ℚ} (x_pos : 0 < x) :
    (∀ row : PositionRow, row.contract = toGateSymbol req.symbol →
      row.size = venue.positionSize (req.side.signed x) → ∀ symbol, symbol = "" ∨ symbol = req.symbol →
        ∃ p, listPositions contracts [row] symbol = .ok [p] ∧
          p.quantity = x * info.quantoMultiplier ∧ p.side = req.side) ↔
      ∃ n : ℤ, req.side.signed x = n ∧ (Go.int64 n).isSome := by
  constructor
  · intro reported
    rcases reported ⟨toGateSymbol req.symbol, venue.positionSize (req.side.signed x), 0, 0, 0, 0, 0⟩
      rfl rfl "" (Or.inl rfl) with ⟨p, shown, -⟩
    cases size : venue.positionSize (req.side.signed x) with
    | decimal y =>
        rw [listPositions_unread (by rw [size]; rfl)] at shown
        cases shown
    | int n =>
        cases read : Go.int64 n with
        | none =>
            rw [listPositions_unread (by rw [size]; exact read)] at shown
            cases shown
        | some n' => exact ⟨n, (venue.positionSize_int _ n).mp size, by rw [read]; rfl⟩
  · rintro ⟨n, same, fits⟩ row own size symbol asked
    rcases Option.isSome_iff_exists.mp fits with ⟨n', read⟩
    cases Go.int64_eq_some read
    have nonzero : n ≠ 0 := by
      rintro rfl
      have magnitude := abs_signed req.side x_pos.le
      rw [same] at magnitude
      simp only [Int.cast_zero, abs_zero] at magnitude
      exact x_pos.ne magnitude
    have whole : row.size.int64 = some n := by
      rw [size, (venue.positionSize_int _ n).mpr same]
      exact read
    refine ⟨_, listPositions_one own asked whole nonzero, ?_, side_of_signed x_pos same⟩
    rw [toPosition_quantity (own ▸ listed) pos, ← same, abs_signed _ x_pos.le]

/-- The sign of the side goes with the number. -/
theorem signed_int_iff (side : Side) {x : ℚ} :
    (∃ n : ℤ, side.signed x = n ∧ (Go.int64 n).isSome) ↔
      ∃ n : ℤ, x = n ∧ (Go.int64 (if side = .sell then -n else n)).isSome := by
  unfold Side.signed
  split_ifs with sell
  · constructor
    · rintro ⟨n, same, fits⟩
      exact ⟨-n, by push_cast; linarith, by rwa [neg_neg]⟩
    · rintro ⟨n, rfl, fits⟩
      exact ⟨-n, by push_cast; rfl, fits⟩
  · exact Iff.rfl

/-- A whole number of coins is a whole number of steps. -/
theorem steps_of_whole {n : ℤ} (one : info.quantoMultiplier = 1) (whole : req.quantity = n) :
    steps info req * info.sizeStep = n := by
  unfold steps Contract.sizeStep
  rw [one, whole, div_one]
  cases info.enableDecimal with
  | true =>
      have tenths : (n : ℚ) / (1 / 10) = ((n * 10 : ℤ) : ℚ) := by push_cast; ring
      rw [if_pos rfl, tenths, Rat.floor_intCast]
      push_cast
      ring
  | false => rw [if_neg (by decide), div_one, Rat.floor_intCast, mul_one]

/-- Quantities are coins everywhere exactly where contracts are coins and the order is for a whole
number of them that is an `int64` with its sign. -/
theorem coinsEverywhere_iff (venue : Venue) (contracts : List (String × Contract))
    (post : Body → Except String Answer) (info : Contract) (req : OpenRequest) (body : Body)
    (result : Result) (listed : contracts.lookup (toGateSymbol req.symbol) = some info)
    (pos : 0 < info.quantoMultiplier)
    (placed : placeOrder contracts post req = .ok (body, result)) :
    CoinsEverywhere venue contracts info req body result ↔
      info.quantoMultiplier = 1 ∧ ∃ n : ℤ, req.quantity = n ∧
        (Go.int64 (if req.side = .sell then -n else n)).isSome := by
  rcases placeOrder_eq_ok listed placed with ⟨named, sized, quantity⟩
  rcases orderSize_eq_ok pos sized with ⟨some_steps, size, -⟩
  generalize coins : (steps info req : ℚ) * info.sizeStep = c at size
  have c_pos : 0 < c := coins ▸ mul_pos (by exact_mod_cast some_steps) (sizeStep_pos info)
  have magnitude : |body.size.contracts| = c := by rw [size, abs_signed _ c_pos.le]
  have position := (position_iff venue listed pos c_pos).trans (signed_int_iff req.side)
  have closed := closed_iff venue ⟨req.symbol, some req.side⟩ named (x := body.size.contracts)
    (m := info.quantoMultiplier) (abs_ne_zero.mp (magnitude ▸ c_pos.ne'))
  constructor
  · intro everywhere
    have one : info.quantoMultiplier = 1 := closed.mp everywhere.closed
    have requested : req.quantity = c := by
      rw [← quantity, everywhere.result, magnitude, one, mul_one]
    have positions := everywhere.position
    rw [size, abs_signed _ c_pos.le] at positions
    exact ⟨one, requested ▸ position.mp positions⟩
  · rintro ⟨one, n, whole, fits⟩
    have c_eq : c = n := by rw [← coins, steps_of_whole one whole]
    rcases size_bounds req pos with ⟨atMost, within⟩
    rw [coins] at atMost within
    refine ⟨by rwa [magnitude], by rwa [magnitude], ?_, ?_, closed.mpr one⟩
    · rw [quantity, magnitude, one, mul_one, c_eq, whole]
    · rw [size, abs_signed _ c_pos.le]
      exact position.mpr ⟨n, c_eq, fits⟩

/-! ## Two contracts -/

/-- Sizes as Gate writes them. -/
def plainVenue : Venue where
  positionSize x := if x.den = 1 then .int x.num else .decimal x
  closedSize x := -x
  positionSize_int x n := by
    constructor
    · intro written
      split at written
      case isTrue whole =>
        cases written
        exact (Rat.coe_int_num_of_den_eq_one whole).symm
      case isFalse => cases written
    · rintro rfl
      simp
  closedSize_abs x := abs_neg x

def filled (_ : Body) : Except String Answer :=
  .ok ⟨"12345", 50000, "finished", 0⟩

def contractsOf (quanto : ℚ) : List (String × Contract) :=
  [("BTC_USDT", ⟨quanto, 1, false⟩)]

def marketBuy (quantity : ℚ) : OpenRequest :=
  { symbol := "BTC", side := .buy, quantity := quantity }

def sent (num : ℤ) : Body :=
  .order "BTC_USDT" (.number num) 0 "ioc"

def bought (quantity : ℚ) : Result :=
  { orderId := "12345", symbol := "BTC", side := some .buy, quantity := quantity, avgPrice := 50000,
    status := "finished" }

/-- Half a bitcoin is 5000 contracts, and closing them reports 5000. -/
theorem not_coinsEverywhere_half_bitcoin :
    placeOrder (contractsOf (1 / 10000)) filled (marketBuy (1 / 2)) =
        .ok (sent 5000, bought (1 / 2)) ∧
      ¬CoinsEverywhere plainVenue (contractsOf (1 / 10000)) ⟨1 / 10000, 1, false⟩
        (marketBuy (1 / 2)) (sent 5000) (bought (1 / 2)) := by
  refine ⟨by decide +kernel, fun everywhere => ?_⟩
  rcases everywhere.closed id (.ok ⟨"", 0, "", -5000⟩) (.ok ⟨"", 0, "", -5000⟩)
    (Or.inl ⟨_, rfl, rfl⟩) with ⟨r, done, coins⟩
  cases done
  rw [closeResult_quantity] at coins
  norm_num [sent, Body.size, Size.contracts] at coins

theorem coinsEverywhere_two_coins :
    CoinsEverywhere plainVenue (contractsOf 1) ⟨1, 1, false⟩ (marketBuy 2) (sent 2) (bought 2) :=
  (coinsEverywhere_iff plainVenue (contractsOf 1) filled ⟨1, 1, false⟩ (marketBuy 2) (sent 2)
    (bought 2) (by decide +kernel) (by decide +kernel) (by decide +kernel)).mpr
    ⟨rfl, 2, rfl, by decide +kernel⟩

end

end GateTrade

end Avalant
