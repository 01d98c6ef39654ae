import Avalant.Lib.Binary64
import Avalant.Lib.Go
import Avalant.Trade.Requests

/-!
The orders of the Paradex adapter.

Opening and closing send the same market order, and closing adds the flag that it only reduces. The
order is signed apart from its body: the message that is signed counts the size in units of 10⁻⁸.
A request has the decimals of its numbers, which are read as `float64`, the rows of positions have
been read, and a number in a body is the one that its text says.
-/

namespace Avalant

namespace Paradex

open GateTrade (Side CloseRequest)
open Engine

def toParadexMarket (sym : String) : String := Ascii.upper sym ++ "-USD-PERP"

/-! ## Orders -/

/-- The message of `buildOrderMessage`. -/
structure OrderMessage where
  timestamp : ℤ
  market : String
  side : String
  orderType : String
  size : ℤ
  price : ℤ
deriving DecidableEq

/-- The body that is posted to `orders`. -/
structure Order where
  market : String
  side : String
  size : ℚ
  type : String
  instruction : String
  flags : List String
  signature : String × String
  signatureTimestamp : ℤ
deriving DecidableEq

/-- The product of two `big.Float` keeps the 53 bits of its factors. -/
def chainQuantum (q : ℚ) : ℤ := Python.trunc (Python.float (q * 10 ^ 8))

def qtyString (q : ℚ) : ℚ := Python.round q 8

def chainSide : Side → String
  | .buy => "1"
  | .sell => "2"

/-- What a call reads besides its request: the signature of a message, the token for the post, and
the clock. -/
structure Env where
  signTypedData : OrderMessage → Except String (String × String)
  ensureJWT : Except String Unit
  now : ℤ

/-- Messages are signed and a token is given. -/
structure Env.Ready (env : Env) : Prop where
  signs : ∀ message, ∃ signature, env.signTypedData message = .ok signature
  token : env.ensureJWT = .ok ()

/-- Every message is signed, and a token is given. -/
def Env.signing : Env := ⟨fun _ => .ok ("1", "2"), .ok (), 0⟩

theorem Env.ready_signing : Env.signing.Ready := ⟨fun _ => ⟨("1", "2"), rfl⟩, rfl⟩

def orderMessage (now : ℤ) (market : String) (side : Side) (quantity : ℚ) : OrderMessage where
  timestamp := now
  market := market
  side := chainSide side
  orderType := "MARKET"
  size := chainQuantum quantity
  price := 0

/-- The part that `PlaceOrder` and `ClosePosition` share: the order that is signed and posted. -/
def Env.send (env : Env) (market : String) (side : Side) (quantity : ℚ) (flags : List String) :
    Except String Order :=
  match env.signTypedData (orderMessage env.now market side quantity) with
  | .error _ => .error "order sign"
  | .ok signature => do
      env.ensureJWT
      return { market := market, side := wireSide side, size := qtyString quantity,
               type := "MARKET", instruction := "GTC", flags := flags, signature := signature,
               signatureTimestamp := env.now }

/-- The order of `PlaceOrder`. -/
def Env.placeOrder (env : Env) (req : OpenRequest) : Except String Order := do
  req.validate
  env.send (toParadexMarket req.symbol) req.side (Python.float req.quantity) []

/-! ## Positions -/

structure PositionRow where
  market : String
  size : ℚ
  side : String
  status : String
deriving DecidableEq

/-- "BTC-USD-PERP" is a market of "BTC". -/
def PositionRow.coin (p : PositionRow) : String := (Go.split p.market '-').headD ""

def PositionRow.position (p : PositionRow) : OpenPosition :=
  ⟨p.coin, if Ascii.equalFold p.side "SHORT" then .sell else .buy, |p.size|⟩

/-- An open position of the symbol. -/
def PositionRow.Listed (symbol : String) (p : PositionRow) : Prop :=
  ¬Ascii.equalFold p.status "CLOSED" ∧ p.size ≠ 0 ∧
    (Ascii.upper symbol = "" ∨ Ascii.upper p.coin = Ascii.upper symbol)

instance (symbol : String) (p : PositionRow) : Decidable (p.Listed symbol) := by
  unfold PositionRow.Listed
  infer_instance

def listPositions (rows : List PositionRow) (symbol : String) : List OpenPosition :=
  rows.filterMap fun p =>
    if Ascii.equalFold p.status "CLOSED" then none
    else if p.size = 0 then none
    else if Ascii.upper symbol ≠ "" ∧ Ascii.upper p.coin ≠ Ascii.upper symbol then none
    else some p.position

/-- The order that closes the first position, and none where there is no position. -/
def Env.closeFirst (env : Env) (symbol : String) : List OpenPosition →
    Except String (Option Order)
  | [] => .ok none
  | p :: _ =>
      let closeSide : Side := if p.side = .sell then .buy else .sell
      some <$> env.send (toParadexMarket symbol) closeSide p.quantity ["REDUCE_ONLY"]

/-- The order of `ClosePosition`. -/
def Env.closePosition (env : Env) (rows : Except String (List PositionRow)) (req : CloseRequest) :
    Except String (Option Order) := do
  if req.symbol = "" then .error "symbol required"
  let rows ← rows
  env.closeFirst req.symbol (listPositions rows req.symbol)

/-! ## What is sent -/

variable {env : Env} {rows : List PositionRow}

/-- An order is sent where its message is signed and a token is given. -/
theorem Env.exists_send_iff {market : String} {side : Side} {quantity : ℚ} {flags : List String} :
    (∃ order, env.send market side quantity flags = .ok order) ↔
      (∃ signature,
        env.signTypedData (orderMessage env.now market side quantity) = .ok signature) ∧
        env.ensureJWT = .ok () := by
  unfold Env.send
  cases env.signTypedData (orderMessage env.now market side quantity) with
  | error e => simp
  | ok signature =>
      cases env.ensureJWT with
      | error e => exact iff_of_false (by rintro ⟨order, sent⟩; cases sent) (by simp)
      | ok => exact iff_of_true ⟨_, rfl⟩ ⟨⟨signature, rfl⟩, rfl⟩

theorem Env.of_send {market : String} {side : Side} {quantity : ℚ} {flags : List String}
    {order : Order} (sent : env.send market side quantity flags = .ok order) :
    order.market = market ∧ order.side = wireSide side ∧ order.size = qtyString quantity ∧
      order.type = "MARKET" ∧ order.flags = flags := by
  unfold Env.send at sent
  split at sent
  · cases sent
  · obtain ⟨_, -, sent⟩ := Go.bind_eq_ok sent
    cases sent
    exact ⟨rfl, rfl, rfl, rfl, rfl⟩

theorem Env.Ready.send (ready : env.Ready) (market : String) (side : Side) (quantity : ℚ)
    (flags : List String) : ∃ order, env.send market side quantity flags = .ok order :=
  Env.exists_send_iff.mpr ⟨ready.signs _, ready.token⟩

theorem listPositions_eq (symbol : String) :
    listPositions rows symbol =
      (rows.filter fun p => p.Listed symbol).map PositionRow.position := by
  unfold listPositions
  rw [← List.filterMap_eq_map', List.filterMap_filter]
  refine List.filterMap_congr fun p _ => ?_
  unfold PositionRow.Listed
  by_cases closed : Ascii.equalFold p.status "CLOSED" = true
  · simp [closed]
  · by_cases flat : p.size = 0
    · simp [flat]
    · rw [if_neg closed, if_neg flat]
      by_cases unasked : Ascii.upper symbol = ""
      · simp [closed, flat, unasked]
      · by_cases same : Ascii.upper p.coin = Ascii.upper symbol <;>
          simp [closed, flat, unasked, same]

/-- Where a row is the only open one of the symbol, the order is on its opposite side. -/
theorem Env.closePosition_of_one {symbol : String} {row : PositionRow} (asked : symbol ≠ "")
    (one : rows.filter (fun p => p.Listed symbol) = [row]) (side : Option Side) :
    env.closePosition (.ok rows) ⟨symbol, side⟩ =
      some <$> env.send (toParadexMarket symbol) (Side.opposite row.position.side) |row.size|
        ["REDUCE_ONLY"] := by
  have listed : listPositions rows symbol = [row.position] := by
    rw [listPositions_eq, one]
    rfl
  unfold Env.closePosition
  rw [if_neg asked]
  change env.closeFirst symbol (listPositions rows symbol) = _
  rw [listed, Side.opposite_eq_ite]
  rfl

end Paradex

end Avalant
