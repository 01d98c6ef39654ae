import Avalant.Extended.Orders
import Avalant.Lib.Digits
import Avalant.Lighter.Orders
import Avalant.Paradex.Orders

/-!
Closing a position with one order that can only reduce it, on Paradex, Lighter and Extended.

Paradex builds the order itself and flags it. The other two hand the position to what they open
positions with: on Lighter that order is always a sell without the flag, and on Extended the request
fails its own checks.
-/

namespace Avalant

open GateTrade (Side CloseRequest)
open Engine (Side.opposite)

/-- What a venue reads of an order. -/
structure Closing (Market : Type) where
  market : Market
  isMarket : Bool
  side : Side
  quantity : ℚ
  reduceOnly : Bool
deriving DecidableEq

/-- Exactly one order is sent: a market order on the opposite side of the position, for its
quantity, that only reduces. -/
def ClosesWhole {ε Order Market : Type} (closing : Order → Closing Market)
    (sent : Except ε (Option Order)) (market : Market) (held : Side) (quantity : ℚ) : Prop :=
  ∃ order, sent = .ok (some order) ∧
    closing order = ⟨market, true, Side.opposite held, quantity, true⟩

namespace Paradex

def Order.closing (order : Order) : Closing String where
  market := order.market
  isMarket := order.type = "MARKET"
  side := if order.side = "SELL" then .sell else .buy
  quantity := order.size
  reduceOnly := "REDUCE_ONLY" ∈ order.flags

/-- How Paradex reports the side of a position. -/
def reportedSide : Side → String
  | .buy => "LONG"
  | .sell => "SHORT"

variable {env : Env} {rows : List PositionRow} {row : PositionRow} {held : Side}

theorem position_side (reported : row.side = reportedSide held) : row.position.side = held := by
  have read : ∀ s : Side,
      (if Ascii.equalFold (reportedSide s) "SHORT" then .sell else .buy : Side) = s := by
    intro s
    cases s <;> decide +kernel
  unfold PositionRow.position
  rw [reported]
  exact read held

theorem closing_of_send {market : String} {side : Side} {quantity : ℚ} {order : Order}
    (sent : env.send market side quantity ["REDUCE_ONLY"] = .ok order) :
    order.closing = ⟨market, true, side, qtyString quantity, true⟩ := by
  obtain ⟨market_eq, side_eq, size_eq, type_eq, flags_eq⟩ := Env.of_send sent
  unfold Order.closing
  rw [market_eq, side_eq, size_eq, type_eq, flags_eq]
  cases side <;> rfl

theorem closesWhole_iff {symbol : String} (asked : symbol ≠ "") (side : Option Side)
    (one : rows.filter (fun p => p.Listed symbol) = [row])
    (reported : row.side = reportedSide held) (ready : env.Ready) :
    ClosesWhole Order.closing (env.closePosition (.ok rows) ⟨symbol, side⟩) row.market held
        |row.size| ↔
      row.market = toParadexMarket symbol ∧ Digits.HasPlaces 8 |row.size| := by
  obtain ⟨order, sent⟩ :=
    ready.send (toParadexMarket symbol) (Side.opposite held) |row.size| ["REDUCE_ONLY"]
  have closed : env.closePosition (.ok rows) ⟨symbol, side⟩ = .ok (some order) := by
    rw [Env.closePosition_of_one asked one, position_side reported, sent]
    rfl
  have closing := closing_of_send sent
  have places : Digits.HasPlaces 8 |row.size| ↔ qtyString |row.size| = |row.size| :=
    Python.round_eq_self_iff.symm
  unfold ClosesWhole
  rw [closed, places]
  constructor
  · rintro ⟨order', same, whole⟩
    cases same
    rw [closing] at whole
    injection whole with market_eq _ _ quantity_eq _
    exact ⟨market_eq.symm, quantity_eq⟩
  · rintro ⟨market_eq, quantity_eq⟩
    exact ⟨order, rfl, by rw [closing, market_eq, quantity_eq]⟩

end Paradex

namespace Lighter

def CreateOrder.closing (mkt : Market) (tx : CreateOrder) : Closing ℤ where
  market := tx.marketIndex
  isMarket := tx.type = 0
  side := if tx.isAsk = 1 then .sell else .buy
  quantity := tx.baseAmount / mkt.baseScale
  reduceOnly := tx.reduceOnly = 1

theorem not_closesWhole (env : Env) (creds : Engine.Creds) (rows : List PositionRow)
    (req : CloseRequest) (mkt : Market) (held : Side) (quantity : ℚ) :
    ¬ClosesWhole (CreateOrder.closing mkt) (some <$> env.closePosition creds (.ok rows) req)
      mkt.marketIndex held quantity := by
  rintro ⟨tx, sent, whole⟩
  cases closed : env.closePosition creds (.ok rows) req with
  | error e =>
      rw [closed] at sent
      cases sent
  | ok tx' =>
      rw [closed] at sent
      cases sent
      have reduces : decide (tx.reduceOnly = 1) = true := congrArg Closing.reduceOnly whole
      rw [(Env.of_closePosition closed).2] at reduces
      cases reduces

end Lighter

namespace Extended

def Order.closing (order : Order) : Closing String where
  market := order.market
  isMarket := order.type = "MARKET"
  side := if order.side = "SELL" then .sell else .buy
  quantity := order.qty
  reduceOnly := order.reduceOnly

theorem not_closesWhole (env : Env) (creds : Engine.Creds) (rows : List PositionRow)
    (req : CloseRequest) (market : String) (held : Side) (quantity : ℚ) :
    ¬ClosesWhole Order.closing (env.closePosition creds (.ok rows) req) market held quantity := by
  rintro ⟨order, sent, -⟩
  exact Env.closePosition_ne_some rows req order sent

end Extended

/-- A close can only reduce on Paradex, for a position in the market of the symbol, and on neither
of the others. -/
theorem closesWhole_venues {env : Paradex.Env} (ready : env.Ready) {rows : List Paradex.PositionRow}
    {row : Paradex.PositionRow} {symbol : String} (asked : symbol ≠ "")
    (one : rows.filter (fun p => p.Listed symbol) = [row]) {held : Side}
    (reported : row.side = Paradex.reportedSide held) (side : Option Side) :
    (ClosesWhole Paradex.Order.closing (env.closePosition (.ok rows) ⟨symbol, side⟩) row.market
        held |row.size| ↔
      row.market = Paradex.toParadexMarket symbol ∧ Digits.HasPlaces 8 |row.size|) ∧
    (∀ (env : Lighter.Env) creds rows req (mkt : Lighter.Market) held quantity,
      ¬ClosesWhole (Lighter.CreateOrder.closing mkt)
        (some <$> env.closePosition creds (.ok rows) req) mkt.marketIndex held quantity) ∧
    ∀ (env : Extended.Env) creds rows req market held quantity,
      ¬ClosesWhole Extended.Order.closing (env.closePosition creds (.ok rows) req) market held
        quantity :=
  ⟨Paradex.closesWhole_iff asked side one reported ready, Lighter.not_closesWhole,
    Extended.not_closesWhole⟩

/-! ## Short positions -/

namespace Paradex

def shortRow : PositionRow := ⟨"BTC-USD-PERP", -1 / 2, "SHORT", "OPEN"⟩

end Paradex

theorem closesWhole_short : ClosesWhole Paradex.Order.closing
    (Paradex.Env.signing.closePosition (.ok [Paradex.shortRow]) ⟨"BTC", none⟩) "BTC-USD-PERP" .sell
      |-1 / 2| := by
  have one : [Paradex.shortRow].filter (fun p => p.Listed "BTC") = [Paradex.shortRow] := by
    decide +kernel
  have reported : Paradex.shortRow.side = Paradex.reportedSide .sell := rfl
  exact (closesWhole_venues Paradex.Env.ready_signing (by decide) one reported none).1.mpr
    ⟨by decide +kernel, -50000000 * -1, by norm_num [Paradex.shortRow]⟩

namespace Lighter

def market : Detail := ⟨"BTC", 0, 2, 1⟩

def env : Env := .signing [market]

def creds : Engine.Creds := { apiKey := "7", apiSecret := String.ofList (List.replicate 80 '0') }

end Lighter

namespace Extended

def market : Market := ⟨"0x1", 1000, "0x2", 1000000, 5 / 10000, 1 / 100, 1 / 100, 1 / 100⟩

/-- Every order is signed. -/
def env : Env := ⟨.ok fun _ => some market, fun _ => .ok 100, fun _ _ _ => .ok ("0x3", "0x4"), 0, 5⟩

def creds : Engine.Creds := { apiSecret := "0x6", passphrase := "8", wallet := "0x9" }

end Extended

/-- Closing a short position of 2 sells 2 more on Lighter, and fails on Extended. -/
theorem close_adds_or_fails :
    Lighter.env.closePosition Lighter.creds (.ok [⟨"BTC", 2, -1⟩]) ⟨"BTC", none⟩ =
        .ok { marketIndex := 0, baseAmount := 200, price := 0, isAsk := 1, type := 0,
              fromAccountIndex := 7, apiKeyIndex := 255 } ∧
      (¬ClosesWhole (Lighter.CreateOrder.closing Lighter.market.market) (some <$>
        Lighter.env.closePosition Lighter.creds (.ok [⟨"BTC", 2, -1⟩]) ⟨"BTC", none⟩) 0 .sell 2) ∧
      Extended.env.closePosition Extended.creds (.ok [⟨"BTC-USD", "SHORT", 2⟩]) ⟨"BTC", none⟩ =
        .error (.message "leverage must be > 0") ∧
      ¬ClosesWhole Extended.Order.closing
        (Extended.env.closePosition Extended.creds (.ok [⟨"BTC-USD", "SHORT", 2⟩]) ⟨"BTC", none⟩)
        "BTC-USD" .sell 2 :=
  ⟨by decide +kernel,
    Lighter.not_closesWhole Lighter.env Lighter.creds _ _ Lighter.market.market .sell 2,
    by decide +kernel, Extended.not_closesWhole Extended.env Extended.creds _ _ _ _ _⟩

end Avalant
