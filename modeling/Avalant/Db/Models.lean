import Avalant.Lib.Table
import Avalant.Lib.Python

/-!
Rows of the trading tables: wallets, venue orders, single-leg positions,
arbitrage positions and the trigger orders that open and close them.

Prices, quantities and times are exact rationals. Audit columns that no
modelled function reads (`created_at` of positions and triggers, `updated_at`,
`last_fired_at`, fee columns, raw responses) are left out; status columns are
enumerations of the values the code writes.
-/

namespace Avalant

open Relational

/-- Seconds on the database clock. -/
abbrev Time := ℚ

/-- An `HTTPException`: status code and detail. -/
structure HttpError where
  code : Nat
  detail : String := ""
  deriving DecidableEq, Repr

/-! ## Status columns -/

/-- `ArbTriggerOrder.status`:
scheduled → pending → firing → fired | failed | cancelled. -/
inductive TriggerStatus
  | scheduled | pending | firing | fired | failed | cancelled
  deriving DecidableEq, Repr

/-- The three final values of a trigger's status. -/
def TriggerStatus.Terminal (status : TriggerStatus) : Prop :=
  status = .fired ∨ status = .failed ∨ status = .cancelled

instance (status : TriggerStatus) : Decidable status.Terminal :=
  inferInstanceAs (Decidable (_ ∨ _))

/-- `status IN ('pending', 'firing', 'scheduled')`. -/
def TriggerStatus.active : TriggerStatus → Bool
  | .pending | .firing | .scheduled => true
  | .fired | .failed | .cancelled => false

/-- `status IN ('pending', 'scheduled')`. -/
def TriggerStatus.editable : TriggerStatus → Bool
  | .pending | .scheduled => true
  | .firing | .fired | .failed | .cancelled => false

theorem TriggerStatus.not_active_iff {status : TriggerStatus} :
    status.active = false ↔ status.Terminal := by
  cases status <;> simp [active, Terminal]

theorem TriggerStatus.active_of_editable {status : TriggerStatus}
    (editable : status.editable = true) : status.active = true := by
  cases status <;> simp_all [TriggerStatus.editable, active]

/-- `ArbTriggerOrder.kind`. -/
inductive TriggerKind
  | open_ | close | tp | sl
  deriving DecidableEq, Repr

/-- `ArbTriggerOrder.error_kind`. -/
inductive ErrorKind
  | user | exchange | internal | partial_ | posClosedExt
  deriving DecidableEq, Repr

/-- `ArbPosition.status`: pending → opening → open → (closing → closed | partial). -/
inductive PositionStatus
  | pending | opening | open_ | closing | partial_ | closed | cancelled
  deriving DecidableEq, Repr

/-- Status is terminal at 'closed' / 'cancelled'. -/
def PositionStatus.Terminal (status : PositionStatus) : Prop :=
  status = .closed ∨ status = .cancelled

instance (status : PositionStatus) : Decidable status.Terminal :=
  inferInstanceAs (Decidable (_ ∨ _))

/-- `status in ("open", "partial")`. -/
def PositionStatus.closable : PositionStatus → Bool
  | .open_ | .partial_ => true
  | _ => false

/-- `status IN ('open', 'partial', 'closing')`. -/
def PositionStatus.live : PositionStatus → Bool
  | .open_ | .partial_ | .closing => true
  | _ => false

theorem PositionStatus.not_terminal_of_live {status : PositionStatus}
    (live : status.live = true) : ¬ status.Terminal := by
  cases status <;> simp_all [PositionStatus.live, Terminal]

theorem PositionStatus.live_of_closable {status : PositionStatus}
    (closable : status.closable = true) : status.live = true := by
  cases status <;> simp_all [PositionStatus.closable, PositionStatus.live]

/-! ## Rows -/

inductive WalletType
  | exchange | chain | perpdex
  deriving DecidableEq, Repr

inductive WalletPurpose
  | portfolio | screener | both
  deriving DecidableEq, Repr

structure Wallet where
  id : Nat
  userId : Nat
  walletType : WalletType
  typeValue : String
  purpose : WalletPurpose
  isArchived : Bool
  deriving DecidableEq, Repr

/-- `SUPPORTED_EXCHANGES`. -/
def supportedExchanges : List String :=
  ["binance", "binancealpha", "bybit", "okx", "gate", "mexc", "kucoin", "bitget", "bingx",
   "whitebit", "backpack", "htx", "upbit", "hyperliquid", "aster", "ethereal", "lighter",
   "kraken", "paradex", "extended"]

inductive OrderIntent
  | open_ | close
  deriving DecidableEq, Repr

/-- `TradeOrder.status`: the column's comment lists `canceled`, an order call writes
`cancelled`. -/
inductive OrderStatus
  | pending | filled | partial_ | failed | canceled | cancelled
  deriving DecidableEq, Repr

/-- The columns of a `trade_orders` row that reconciliation reads and writes. -/
structure TradeOrder where
  id : Nat
  userId : Nat
  walletId : Option Nat
  positionId : Option Nat
  symbol : String
  side : String
  intent : OrderIntent
  status : OrderStatus
  createdAt : Time
  deriving DecidableEq, Repr

inductive TradePositionKind
  | single | pair
  deriving DecidableEq, Repr

inductive TradePositionStatus
  | open_ | closed
  deriving DecidableEq, Repr

structure TradePosition where
  id : Nat
  userId : Nat
  kind : TradePositionKind
  status : TradePositionStatus
  symbol : String
  legAWalletId : Option Nat
  legAExchange : String
  legASide : String
  legAQty : ℚ
  legAEntryPrice : Option ℚ
  legAExitPrice : Option ℚ
  legARealizedPnlUsd : Option ℚ
  legAFundingPnlUsd : Option ℚ
  legAOpenOrderId : Option Nat
  legACloseOrderId : Option Nat
  legBRealizedPnlUsd : Option ℚ
  legBFundingPnlUsd : Option ℚ
  realizedPnlUsd : Option ℚ
  openedExternally : Bool
  closedExternally : Bool
  openedAt : Time
  closedAt : Option Time
  arbPositionId : Option Nat
  deriving DecidableEq, Repr

structure ArbPosition where
  id : Nat
  userId : Nat
  longExchange : String
  longSymbol : String
  longWalletId : Option Nat
  shortExchange : String
  shortSymbol : String
  shortWalletId : Option Nat
  targetQtyToken : Option ℚ
  leverage : Option Nat
  marginMode : String
  entrySpreadPct : Option ℚ
  longEntryPrice : Option ℚ
  shortEntryPrice : Option ℚ
  longQty : ℚ
  shortQty : ℚ
  openedAt : Option Time
  exitSpreadPct : Option ℚ
  longExitPrice : Option ℚ
  shortExitPrice : Option ℚ
  realizedPnlUsd : Option ℚ
  closedAt : Option Time
  status : PositionStatus
  closedExternally : Bool
  deriving DecidableEq, Repr

structure ArbTriggerOrder where
  id : Nat
  userId : Nat
  arbPositionId : Option Nat
  parentTriggerId : Option Nat
  kind : TriggerKind
  triggerSpreadPct : Option ℚ
  longExchange : Option String
  longSymbol : Option String
  longWalletId : Option Nat
  shortExchange : Option String
  shortSymbol : Option String
  shortWalletId : Option Nat
  totalQtyToken : Option ℚ
  portionSizeToken : Option ℚ
  portionsFilled : Nat
  portionsTarget : Option Nat
  infiniteFill : Bool
  activateAt : Option Time
  leverage : Option Nat
  marginMode : String
  reduceOnly : Bool
  status : TriggerStatus
  errorKind : Option ErrorKind
  errorMessage : Option String
  deriving DecidableEq, Repr

instance : Keyed Wallet := ⟨Wallet.id⟩
instance : Keyed TradeOrder := ⟨TradeOrder.id⟩
instance : Keyed TradePosition := ⟨TradePosition.id⟩
instance : Keyed ArbPosition := ⟨ArbPosition.id⟩
instance : Keyed ArbTriggerOrder := ⟨ArbTriggerOrder.id⟩

@[simp] theorem key_arbPosition (row : ArbPosition) : key row = row.id := rfl
@[simp] theorem key_arbTriggerOrder (row : ArbTriggerOrder) : key row = row.id := rfl
@[simp] theorem key_tradePosition (row : TradePosition) : key row = row.id := rfl
@[simp] theorem key_tradeOrder (row : TradeOrder) : key row = row.id := rfl

/-- `portion_size_token or total_qty_token`: the quantity one portion orders. -/
def ArbTriggerOrder.portionQty (order : ArbTriggerOrder) : Option ℚ :=
  Python.or_ order.portionSizeToken order.totalQtyToken

end Avalant
