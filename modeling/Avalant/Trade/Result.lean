import Avalant.Lib.Python

/-!
The result dictionary of an order call.

Adapters, the Go proxy client and `place_open_order` all return a `dict`; a key
that is missing and a key that holds `None` read the same through `.get`, so
each key is an optional field. Which keys are set depends on the engine and the
layer, and which are read depends on the caller: the fields below are all the
keys that some layer writes or reads.
-/

namespace Avalant

structure OrderResult where
  orderId : Option String := none
  avgPrice : Option ℚ := none
  fillPrice : Option ℚ := none
  avgFillPrice : Option ℚ := none
  price : Option ℚ := none
  filledQty : Option ℚ := none
  qty : Option ℚ := none
  closedQty : Option ℚ := none
  status : Option String := none
  clientOrderId : Option String := none
  exchange : Option String := none
  symbol : Option String := none
  side : Option String := none
  quantity : Option ℚ := none
  orderDbId : Option Nat := none
  deriving DecidableEq, Repr

/-- `TradeError.kind`. -/
inductive TradeErrorKind
  | user | exchange | internal
  deriving DecidableEq, Repr

structure TradeError where
  message : String
  kind : TradeErrorKind
  deriving DecidableEq, Repr

/-- Any other exception. A `RuntimeError` is how adapters hand on the venue's message. -/
inductive PyError
  | runtime (message : String)
  | other (typeName message : String)
  deriving DecidableEq, Repr

/-- How one leg's order call ends, as `asyncio.gather(return_exceptions=True)` hands it on. -/
abbrev LegResult := Except TradeError OrderResult

/-- `_short_err` of an exception. -/
def shortErr : LegResult → String
  | .error e => Python.take 150 e.message
  | .ok _ => ""

end Avalant
