import Avalant.UserStream.FrameLoss

/-!
A position of the Gate account, as its stream stores it and as the REST adapter reports it.

The venue counts contracts, and the quanto multiplier of a contract says how many coins one of
them is. The adapter multiplies, and goes by value and entry price where the integer count is
zero; the stream stores the count.
-/

namespace Avalant

namespace UserStream

/-! ## The REST adapter -/

/-- What `_contracts` keeps of a contract. -/
structure GateContract where
  quantoMultiplier : ℚ
  positive : 0 < quantoMultiplier

/-- The cached contracts; a contract may be missing. -/
abbrev GateContracts := String → Option GateContract

/-- `all_contracts.get(cname, {}).get("quanto_multiplier", 1)`. -/
def GateContracts.quanto (contracts : GateContracts) (cname : String) : ℚ :=
  ((contracts cname).map GateContract.quantoMultiplier).getD 1

/-- `int(x or 0)`: a text that is no integer raises. -/
def Number.int? : Option Number → Option ℤ
  | none | some empty => some 0
  | some (text x) => if x.den = 1 then some x.num else none
  | some (num x) => some (Python.trunc x)

/-- An entry of `/api/v4/futures/usdt/positions`. -/
structure GateRestPosition extends GatePosition where
  value : Option Number := none
  margin : Option Number := none

/-- A row of `list_positions`. -/
structure GateRow where
  symbol : String
  side : Side
  quantity : ℚ
  entryPrice : ℚ
  markPrice : ℚ
  unrealizedPnlUsd : ℚ
  leverage : ℤ
  marginMode : MarginMode
  positionId : String

/-- `_gate_symbol`. -/
def gateSymbol (s : String) : String :=
  Python.upper s ++ "_USDT"

namespace GateRestPosition

def lowerMode (p : GateRestPosition) : String :=
  Python.lower (p.mode.getD "")

/-- The signed count and the coins of an entry, or nothing when it is skipped. -/
def sized (p : GateRestPosition) (quanto : ℚ) (rawSize : ℤ) : Option (ℤ × ℚ) :=
  let entryPx := Number.orZero p.entryPrice
  let posValue := Number.orZero p.value
  if rawSize ≠ 0 then some (rawSize, |rawSize| * quanto)
  else if 0 < posValue ∧ 0 < entryPx then
    let direction := if p.lowerMode = "dual_long" then 1
      else if p.lowerMode = "dual_short" then -1
      else 1
    some (direction, posValue / entryPx)
  else none

def row (p : GateRestPosition) (cname : String) (size : ℤ) (qtyCoins : ℚ) : GateRow :=
  let levVal := Number.orZero p.leverage
  { symbol := cname.replace "_USDT" ""
    side := if 0 < size then .buy else .sell
    quantity := qtyCoins
    entryPrice := Number.orZero p.entryPrice
    markPrice := Number.orZero p.markPrice
    unrealizedPnlUsd := Number.orZero p.unrealisedPnl
    leverage := if 0 < levVal then Python.trunc levVal
      else Python.trunc ((Number.ifTruthy p.crossLeverageLimit).getD 1)
    marginMode := if 0 < levVal then .isolated else .cross
    positionId := if p.lowerMode = "dual_long" ∨ p.lowerMode = "dual_short"
      then cname ++ "#" ++ p.lowerMode else cname }

/-- One round of the loop; a raise ends the call. -/
def row? (contracts : GateContracts) (p : GateRestPosition) : Option (Option GateRow) :=
  let cname := p.contract.getD ""
  (Number.int? p.size).map fun rawSize =>
    (p.sized (contracts.quanto cname) rawSize).map fun sized => p.row cname sized.1 sized.2

/-- The contract that is asked for, if one is. -/
def selected (symbol : Option String) (p : GateRestPosition) : Bool :=
  match Python.nonEmpty symbol with
  | none => true
  | some s => p.contract.getD "" = gateSymbol s

/-- `GateAdapter.list_positions`, before the funding is added. -/
def listPositions (contracts : GateContracts) (symbol : Option String)
    (data : List GateRestPosition) : Option (List GateRow) :=
  ((data.filter (selected symbol)).mapM (row? contracts)).map List.reduceOption

end GateRestPosition

/-! ## Positions in one-way mode -/

/-- An open position of one-way mode. Part of a contract does not show in the integer size. -/
structure OneWayPosition where
  contract : String
  size : ℤ
  value : ℚ
  entryPrice : ℚ
  /-- The other fields, and those that the stream alone has. -/
  fields : GatePosition
  margin : Option Number
  usdt : Python.endsWith (Python.upper contract) "_USDT" = true
  isOpen : size ≠ 0 ∨ 0 < value ∧ 0 < entryPrice

namespace OneWayPosition

/-- The entry of the stream. -/
def streamed (p : OneWayPosition) : GatePosition :=
  { p.fields with
    contract := some p.contract
    size := some (.num p.size)
    entryPrice := some (.num p.entryPrice)
    mode := some "single" }

/-- The entry of the REST reply. -/
def fetched (p : OneWayPosition) : GateRestPosition :=
  { p.streamed with value := some (.num p.value), margin := p.margin }

/-- The symbol that the stream stores. -/
def symbol (p : OneWayPosition) : String :=
  Python.dropLast 5 (Python.upper p.contract)

/-- Side and quantity of the adapter's row. -/
def reported (p : OneWayPosition) (contracts : GateContracts) : Option (Option Side × ℚ) :=
  ((GateRestPosition.listPositions contracts none [p.fetched]).bind List.head?).map fun row =>
    (some row.side, row.quantity)

/-- Side and quantity in the snapshot after an update of the position. -/
def stored (p : OneWayPosition) (instruments : Instruments) (s : Stream) (process : Process)
    (others : List GatePosition) : Option (Option Side × ℚ) :=
  ((s.handle instruments (.gate (.positions "update" (p.streamed :: others)))).held process
    p.symbol).map fun row => (row.side, row.quantity)

/-- An update leaves in the snapshot what the adapter reports. -/
def SameUnits (p : OneWayPosition) (contracts : GateContracts) : Prop :=
  ∀ instruments s process others, p.stored instruments s process others = p.reported contracts

variable {p : OneWayPosition} {contracts : GateContracts} {instruments : Instruments} {s : Stream}
  {process : Process} {others : List GatePosition}

/-! ## The two readings -/

theorem orZero_size (p : OneWayPosition) : Number.orZero p.streamed.size = p.size := rfl

/-- The stream stores the count of contracts, and takes a count of zero for a closed position. -/
theorem stored_eq (p : OneWayPosition) : p.stored instruments s process others =
    if p.size = 0 then none else some (some (signSide p.size), |(p.size : ℚ)|) := by
  have ends : Python.endsWith (Python.upper (p.streamed.contract.getD "")) "_USDT" = true := p.usdt
  unfold stored
  rw [Stream.held_handle]
  by_cases flat : p.size = 0
  · have zero : Number.orZero p.streamed.size = 0 := by
      rw [orZero_size, flat, Int.cast_zero]
    have update : p.streamed.update = some { symbol := p.symbol, side := none, qty := 0 } := by
      unfold GatePosition.update
      simp only [ends, if_true, zero]
      rfl
    have carried : (Frame.gate (.positions "update" (p.streamed :: others))).carried instruments =
        some ⟨p.streamed.hedgeSide, ⟨p.symbol, none, 0⟩⟩ := by
      simp only [Frame.carried, Frame.listed, if_true, List.filterMap_cons, update]
      rfl
    rw [carried]
    dsimp only
    rw [if_pos rfl, if_pos flat]
    rfl
  · have nonzero : (p.size : ℚ) ≠ 0 := Int.cast_ne_zero.mpr flat
    obtain ⟨u, update, row⟩ : ∃ u, p.streamed.update = some u ∧
        u.row = ⟨p.symbol, some (signSide p.size), |(p.size : ℚ)|⟩ := by
      have open_ : ¬Number.orZero p.streamed.size = 0 := nonzero
      unfold GatePosition.update
      simp only [ends, if_true, if_neg open_]
      refine ⟨_, rfl, ?_⟩
      rw [orZero_size]
      rfl
    have carried : (Frame.gate (.positions "update" (p.streamed :: others))).carried instruments =
        some ⟨p.streamed.hedgeSide, ⟨p.symbol, some (signSide p.size), |(p.size : ℚ)|⟩⟩ := by
      simp only [Frame.carried, Frame.listed, if_true, List.filterMap_cons, update]
      rw [← row]
      rfl
    rw [carried]
    dsimp only
    rw [if_pos rfl, if_neg flat, Snapshot.written, if_neg (abs_ne_zero.mpr nonzero)]
    rfl

/-- The adapter reports coins, and a part of a contract as one that was bought. -/
theorem reported_eq (p : OneWayPosition) (contracts : GateContracts) : p.reported contracts =
    if p.size = 0 then some (some .buy, p.value / p.entryPrice)
    else some (some (signSide p.size), |(p.size : ℚ)| * contracts.quanto p.contract) := by
  have size : Number.int? p.fetched.size = some p.size := by
    change some (Python.trunc (p.size : ℚ)) = some p.size
    simp [Python.trunc]
  have row : p.fetched.row? contracts = some ((p.fetched.sized (contracts.quanto p.contract)
      p.size).map fun sized => p.fetched.row p.contract sized.1 sized.2) := by
    unfold GateRestPosition.row?
    rw [size]
    rfl
  have list : GateRestPosition.listPositions contracts none [p.fetched] =
      some ((p.fetched.sized (contracts.quanto p.contract) p.size).map fun sized =>
        p.fetched.row p.contract sized.1 sized.2).toList := by
    have all : [p.fetched].filter (GateRestPosition.selected none) = [p.fetched] := rfl
    unfold GateRestPosition.listPositions
    rw [all, List.mapM_cons, row]
    cases p.fetched.sized (contracts.quanto p.contract) p.size with
    | none => rfl
    | some sized => rfl
  unfold reported
  rw [list]
  by_cases flat : p.size = 0
  · obtain nonzero | ⟨value, entry⟩ := p.isOpen
    · exact absurd flat nonzero
    · have both : 0 < Number.orZero p.fetched.value ∧ 0 < Number.orZero p.fetched.entryPrice :=
        ⟨value, entry⟩
      have single : p.fetched.lowerMode = Python.lower "single" := rfl
      have notLong : ¬Python.lower "single" = "dual_long" := by decide +kernel
      have notShort : ¬Python.lower "single" = "dual_short" := by decide +kernel
      have sized : p.fetched.sized (contracts.quanto p.contract) p.size =
          some (1, p.value / p.entryPrice) := by
        unfold GateRestPosition.sized
        simp only [flat, ne_eq, not_true_eq_false, if_false, if_pos both, single, if_neg notLong,
          if_neg notShort]
        rfl
      rw [sized, if_pos flat]
      rfl
  · have sized : p.fetched.sized (contracts.quanto p.contract) p.size =
        some (p.size, |(p.size : ℚ)| * contracts.quanto p.contract) := by
      unfold GateRestPosition.sized
      rw [if_pos flat, Int.cast_abs]
    have side : (if 0 < p.size then Side.buy else Side.sell) = signSide p.size := by
      simp [signSide]
    rw [sized, if_neg flat, ← side]
    rfl

/-- The two agree on a count of contracts that is not zero, where a contract is one coin. -/
theorem sameUnits_iff (p : OneWayPosition) (contracts : GateContracts) :
    p.SameUnits contracts ↔ p.size ≠ 0 ∧ contracts.quanto p.contract = 1 := by
  unfold SameUnits
  simp only [stored_eq, reported_eq]
  by_cases flat : p.size = 0
  · simp only [flat]
    constructor
    · intro same
      cases same (fun _ => none) (Stream.initial false) .fetcher []
    · intro nonzero
      exact absurd rfl nonzero.1
  · have nonzero : |(p.size : ℚ)| ≠ 0 := abs_ne_zero.mpr (Int.cast_ne_zero.mpr flat)
    simp only [if_neg flat]
    constructor
    · intro same
      obtain ⟨-, quantity⟩ := Prod.mk.inj (Option.some.inj
        (same (fun _ => none) (Stream.initial false) .fetcher []))
      exact ⟨flat, (left_eq_mul₀ nonzero).mp quantity⟩
    · intro unit _ _ _ _
      rw [unit.2, mul_one]

/-! ## Positions that differ -/

/-- Three contracts of 0.0001 BTC. -/
def bitcoin : OneWayPosition where
  contract := "BTC_USDT"
  size := 3
  value := 18
  entryPrice := 60000
  fields := ⟨none, none, none, none, none, none, none, none, none⟩
  margin := none
  usdt := by decide +kernel
  isOpen := .inl (by decide)

/-- A part of a contract. -/
def fraction : OneWayPosition where
  contract := "SOL_USDT"
  size := 0
  value := 98 / 10
  entryPrice := 98
  fields := ⟨none, none, none, none, none, none, none, none, none⟩
  margin := none
  usdt := by decide +kernel
  isOpen := .inr (by decide +kernel)

def quotedContracts : GateContracts
  | "BTC_USDT" => some ⟨1 / 10000, by decide +kernel⟩
  | "SOL_USDT" => some ⟨1, by decide +kernel⟩
  | _ => none

theorem sameUnits_broken :
    ¬bitcoin.SameUnits quotedContracts ∧ ¬fraction.SameUnits quotedContracts := by
  refine ⟨fun same => ?_, fun same => ?_⟩
  · have stored := same (fun _ => none) (Stream.initial false) .fetcher []
    revert stored
    decide +kernel
  · have stored := same (fun _ => none) (Stream.initial false) .fetcher []
    revert stored
    decide +kernel

end OneWayPosition

end UserStream

end Avalant
