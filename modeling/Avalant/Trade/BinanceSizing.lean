import Avalant.Lib.Rounding
import Mathlib.Order.Bounds.Defs

/-!
The quantity of a Binance order.

The engine and the Python adapter both cut a requested quantity down to the lot size of the symbol
and print it. Live orders go through the one or the other, so they should send the same. Numbers are
exact, and a printed quantity is the number it says.
-/

namespace Avalant

namespace Binance

/-- `LOT_SIZE` and `quantityPrecision` of a symbol. A filter that is missing gives zeros. -/
structure SymbolFilter where
  stepSize : ℚ
  minQty : ℚ
  quantityPrecision : ℕ
  stepSize_nonneg : 0 ≤ stepSize
  minQty_nonneg : 0 ≤ minQty

inductive SizingError where
  | roundsToZero
  | belowMinimum
deriving DecidableEq

/-! ## The engine -/

def roundToStep (qty step : ℚ) (precision : ℕ) : ℚ :=
  if 0 < step then (qty / step).floor * step
  else (qty * 10 ^ precision).floor / 10 ^ precision

/-- Printed to a fixed number of decimals, the zeros at the end left out. -/
def qtyString (qty : ℚ) (precision : ℕ) : ℚ :=
  Python.round qty precision

/-- The quantity that `PlaceOrder` sends. -/
def placeOrder (info : SymbolFilter) (quantity : ℚ) : Except SizingError ℚ :=
  let qty := roundToStep quantity info.stepSize info.quantityPrecision
  if qty ≤ 0 then .error .roundsToZero
  else if 0 < info.minQty ∧ qty < info.minQty then .error .belowMinimum
  else .ok (qtyString qty info.quantityPrecision)

/-! ## The Python adapter -/

def roundQtyToStep (qty step : ℚ) (precision : ℕ) : ℚ :=
  if 0 < step then (Python.round (qty / step) 9).floor * step
  else (qty * 10 ^ precision).floor / 10 ^ precision

/-- `info.get("quantityPrecision") or 8`. -/
def SymbolFilter.prec (info : SymbolFilter) : ℕ :=
  if info.quantityPrecision = 0 then 8 else info.quantityPrecision

/-- The rounded quantity of `preflight`. -/
def preflight (info : SymbolFilter) (quantity : ℚ) : Except SizingError ℚ :=
  let qtyR := roundQtyToStep quantity info.stepSize info.prec
  if qtyR ≤ 0 ∨ qtyR < info.minQty then .error .belowMinimum else .ok qtyR

/-- The quantity that `place_order` of the adapter sends. -/
def adapterPlaceOrder (info : SymbolFilter) (quantity : ℚ) : ℚ :=
  qtyString (roundQtyToStep quantity info.stepSize info.prec) info.prec

/-- `place_order` after `preflight`, with the quantity that it rounded. -/
def adapterOrder (info : SymbolFilter) (quantity : ℚ) : Except SizingError ℚ :=
  (preflight info quantity).map (adapterPlaceOrder info)

/-! ## Sizing alike -/

/-- The largest multiple of the step up to the request is sent by both, or both reject. -/
def SizedAlike (info : SymbolFilter) (quantity : ℚ) : Prop :=
  (∃ e e', placeOrder info quantity = .error e ∧ adapterOrder info quantity = .error e') ∨
    ∃ q, placeOrder info quantity = .ok q ∧ adapterOrder info quantity = .ok q ∧
      IsGreatest {m | m ≤ quantity ∧ ∃ n : ℤ, m = n * info.stepSize} q

/-- Whole steps in a request. -/
def wholeSteps (info : SymbolFilter) (quantity : ℚ) : ℤ :=
  (quantity / info.stepSize).floor

/-- The same, where 5·10⁻¹⁰ of a step that are missing do not count. -/
def roundedSteps (info : SymbolFilter) (quantity : ℚ) : ℤ :=
  (quantity / info.stepSize + 5 / 10 ^ 10).floor

/-- Too small for a filter. -/
def SymbolFilter.Refuses (info : SymbolFilter) (qty : ℚ) : Prop :=
  qty ≤ 0 ∨ qty < info.minQty

/-- A step up from `n` of a quantity's last printed units is lost in print. -/
def LostInPrint (info : SymbolFilter) (n : ℤ) : Prop :=
  info.stepSize * 10 ^ info.prec < 1 / 2 ∨ info.stepSize * 10 ^ info.prec = 1 / 2 ∧ n % 2 = 0

/-- Without a step, both must refuse. With one, both refuse the steps counted generously; or both
accept the whole steps, which have no more decimals than the precision, and the generous count gives
the same number or one that prints the same. -/
def Condition (info : SymbolFilter) (quantity : ℚ) : Prop :=
  if info.stepSize = 0 then
    info.Refuses ((quantity * 10 ^ info.prec).floor / 10 ^ info.prec)
  else
    info.Refuses (roundedSteps info quantity * info.stepSize) ∨
      ¬info.Refuses (wholeSteps info quantity * info.stepSize) ∧
        (∃ n : ℤ, wholeSteps info quantity * info.stepSize * 10 ^ info.quantityPrecision = n) ∧
        (roundedSteps info quantity = wholeSteps info quantity ∨
          ∃ n : ℤ, wholeSteps info quantity * info.stepSize * 10 ^ info.prec = n ∧
            LostInPrint info n)

section

variable {info : SymbolFilter} {quantity qty : ℚ}

theorem SymbolFilter.Refuses.mono {smaller : ℚ} (refuses : info.Refuses qty)
    (le : smaller ≤ qty) : info.Refuses smaller := by
  rcases refuses with nonpos | below
  · exact Or.inl (le.trans nonpos)
  · exact Or.inr (le.trans_lt below)

/-! ## What the adapters send -/

theorem placeOrder_cases (info : SymbolFilter) (quantity : ℚ) :
    info.Refuses (roundToStep quantity info.stepSize info.quantityPrecision) ∧
        (∃ e, placeOrder info quantity = .error e) ∨
      ¬info.Refuses (roundToStep quantity info.stepSize info.quantityPrecision) ∧
        placeOrder info quantity = .ok (qtyString
          (roundToStep quantity info.stepSize info.quantityPrecision) info.quantityPrecision) := by
  unfold placeOrder SymbolFilter.Refuses
  generalize roundToStep quantity info.stepSize info.quantityPrecision = cut
  by_cases nonpos : cut ≤ 0
  · exact Or.inl ⟨Or.inl nonpos, _, if_pos nonpos⟩
  · by_cases below : cut < info.minQty
    · have some_min : 0 < info.minQty := (not_le.mp nonpos).trans below
      refine Or.inl ⟨Or.inr below, .belowMinimum, ?_⟩
      simp only [if_neg nonpos, if_pos (And.intro some_min below)]
    · refine Or.inr ⟨fun either => either.elim nonpos below, ?_⟩
      simp only [if_neg nonpos, if_neg fun both : 0 < info.minQty ∧ cut < info.minQty =>
        below both.2]

/-- What was cut down is not cut again. -/
theorem roundQtyToStep_idem (qty : ℚ) {step : ℚ} (precision : ℕ) :
    roundQtyToStep (roundQtyToStep qty step precision) step precision =
      roundQtyToStep qty step precision := by
  unfold roundQtyToStep
  by_cases pos : 0 < step
  · simp only [if_pos pos]
    rw [mul_div_cancel_right₀ _ pos.ne', Python.round_eq_self_iff.mpr ⟨_ * 10 ^ 9, by push_cast; rfl⟩,
      Rat.floor_intCast]
  · have unit : (0 : ℚ) < 10 ^ precision := by positivity
    simp only [if_neg pos]
    rw [div_mul_cancel₀ _ unit.ne', Rat.floor_intCast]

theorem adapterOrder_cases (info : SymbolFilter) (quantity : ℚ) :
    info.Refuses (roundQtyToStep quantity info.stepSize info.prec) ∧
        (∃ e, adapterOrder info quantity = .error e) ∨
      ¬info.Refuses (roundQtyToStep quantity info.stepSize info.prec) ∧
        adapterOrder info quantity = .ok (qtyString
          (roundQtyToStep quantity info.stepSize info.prec) info.prec) := by
  unfold adapterOrder preflight SymbolFilter.Refuses
  by_cases refuses : roundQtyToStep quantity info.stepSize info.prec ≤ 0 ∨
      roundQtyToStep quantity info.stepSize info.prec < info.minQty
  · refine Or.inl ⟨refuses, .belowMinimum, ?_⟩
    simp only [if_pos refuses]
    rfl
  · refine Or.inr ⟨refuses, ?_⟩
    simp only [if_neg refuses, Except.map, adapterPlaceOrder, roundQtyToStep_idem]

/-- Both refuse what they cut the request down to, or both send the same and it is right. -/
theorem sizedAlike_iff_cut :
    SizedAlike info quantity ↔
      info.Refuses (roundToStep quantity info.stepSize info.quantityPrecision) ∧
          info.Refuses (roundQtyToStep quantity info.stepSize info.prec) ∨
        ¬info.Refuses (roundToStep quantity info.stepSize info.quantityPrecision) ∧
          ¬info.Refuses (roundQtyToStep quantity info.stepSize info.prec) ∧
          qtyString (roundQtyToStep quantity info.stepSize info.prec) info.prec =
            qtyString (roundToStep quantity info.stepSize info.quantityPrecision)
              info.quantityPrecision ∧
          IsGreatest {m | m ≤ quantity ∧ ∃ n : ℤ, m = n * info.stepSize}
            (qtyString (roundToStep quantity info.stepSize info.quantityPrecision)
              info.quantityPrecision) := by
  unfold SizedAlike
  rcases placeOrder_cases info quantity with ⟨refuses, e, sent⟩ | ⟨accepts, sent⟩ <;>
    rcases adapterOrder_cases info quantity with ⟨refuses', e', sent'⟩ | ⟨accepts', sent'⟩
  · exact iff_of_true (Or.inl ⟨e, e', sent, sent'⟩) (Or.inl ⟨refuses, refuses'⟩)
  · rw [sent, sent']
    simp [refuses, accepts']
  · rw [sent, sent']
    simp [refuses', accepts]
  · rw [sent, sent']
    simp only [accepts, accepts', not_false_iff, true_and, false_or, reduceCtorEq,
      exists_false, and_false, Except.ok.injEq]
    constructor
    · rintro ⟨q, rfl, same, greatest⟩
      exact ⟨same, greatest⟩
    · rintro ⟨same, greatest⟩
      exact ⟨_, rfl, same, greatest⟩

/-! ## With a step -/

theorem prec_ge : info.quantityPrecision ≤ info.prec := by
  unfold SymbolFilter.prec
  split <;> omega

theorem roundedSteps_eq (pos : 0 < info.stepSize) :
    roundQtyToStep quantity info.stepSize info.prec =
      roundedSteps info quantity * info.stepSize := by
  unfold roundQtyToStep roundedSteps
  rw [if_pos pos, Python.floor_round (by norm_num)]
  norm_num

/-- The generous count is at most one more. -/
theorem roundedSteps_cases (info : SymbolFilter) (quantity : ℚ) :
    roundedSteps info quantity = wholeSteps info quantity ∨
      roundedSteps info quantity = wholeSteps info quantity + 1 := by
  unfold roundedSteps wholeSteps
  generalize quantity / info.stepSize = x
  have low : x.floor ≤ (x + 5 / 10 ^ 10).floor := Rat.floor_monotone (by norm_num)
  have high : (x + 5 / 10 ^ 10).floor < x.floor + 2 := by
    have below := Rat.floor_le (x + 5 / 10 ^ 10)
    have above := Rat.lt_floor_add_one x
    have cast : ((x + 5 / 10 ^ 10).floor : ℚ) < ((x.floor + 2 : ℤ) : ℚ) := by
      push_cast at above ⊢
      linarith
    exact_mod_cast cast
  omega

theorem isGreatest_iff (pos : 0 < info.stepSize) :
    IsGreatest {m | m ≤ quantity ∧ ∃ n : ℤ, m = n * info.stepSize} qty ↔
      qty = wholeSteps info quantity * info.stepSize := by
  have greatest : IsGreatest {m | m ≤ quantity ∧ ∃ n : ℤ, m = n * info.stepSize}
      (wholeSteps info quantity * info.stepSize) := by
    refine ⟨⟨?_, _, rfl⟩, ?_⟩
    · exact (le_div_iff₀ pos).mp (Rat.floor_le _)
    · rintro m ⟨le, n, rfl⟩
      have whole : n ≤ wholeSteps info quantity := Rat.le_floor_iff.mpr ((le_div_iff₀ pos).mpr le)
      exact mul_le_mul_of_nonneg_right (by exact_mod_cast whole) pos.le
  exact ⟨fun other => other.unique greatest, fun same => same ▸ greatest⟩

/-- A step up is lost where the print says the same as without it. -/
theorem qtyString_step_up_iff {n : ℤ} (whole : qty * 10 ^ info.prec = n) :
    qtyString (qty + info.stepSize) info.prec = qty ↔ LostInPrint info n := by
  have unit : (0 : ℚ) < 10 ^ info.prec := by positivity
  unfold qtyString Python.round LostInPrint
  rw [add_mul, whole, div_eq_iff unit.ne', whole, Int.cast_inj]
  exact Python.roundHalfEven_add_eq_iff (mul_nonneg info.stepSize_nonneg unit.le)

theorem whole_of_qtyString {other : ℚ} {precision : ℕ} (printed : qtyString other precision = qty) :
    ∃ n : ℤ, qty * 10 ^ precision = n := by
  have unit : (0 : ℚ) < 10 ^ precision := by positivity
  refine ⟨Python.roundHalfEven (other * 10 ^ precision), ?_⟩
  rw [← printed]
  exact div_mul_cancel₀ _ unit.ne'

theorem whole_of_le {n : ℤ} {fewer more : ℕ} (le : fewer ≤ more) (whole : qty * 10 ^ fewer = n) :
    ∃ n' : ℤ, qty * 10 ^ more = n' := by
  refine ⟨n * 10 ^ (more - fewer), ?_⟩
  push_cast
  rw [← whole, mul_assoc, ← pow_add, Nat.add_sub_cancel' le]

theorem sizedAlike_iff_of_step (pos : 0 < info.stepSize) :
    SizedAlike info quantity ↔
      info.Refuses (roundedSteps info quantity * info.stepSize) ∨
        ¬info.Refuses (wholeSteps info quantity * info.stepSize) ∧
          (∃ n : ℤ, wholeSteps info quantity * info.stepSize * 10 ^ info.quantityPrecision = n) ∧
          (roundedSteps info quantity = wholeSteps info quantity ∨
            ∃ n : ℤ, wholeSteps info quantity * info.stepSize * 10 ^ info.prec = n ∧
              LostInPrint info n) := by
  have cut : roundToStep quantity info.stepSize info.quantityPrecision =
      wholeSteps info quantity * info.stepSize := if_pos pos
  rw [sizedAlike_iff_cut, cut, roundedSteps_eq pos, isGreatest_iff pos]
  have le : (wholeSteps info quantity : ℚ) * info.stepSize ≤
      roundedSteps info quantity * info.stepSize := by
    refine mul_le_mul_of_nonneg_right ?_ pos.le
    rcases roundedSteps_cases info quantity with same | more
    · rw [same]
    · rw [more]
      push_cast
      linarith
  have next : roundedSteps info quantity ≠ wholeSteps info quantity →
      (roundedSteps info quantity : ℚ) * info.stepSize =
        wholeSteps info quantity * info.stepSize + info.stepSize := by
    intro other
    rw [(roundedSteps_cases info quantity).resolve_left other]
    push_cast
    ring
  constructor
  · rintro (⟨-, refuses⟩ | ⟨accepts, -, printed, exact_cut⟩)
    · exact Or.inl refuses
    · refine Or.inr ⟨accepts, whole_of_qtyString exact_cut, ?_⟩
      rw [exact_cut] at printed
      by_cases same : roundedSteps info quantity = wholeSteps info quantity
      · exact Or.inl same
      · rcases whole_of_qtyString printed with ⟨n, whole⟩
        rw [next same] at printed
        exact Or.inr ⟨n, whole, (qtyString_step_up_iff whole).mp printed⟩
  · rintro (refuses | ⟨accepts, ⟨n, whole⟩, near⟩)
    · exact Or.inl ⟨refuses.mono le, refuses⟩
    · have exact_cut : qtyString (wholeSteps info quantity * info.stepSize)
          info.quantityPrecision = wholeSteps info quantity * info.stepSize :=
        Python.round_eq_self_iff.mpr ⟨n, whole⟩
      refine Or.inr ⟨accepts, fun refuses => accepts (refuses.mono le), ?_, exact_cut⟩
      rw [exact_cut]
      by_cases same : roundedSteps info quantity = wholeSteps info quantity
      · rw [same]
        exact Python.round_eq_self_iff.mpr (whole_of_le prec_ge whole)
      · rcases near.resolve_left same with ⟨n', whole', lost⟩
        rw [next same]
        exact (qtyString_step_up_iff whole').mpr lost

/-! ## Without a step -/

theorem sizedAlike_iff_of_no_step (zero : info.stepSize = 0) :
    SizedAlike info quantity ↔
      info.Refuses ((quantity * 10 ^ info.prec).floor / 10 ^ info.prec) := by
  have unit : ∀ precision : ℕ, (0 : ℚ) < 10 ^ precision := fun precision => by positivity
  have no_step : ¬0 < info.stepSize := by rw [zero]; exact lt_irrefl 0
  have cut : roundToStep quantity info.stepSize info.quantityPrecision =
      (quantity * 10 ^ info.quantityPrecision).floor / 10 ^ info.quantityPrecision :=
    if_neg no_step
  have cut' : roundQtyToStep quantity info.stepSize info.prec =
      (quantity * 10 ^ info.prec).floor / 10 ^ info.prec := if_neg no_step
  rw [sizedAlike_iff_cut, cut, cut']
  generalize coarse : (quantity * 10 ^ info.quantityPrecision).floor = n
  have le : (n : ℚ) / 10 ^ info.quantityPrecision ≤
      (quantity * 10 ^ info.prec).floor / 10 ^ info.prec := by
    rcases whole_of_le prec_ge (div_mul_cancel₀ (n : ℚ) (unit info.quantityPrecision).ne') with
      ⟨n', whole⟩
    rw [le_div_iff₀ (unit _), whole, Int.cast_le, Rat.le_floor_iff, ← whole]
    refine mul_le_mul_of_nonneg_right ?_ (unit _).le
    rw [div_le_iff₀ (unit _), ← coarse]
    exact Rat.floor_le _
  constructor
  · rintro (⟨-, refuses⟩ | ⟨accepts, -, -, greatest⟩)
    · exact refuses
    · -- the only multiple of the step is 0, which is refused
      have printed : qtyString ((n : ℚ) / 10 ^ info.quantityPrecision) info.quantityPrecision =
          n / 10 ^ info.quantityPrecision :=
        Python.round_eq_self_iff.mpr ⟨n, div_mul_cancel₀ _ (unit _).ne'⟩
      rcases greatest.1.2 with ⟨m, multiple⟩
      rw [printed, zero, mul_zero] at multiple
      exact absurd (Or.inl multiple.le) accepts
  · exact fun refuses => Or.inl ⟨refuses.mono le, refuses⟩

/-- Exactly when the two adapters size an order alike. -/
theorem sizedAlike_iff (info : SymbolFilter) (quantity : ℚ) :
    SizedAlike info quantity ↔ Condition info quantity := by
  unfold Condition
  split
  case isTrue zero => exact sizedAlike_iff_of_no_step zero
  case isFalse step =>
    exact sizedAlike_iff_of_step (lt_of_le_of_ne info.stepSize_nonneg (Ne.symm step))

/-- Whole coins, of which 10⁻¹⁰ is missing to the third: the engine sends 2 and the adapter 3. -/
def wholeCoins : SymbolFilter :=
  ⟨1, 1, 0, by decide +kernel, by decide +kernel⟩

theorem not_sizedAlike_below_multiple :
    placeOrder wholeCoins (29999999999 / 10 ^ 10) = .ok 2 ∧
      adapterOrder wholeCoins (29999999999 / 10 ^ 10) = .ok 3 ∧
      ¬SizedAlike wholeCoins (29999999999 / 10 ^ 10) := by
  have engine : placeOrder wholeCoins (29999999999 / 10 ^ 10) = .ok 2 := by decide +kernel
  have adapter : adapterOrder wholeCoins (29999999999 / 10 ^ 10) = .ok 3 := by decide +kernel
  refine ⟨engine, adapter, ?_⟩
  unfold SizedAlike
  rw [engine, adapter]
  rintro (⟨e, -, failed, -⟩ | ⟨q, two, three, -⟩)
  · cases failed
  · cases two
    cases three

end

end Binance

end Avalant
