import Avalant.Lib.Rounding
import Mathlib.Data.Int.Log
import Mathlib.Tactic.NormNum
import Mathlib.Tactic.Positivity

/-!
Rounding to significant decimal digits, and how many decimal places the result has.

The last digit of a number is worth a power of ten that goes with its magnitude, so a grid of
significant digits and a grid of decimal places lie in each other or across each other, according to
which unit is the larger one.
-/

namespace Digits

/-! ## Half away from zero -/

theorem le_roundHalfUp_iff {m : ℤ} {x : ℚ} (nonneg : 0 ≤ x) :
    m ≤ Python.roundHalfUp x ↔ (m : ℚ) ≤ x + 1 / 2 := by
  unfold Python.roundHalfUp
  rw [if_pos nonneg, Rat.le_floor_iff]

theorem roundHalfUp_eq_iff {m : ℤ} {x : ℚ} (nonneg : 0 ≤ x) :
    Python.roundHalfUp x = m ↔ (m : ℚ) - 1 / 2 ≤ x ∧ x < m + 1 / 2 := by
  have low := le_roundHalfUp_iff (m := m) nonneg
  have high := le_roundHalfUp_iff (m := m + 1) nonneg
  push_cast at high
  constructor
  · rintro rfl
    have above : ¬Python.roundHalfUp x + 1 ≤ Python.roundHalfUp x := by omega
    rw [high, not_le] at above
    constructor <;> linarith [low.mp le_rfl]
  · rintro ⟨least, most⟩
    have above : ¬m + 1 ≤ Python.roundHalfUp x := by
      rw [high]
      linarith
    have below : m ≤ Python.roundHalfUp x := low.mpr (by linarith)
    omega

theorem abs_roundHalfUp_sub {x : ℚ} (nonneg : 0 ≤ x) : |(Python.roundHalfUp x : ℚ) - x| ≤ 1 / 2 := by
  obtain ⟨least, most⟩ := (roundHalfUp_eq_iff nonneg).mp rfl
  rw [abs_le]
  constructor <;> linarith

/-! ## Significant digits -/

/-- What the last of some significant digits is worth. -/
def lastUnit (digits : ℕ) (x : ℚ) : ℚ := 10 ^ (Int.log 10 x + 1 - digits)

/-- A number rounded to some significant digits. -/
def significant (digits : ℕ) (x : ℚ) : ℚ :=
  Python.roundHalfUp (x / lastUnit digits x) * lastUnit digits x

def HasDigits (digits : ℕ) (x : ℚ) : Prop := ∃ n k : ℤ, |n| < 10 ^ digits ∧ x = n * 10 ^ k

def HasPlaces (places : ℕ) (x : ℚ) : Prop := ∃ n : ℤ, x * 10 ^ places = n

section

variable (digits : ℕ) {x : ℚ}

theorem lastUnit_pos : 0 < lastUnit digits x :=
  zpow_pos (by norm_num) _

/-- The digits of a number before the point of the last one. -/
theorem lastUnit_mul_le (pos : 0 < x) : 10 ^ (digits - 1 : ℤ) * lastUnit digits x ≤ x := by
  have scale : (10 : ℚ) ^ (digits - 1 : ℤ) * lastUnit digits x = 10 ^ Int.log 10 x := by
    unfold lastUnit
    rw [← zpow_add₀ (by norm_num)]
    congr 1
    omega
  rw [scale]
  exact_mod_cast Int.zpow_log_le_self (by norm_num) pos

theorem lt_lastUnit_mul : x < 10 ^ digits * lastUnit digits x := by
  have scale : (10 : ℚ) ^ digits * lastUnit digits x = 10 ^ (Int.log 10 x + 1) := by
    unfold lastUnit
    rw [← zpow_natCast, ← zpow_add₀ (by norm_num)]
    congr 1
    omega
  rw [scale]
  exact_mod_cast Int.lt_zpow_succ_log_self (by norm_num) x

theorem abs_significant_sub (pos : 0 < x) :
    |significant digits x - x| ≤ lastUnit digits x / 2 := by
  have unit_pos := lastUnit_pos digits (x := x)
  have scaled := abs_roundHalfUp_sub (div_nonneg pos.le unit_pos.le)
  have factored : significant digits x - x =
      (Python.roundHalfUp (x / lastUnit digits x) - x / lastUnit digits x) * lastUnit digits x := by
    unfold significant
    field_simp
  rw [factored, abs_mul, abs_of_pos unit_pos]
  linarith [mul_le_mul_of_nonneg_right scaled unit_pos.le]

theorem significant_pos (some_digits : 0 < digits) (pos : 0 < x) : 0 < significant digits x := by
  have unit_pos := lastUnit_pos digits (x := x)
  have one : (1 : ℚ) ≤ 10 ^ (digits - 1 : ℤ) := one_le_zpow₀ (by norm_num) (by omega)
  have least : lastUnit digits x ≤ x := by
    have low := lastUnit_mul_le digits pos
    linarith [mul_le_mul_of_nonneg_right one unit_pos.le]
  have near := (abs_le.mp (abs_significant_sub digits pos)).1
  linarith

/-- Rounding up may carry into one digit more, which is a power of ten. -/
theorem hasDigits_significant (some_digits : 0 < digits) (pos : 0 < x) :
    HasDigits digits (significant digits x) := by
  have unit_pos := lastUnit_pos digits (x := x)
  have scaled : x / lastUnit digits x < 10 ^ digits := by
    rw [div_lt_iff₀ unit_pos]
    exact lt_lastUnit_mul digits
  have nonneg : 0 ≤ x / lastUnit digits x := div_nonneg pos.le unit_pos.le
  have low : 0 ≤ Python.roundHalfUp (x / lastUnit digits x) := Python.roundHalfUp_nonneg nonneg
  have high : Python.roundHalfUp (x / lastUnit digits x) ≤ 10 ^ digits := by
    obtain ⟨least, -⟩ := (roundHalfUp_eq_iff nonneg).mp rfl
    have below : (Python.roundHalfUp (x / lastUnit digits x) : ℚ) < (10 ^ digits + 1 : ℤ) := by
      push_cast
      linarith
    exact Int.lt_add_one_iff.mp (by exact_mod_cast below)
  rcases high.lt_or_eq with less | carried
  · exact ⟨_, _, by rwa [abs_of_nonneg low], rfl⟩
  · refine ⟨1, digits + (Int.log 10 x + 1 - digits), ?_, ?_⟩
    · exact one_lt_pow₀ (by norm_num) some_digits.ne'
    · unfold significant
      rw [carried, zpow_add₀ (by norm_num)]
      push_cast
      rw [one_mul, zpow_natCast]
      rfl

/-! ## Decimal places -/

/-- The rounded number has some decimal places when its last digit is not after them, or when the
digits after them are rounded away. -/
theorem hasPlaces_significant_iff (places : ℕ) (pos : 0 < x) :
    HasPlaces places (significant digits x) ↔
      digits ≤ Int.log 10 x + 1 + places ∨
        ∃ n : ℤ, n / 10 ^ places - lastUnit digits x / 2 ≤ x ∧
          x < n / 10 ^ places + lastUnit digits x / 2 := by
  have unit_pos := lastUnit_pos digits (x := x)
  have ten_pos : (0 : ℚ) < 10 ^ places := by positivity
  by_cases coarse : digits ≤ Int.log 10 x + 1 + places
  · refine iff_of_true ?_ (Or.inl coarse)
    obtain ⟨j, spare⟩ := Int.eq_ofNat_of_zero_le (sub_nonneg.mpr coarse)
    refine ⟨Python.roundHalfUp (x / lastUnit digits x) * 10 ^ j, ?_⟩
    have whole : lastUnit digits x * 10 ^ places = 10 ^ j := by
      unfold lastUnit
      rw [← zpow_natCast, ← zpow_natCast, ← zpow_add₀ (by norm_num)]
      congr 1
      omega
    unfold significant
    rw [mul_assoc, whole]
    push_cast
    rfl
  · rw [or_iff_right coarse]
    -- a unit of the places is a whole number of last units
    obtain ⟨j, spare⟩ := Int.eq_ofNat_of_zero_le (sub_nonneg.mpr (not_le.mp coarse).le)
    have place : ∀ n : ℤ, (n : ℚ) / 10 ^ places = ((n * 10 ^ j : ℤ) : ℚ) * lastUnit digits x := by
      intro n
      have whole : (10 : ℚ) ^ j * lastUnit digits x * 10 ^ places = 1 := by
        unfold lastUnit
        rw [← zpow_natCast, ← zpow_natCast, ← zpow_add₀ (by norm_num), ← zpow_add₀ (by norm_num)]
        have exponent : (j : ℤ) + (Int.log 10 x + 1 - digits) + places = 0 := by omega
        rw [exponent, zpow_zero]
      rw [div_eq_iff ten_pos.ne']
      push_cast
      rw [mul_assoc, mul_assoc, ← mul_assoc (10 ^ j), whole, mul_one]
    refine exists_congr fun n => ?_
    rw [← eq_div_iff ten_pos.ne', place n]
    unfold significant
    rw [mul_left_inj' unit_pos.ne', Int.cast_inj,
      roundHalfUp_eq_iff (div_nonneg pos.le unit_pos.le), le_div_iff₀ unit_pos,
      div_lt_iff₀ unit_pos]
    constructor
    · rintro ⟨least, most⟩
      constructor <;> linarith
    · rintro ⟨least, most⟩
      constructor <;> linarith

end

end Digits
