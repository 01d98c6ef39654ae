import Avalant.Lib.Python
import Mathlib.Algebra.Order.Floor.Ring
import Mathlib.Data.Rat.Floor
import Mathlib.Tactic.FieldSimp
import Mathlib.Tactic.Linarith
import Mathlib.Tactic.Positivity
import Mathlib.Tactic.Ring

/-!
Rounding of rationals.
-/

namespace Python

theorem roundHalfUp_neg (x : ℚ) : roundHalfUp (-x) = -roundHalfUp x := by
  unfold roundHalfUp
  rcases lt_trichotomy x 0 with neg | rfl | pos
  · rw [if_pos (by linarith), if_neg (by linarith), neg_neg]
  · decide +kernel
  · rw [if_neg (by linarith), if_pos (by linarith), neg_neg]

theorem roundHalfUp_nonneg {x : ℚ} (nonneg : 0 ≤ x) : 0 ≤ roundHalfUp x := by
  unfold roundHalfUp
  rw [if_pos nonneg]
  exact Rat.le_floor_iff.mpr (by norm_num; linarith)

theorem roundHalfUp_mono {x y : ℚ} (le : x ≤ y) : roundHalfUp x ≤ roundHalfUp y := by
  by_cases xs : 0 ≤ x
  · have ys : 0 ≤ y := xs.trans le
    unfold roundHalfUp
    rw [if_pos xs, if_pos ys]
    exact Rat.floor_monotone (by linarith)
  · by_cases ys : 0 ≤ y
    · have low : 0 ≤ roundHalfUp (-x) := roundHalfUp_nonneg (by linarith)
      have high := roundHalfUp_nonneg ys
      rw [roundHalfUp_neg] at low
      omega
    · unfold roundHalfUp
      rw [if_neg xs, if_neg ys]
      exact neg_le_neg (Rat.floor_monotone (by linarith))

/-! ## Towards zero -/

theorem trunc_of_nonneg {x : ℚ} (nonneg : 0 ≤ x) : trunc x = x.floor := by
  unfold trunc
  rw [Int.tdiv_eq_ediv_of_nonneg (Rat.num_nonneg.mpr nonneg), Rat.floor_def]

theorem trunc_neg (x : ℚ) : trunc (-x) = -trunc x := by
  unfold trunc
  rw [Rat.num_neg_eq_neg_num, Rat.den_neg_eq_den, Int.neg_tdiv]

/-- Cutting off what is a half further from zero rounds half away from zero. -/
theorem trunc_add_half (x : ℚ) :
    trunc (x + if x < 0 then -1 / 2 else 1 / 2) = roundHalfUp x := by
  unfold roundHalfUp
  split
  case isTrue neg =>
    rw [if_neg (not_le.mpr neg), ← trunc_of_nonneg (by linarith), ← trunc_neg]
    congr 1
    ring
  case isFalse nonneg =>
    rw [if_pos (not_lt.mp nonneg), trunc_of_nonneg (by linarith [not_lt.mp nonneg])]

/-! ## Half to even -/

/-- The integers up to the rounded value: it goes down from less than a half, and from a half to the
even side. -/
theorem le_roundHalfEven_iff {m : ℤ} {x : ℚ} :
    m ≤ roundHalfEven x ↔ (m : ℚ) - 1 / 2 < x ∨ (m : ℚ) - 1 / 2 = x ∧ m % 2 = 0 := by
  have below : (x.floor : ℚ) ≤ x := Rat.floor_le x
  have above : x < x.floor + 1 := by
    have bound := Rat.lt_floor_add_one x
    push_cast at bound
    exact bound
  -- against the integers next to `x.floor`, the comparison is decided by the part after the point
  rcases lt_trichotomy m (x.floor + 1) with less | same | more
  · have low : m ≤ roundHalfEven x := by
      unfold roundHalfEven
      dsimp only
      split_ifs <;> omega
    have cast : (m : ℚ) ≤ x.floor := by exact_mod_cast Int.lt_add_one_iff.mp less
    exact iff_of_true low (Or.inl (by linarith))
  · subst same
    push_cast
    unfold roundHalfEven
    dsimp only
    split_ifs with small large even
    · refine iff_of_false (by omega) ?_
      rintro (gt | ⟨eq, -⟩) <;> linarith
    · exact iff_of_true le_rfl (Or.inl (by linarith))
    · refine iff_of_false (by omega) ?_
      rintro (gt | ⟨-, next_even⟩)
      · linarith
      · omega
    · exact iff_of_true le_rfl (Or.inr ⟨by linarith, by omega⟩)
  · have high : ¬m ≤ roundHalfEven x := by
      unfold roundHalfEven
      dsimp only
      split_ifs <;> omega
    have cast : (x.floor : ℚ) + 2 ≤ m := by exact_mod_cast (show x.floor + 2 ≤ m by omega)
    refine iff_of_false high ?_
    rintro (gt | ⟨eq, -⟩) <;> linarith

theorem roundHalfEven_intCast (n : ℤ) : roundHalfEven n = n := by
  have low : n ≤ roundHalfEven n := le_roundHalfEven_iff.mpr (Or.inl (by linarith))
  have high : ¬n + 1 ≤ roundHalfEven n := by
    rw [le_roundHalfEven_iff]
    push_cast
    rintro (gt | ⟨eq, -⟩) <;> linarith
  omega

theorem abs_roundHalfEven_sub_le (x : ℚ) : |(roundHalfEven x : ℚ) - x| ≤ 1 / 2 := by
  have low := (le_roundHalfEven_iff (m := roundHalfEven x) (x := x)).mp le_rfl
  have high : ¬roundHalfEven x + 1 ≤ roundHalfEven x := by omega
  rw [le_roundHalfEven_iff, not_or] at high
  push_cast at high
  rw [abs_le]
  refine ⟨by linarith [not_lt.mp high.1], ?_⟩
  rcases low with less | ⟨same, -⟩ <;> linarith

theorem roundHalfEven_mono {x y : ℚ} (le : x ≤ y) : roundHalfEven x ≤ roundHalfEven y := by
  have low := (le_roundHalfEven_iff (m := roundHalfEven x) (x := x)).mp le_rfl
  refine le_roundHalfEven_iff.mpr ?_
  rcases low with less | ⟨same, even⟩
  · exact Or.inl (less.trans_le le)
  · rw [← same] at le
    exact le.lt_or_eq.imp id fun eq => ⟨eq, even⟩

/-- Less than a half from an integer. -/
theorem roundHalfEven_eq_of_near {n : ℤ} {x : ℚ} (near : |x - n| < 1 / 2) : roundHalfEven x = n := by
  rw [abs_lt] at near
  have low : n ≤ roundHalfEven x := le_roundHalfEven_iff.mpr (Or.inl (by linarith))
  have high : ¬n + 1 ≤ roundHalfEven x := by
    rw [le_roundHalfEven_iff]
    push_cast
    rintro (more | ⟨eq, -⟩) <;> linarith
  omega

/-- What is added to an integer is rounded away. -/
theorem roundHalfEven_add_eq_iff {n : ℤ} {x : ℚ} (nonneg : 0 ≤ x) :
    roundHalfEven (n + x) = n ↔ x < 1 / 2 ∨ x = 1 / 2 ∧ n % 2 = 0 := by
  have low : n ≤ roundHalfEven (n + x) := le_roundHalfEven_iff.mpr (Or.inl (by linarith))
  have next := le_roundHalfEven_iff (m := n + 1) (x := n + x)
  push_cast at next
  constructor
  · intro same
    have stays : ¬n + 1 ≤ roundHalfEven (n + x) := by omega
    rw [next, not_or] at stays
    have most : x ≤ 1 / 2 := by linarith [not_lt.mp stays.1]
    rcases most.lt_or_eq with small | half
    · exact Or.inl small
    · have odd : ¬(n + 1) % 2 = 0 := fun even => stays.2 ⟨by linarith, even⟩
      exact Or.inr ⟨half, by omega⟩
  · intro small
    have stays : ¬n + 1 ≤ roundHalfEven (n + x) := by
      rw [next]
      rintro (gt | ⟨eq, even⟩)
      · rcases small with lt | ⟨half, -⟩ <;> linarith
      · rcases small with lt | ⟨-, n_even⟩
        · linarith
        · omega
    omega

/-- `round(x, places)`, which is also what `x` printed to that many places says. -/
def round (x : ℚ) (places : ℕ) : ℚ :=
  roundHalfEven (x * 10 ^ places) / 10 ^ places

theorem round_nonneg {x : ℚ} (places : ℕ) (nonneg : 0 ≤ x) : 0 ≤ round x places := by
  have units := roundHalfEven_mono (mul_nonneg nonneg (by positivity : (0 : ℚ) ≤ 10 ^ places))
  rw [← Int.cast_zero, roundHalfEven_intCast] at units
  exact div_nonneg (by exact_mod_cast units) (by positivity)

theorem round_eq_self_iff {x : ℚ} {places : ℕ} :
    round x places = x ↔ ∃ n : ℤ, x * 10 ^ places = n := by
  have pos : (0 : ℚ) < 10 ^ places := by positivity
  unfold round
  rw [div_eq_iff pos.ne']
  constructor
  · exact fun same => ⟨_, same.symm⟩
  · rintro ⟨n, whole⟩
    rw [whole, roundHalfEven_intCast]

/-- The whole part of a number rounded to some places: the last half unit of the places counts as
full. -/
theorem floor_round {x : ℚ} {places : ℕ} (some_places : 0 < places) :
    (round x places).floor = (x + 1 / (2 * 10 ^ places)).floor := by
  have pos : (0 : ℚ) < 10 ^ places := by positivity
  have even : ∀ j : ℤ, (j * 10 ^ places) % 2 = 0 := by
    intro j
    have ten : (2 : ℤ) ∣ 10 ^ places := dvd_pow (by norm_num) some_places.ne'
    exact Int.emod_eq_zero_of_dvd (ten.mul_left j)
  have same : ∀ j : ℤ, j ≤ (round x places).floor ↔ j ≤ (x + 1 / (2 * 10 ^ places)).floor := by
    intro j
    rw [Rat.le_floor_iff, Rat.le_floor_iff]
    unfold round
    rw [le_div_iff₀ pos]
    have whole : (j : ℚ) * 10 ^ places = ((j * 10 ^ places : ℤ) : ℚ) := by push_cast; rfl
    rw [whole, Int.cast_le, le_roundHalfEven_iff, ← whole]
    have half : (1 : ℚ) / (2 * 10 ^ places) * 10 ^ places = 1 / 2 := by field_simp
    have scaled : (j : ℚ) ≤ x + 1 / (2 * 10 ^ places) ↔ (j : ℚ) * 10 ^ places - 1 / 2 ≤
        x * 10 ^ places := by
      rw [← mul_le_mul_iff_left₀ pos, add_mul, half]
      constructor <;> intro le <;> linarith
    rw [scaled, le_iff_lt_or_eq]
    simp [even j]
  exact le_antisymm ((same _).mp le_rfl) ((same _).mpr le_rfl)

end Python
