import Avalant.Lib.Digits

/-!
Binary floating point with 53 bits, as the rationals it stands for.

A number is rounded to the multiples of its unit in the last place, half to even. Infinity is left
out: above the largest number the exponents go on.
-/

namespace Python

/-- The exponent of the last of the 53 bits; that of the subnormal numbers is the least. -/
def lastExponent (x : ℚ) : ℤ :=
  max (Int.log 2 |x| - 52) (-1074)

/-- The unit in the last place. -/
def ulp (x : ℚ) : ℚ :=
  2 ^ lastExponent x

/-- `float(x)`. -/
def float (x : ℚ) : ℚ :=
  roundHalfEven (x / ulp x) * ulp x

/-- `y` falls short of `v` by at most half a unit in its last place, and by the half only where `v`
is an even number of units. -/
def Reaches (v y : ℚ) : Prop :=
  v - ulp y / 2 < y ∨ v - ulp y / 2 = y ∧ (v / ulp y).floor % 2 = 0

instance (v y : ℚ) : Decidable (Reaches v y) :=
  inferInstanceAs (Decidable (_ ∨ _))

/-- `y` reaches the first number of its units from `v` on. -/
def Attains (v y : ℚ) : Prop :=
  Reaches ((v / ulp y).ceil * ulp y) y

/-- Rounded and cut off, `y` is at least `low` and at most `high`. -/
def CutsBetween (low high : ℤ) (y : ℚ) : Prop :=
  Attains low y ∧ ¬Attains (high + 1) y

instance (v y : ℚ) : Decidable (Attains v y) :=
  inferInstanceAs (Decidable (Reaches _ _))

instance (low high : ℤ) (y : ℚ) : Decidable (CutsBetween low high y) :=
  inferInstanceAs (Decidable (_ ∧ _))

/-- The decimals of some digits next to `x`, the nearer one first. -/
def neighbours (x : ℚ) (digits : ℕ) : List ℚ :=
  let unit := Digits.lastUnit digits x
  let down := (x / unit).floor * unit
  let up := (x / unit).ceil * unit
  if x - down ≤ up - x then [down, up] else [up, down]

/-- The shortest decimal that is read as `float(x)`. Seventeen digits are enough. -/
def shortest (x : ℚ) : ℚ :=
  let decimals := (List.range 17).flatMap fun k => neighbours (float x) (k + 1)
  (decimals.find? fun d => float d = float x).getD x

variable {x y : ℚ}

theorem ulp_pos (x : ℚ) : 0 < ulp x :=
  zpow_pos (by norm_num) _

/-! ## The error -/

theorem abs_float_sub_le (x : ℚ) : |float x - x| ≤ ulp x / 2 := by
  have pos := ulp_pos x
  have near := abs_roundHalfEven_sub_le (x / ulp x)
  have scaled : float x - x = (roundHalfEven (x / ulp x) - x / ulp x) * ulp x := by
    unfold float
    rw [sub_mul, div_mul_cancel₀ _ pos.ne']
  rw [scaled, abs_mul, abs_of_pos pos]
  linarith [mul_le_mul_of_nonneg_right near pos.le]

theorem log_lt {k : ℤ} (some_bits : 1 ≤ k) (small : |x| < 2 ^ k) : Int.log 2 |x| < k := by
  rcases (abs_nonneg x).eq_or_lt with zero | pos
  · rw [← zero, Int.log_zero_right]
    omega
  · exact (Int.lt_zpow_iff_log_lt one_lt_two pos).mp (by exact_mod_cast small)

theorem ulp_le {k : ℤ} (some_bits : 1 ≤ k) (small : |x| < 2 ^ k) : ulp x ≤ 2 ^ (k - 53) := by
  have log := log_lt some_bits small
  unfold ulp lastExponent
  exact zpow_le_zpow_right₀ (by norm_num) (by omega)

/-- The error below a power of two. -/
theorem abs_float_sub_le_of_lt {k : ℤ} (some_bits : 1 ≤ k) (small : |x| < 2 ^ k) :
    |float x - x| ≤ 2 ^ (k - 54) := by
  have bound := ulp_le some_bits small
  have halved : (2 : ℚ) ^ (k - 53) = 2 * 2 ^ (k - 54) := by
    rw [← zpow_one_add₀ (by norm_num : (2 : ℚ) ≠ 0)]
    congr 1
    omega
  linarith [abs_float_sub_le x]

/-- The error of a number that is not subnormal. -/
theorem abs_float_sub_le_mul (normal : 2 ^ (-1022 : ℤ) ≤ x) :
    |float x - x| ≤ 2 ^ (-53 : ℤ) * x := by
  have two : (2 : ℚ) ≠ 0 := by norm_num
  have pos : 0 < x := (zpow_pos (by norm_num : (0 : ℚ) < 2) _).trans_le normal
  have log : (-1022 : ℤ) ≤ Int.log 2 x :=
    (Int.zpow_le_iff_le_log one_lt_two pos).mp (by exact_mod_cast normal)
  have below : (2 : ℚ) ^ Int.log 2 x ≤ x := by
    exact_mod_cast Int.zpow_log_le_self one_lt_two pos
  have unit : ulp x = 2 ^ (-52 : ℤ) * 2 ^ Int.log 2 x := by
    unfold ulp lastExponent
    rw [abs_of_pos pos, max_eq_left (by omega), ← zpow_add₀ two]
    congr 1
    omega
  have halved : (2 : ℚ) ^ (-52 : ℤ) = 2 * 2 ^ (-53 : ℤ) := by norm_num
  have scaled : ulp x ≤ 2 * 2 ^ (-53 : ℤ) * x := by
    rw [unit, halved]
    exact mul_le_mul_of_nonneg_left below (by positivity)
  linarith [abs_float_sub_le x]

/-! ## Comparison -/

/-- Against a multiple of the unit. -/
theorem le_float_iff {v : ℚ} {n : ℤ} (multiple : v = n * ulp y) : v ≤ float y ↔ Reaches v y := by
  have pos := ulp_pos y
  have units : v / ulp y = n := by rw [multiple, mul_div_cancel_right₀ _ pos.ne']
  have half : v - ulp y / 2 = (n - 1 / 2) * ulp y := by
    rw [multiple]
    ring
  unfold float Reaches
  rw [units, Rat.floor_intCast, half, ← lt_div_iff₀ pos, ← eq_div_iff pos.ne',
    ← le_roundHalfEven_iff, multiple, mul_le_mul_iff_left₀ pos, Int.cast_le]

theorem le_float_iff_attains (v y : ℚ) : v ≤ float y ↔ Attains v y := by
  have pos := ulp_pos y
  unfold Attains
  rw [← le_float_iff rfl]
  unfold float
  rw [mul_le_mul_iff_left₀ pos, Int.cast_le, Rat.ceil_le_iff, div_le_iff₀ pos]

theorem float_nonneg (nonneg : 0 ≤ y) : 0 ≤ float y := by
  have units := roundHalfEven_mono (div_nonneg nonneg (ulp_pos y).le)
  rw [← Int.cast_zero, roundHalfEven_intCast] at units
  exact mul_nonneg (Int.cast_nonneg units) (ulp_pos y).le

theorem float_nonpos (nonpos : y ≤ 0) : float y ≤ 0 := by
  have units := roundHalfEven_mono (div_nonpos_of_nonpos_of_nonneg nonpos (ulp_pos y).le)
  rw [← Int.cast_zero, roundHalfEven_intCast] at units
  exact mul_nonpos_of_nonpos_of_nonneg (Int.cast_nonpos.mpr units) (ulp_pos y).le

theorem float_zero : float 0 = 0 := by
  have zero : roundHalfEven 0 = 0 := roundHalfEven_intCast 0
  unfold float
  rw [zero_div, zero, Int.cast_zero, zero_mul]

/-- What is left of a rounded number without its decimals. -/
theorem trunc_float_between_iff {low high : ℤ} (nonneg : 0 ≤ y) :
    low ≤ trunc (float y) ∧ trunc (float y) ≤ high ↔ CutsBetween low high y := by
  unfold CutsBetween
  rw [← le_float_iff_attains, ← le_float_iff_attains, trunc_of_nonneg (float_nonneg nonneg),
    Rat.le_floor_iff, ← Int.lt_add_one_iff, Rat.floor_lt_iff, not_le]
  push_cast
  rfl

theorem trunc_float_eq_iff {n : ℤ} (nonneg : 0 ≤ y) :
    trunc (float y) = n ↔ CutsBetween n n y := by
  rw [← trunc_float_between_iff nonneg]
  omega

theorem lastExponent_mono (pos : 0 < x) (le : x ≤ y) : lastExponent x ≤ lastExponent y := by
  unfold lastExponent
  rw [abs_of_pos pos, abs_of_pos (pos.trans_le le)]
  exact max_le_max (sub_le_sub_right (Int.log_mono_right pos le) 52) le_rfl

/-- The unit of a larger number is a multiple. -/
theorem ulp_multiple (pos : 0 < x) (le : x ≤ y) : ∃ n : ℤ, ulp y = n * ulp x := by
  have more := lastExponent_mono pos le
  refine ⟨2 ^ (lastExponent y - lastExponent x).toNat, ?_⟩
  unfold ulp
  push_cast
  rw [← zpow_natCast, ← zpow_add₀ (by norm_num : (2 : ℚ) ≠ 0)]
  congr 1
  omega

/-- A multiple of the unit stays below. -/
theorem multiple_le_float {n : ℤ} (le : n * ulp x ≤ x) : n * ulp x ≤ float x := by
  have units := roundHalfEven_mono ((le_div_iff₀ (ulp_pos x)).mpr le)
  rw [roundHalfEven_intCast] at units
  exact mul_le_mul_of_nonneg_right (Int.cast_le.mpr units) (ulp_pos x).le

theorem float_le_multiple {n : ℤ} (le : x ≤ n * ulp x) : float x ≤ n * ulp x := by
  have units := roundHalfEven_mono ((div_le_iff₀ (ulp_pos x)).mpr le)
  rw [roundHalfEven_intCast] at units
  exact mul_le_mul_of_nonneg_right (Int.cast_le.mpr units) (ulp_pos x).le

/-- Between numbers of different units there is a power of two, a multiple of both. -/
theorem exists_pivot (pos : 0 < x) (le : x ≤ y) (less : lastExponent x < lastExponent y) :
    ∃ n m : ℤ, (n : ℚ) * ulp x = m * ulp y ∧ x ≤ n * ulp x ∧ m * ulp y ≤ y := by
  have posY := pos.trans_le le
  have logs : Int.log 2 x < Int.log 2 y ∧ lastExponent y = Int.log 2 y - 52 := by
    unfold lastExponent at less ⊢
    rw [abs_of_pos pos, abs_of_pos posY] at less
    rw [abs_of_pos posY]
    omega
  have pivot : (2 : ℚ) ^ Int.log 2 y = (2 ^ 52 : ℤ) * ulp y := by
    unfold ulp
    rw [logs.2, Int.cast_pow, Int.cast_ofNat, ← zpow_natCast,
      ← zpow_add₀ (by norm_num : (2 : ℚ) ≠ 0)]
    congr 1
    omega
  have above : (2 : ℚ) ^ Int.log 2 y ≤ y := by
    exact_mod_cast Int.zpow_log_le_self one_lt_two posY
  have below : x < (2 : ℚ) ^ Int.log 2 y := by
    exact_mod_cast (Int.lt_zpow_iff_log_lt one_lt_two pos).mpr logs.1
  obtain ⟨n, multiple⟩ := ulp_multiple pos le
  have both : ((2 ^ 52 * n : ℤ) : ℚ) * ulp x = (2 ^ 52 : ℤ) * ulp y := by
    rw [multiple]
    push_cast
    ring
  rw [pivot] at above below
  exact ⟨2 ^ 52 * n, 2 ^ 52, both, both ▸ below.le, above⟩

theorem float_le_float (pos : 0 < x) (le : x ≤ y) : float x ≤ float y := by
  rcases (lastExponent_mono pos le).eq_or_lt with same | less
  · have units : ulp x = ulp y := by
      unfold ulp
      rw [same]
    unfold float
    rw [units]
    have rounded := roundHalfEven_mono (div_le_div_of_nonneg_right le (ulp_pos y).le)
    exact mul_le_mul_of_nonneg_right (Int.cast_le.mpr rounded) (ulp_pos y).le
  · obtain ⟨n, m, same, below, above⟩ := exists_pivot pos le less
    calc float x ≤ n * ulp x := float_le_multiple below
      _ = m * ulp y := same
      _ ≤ float y := multiple_le_float above

/-- What is rounded to `float x` or above. -/
theorem float_le_float_iff (posX : 0 < x) (posY : 0 < y) :
    float x ≤ float y ↔ Reaches (float x) y := by
  rcases lt_or_ge y x with less | le
  · obtain ⟨n, multiple⟩ := ulp_multiple posY less.le
    refine le_float_iff (n := roundHalfEven (x / ulp x) * n) ?_
    unfold float
    rw [multiple]
    push_cast
    ring
  · refine iff_of_true (float_le_float posX le) ?_
    have itself : Reaches (float x) x := (le_float_iff rfl).mp le_rfl
    rcases le.eq_or_lt with rfl | less
    · exact itself
    · have units : ulp x ≤ ulp y :=
        zpow_le_zpow_right₀ (by norm_num) (lastExponent_mono posX le)
      have close : float x - ulp x / 2 ≤ x := itself.elim le_of_lt fun tie => tie.1.le
      exact Or.inl (by linarith)

/-! ## Products -/

/-- The rounded product of two rounded numbers. -/
theorem abs_float_mul_sub_le (normalX : 2 ^ (-1022 : ℤ) ≤ x) (normalY : 2 ^ (-1022 : ℤ) ≤ y)
    (normal : 2 ^ (-1021 : ℤ) ≤ x * y) :
    |float (float x * float y) - x * y| ≤ 2 ^ (-51 : ℤ) * (x * y) := by
  have least : (0 : ℚ) < 2 ^ (-1022 : ℤ) := zpow_pos (by norm_num) _
  have posX := least.trans_le normalX
  have posY := least.trans_le normalY
  have pos := mul_pos posX posY
  have unit : (2 : ℚ) ^ (-53 : ℤ) = 1 / 9007199254740992 := by norm_num
  have nearX := abs_le.mp (abs_float_sub_le_mul normalX)
  have nearY := abs_le.mp (abs_float_sub_le_mul normalY)
  rw [unit] at nearX nearY
  have low : 9007199254740991 / 9007199254740992 * x * (9007199254740991 / 9007199254740992 * y) ≤
      float x * float y :=
    mul_le_mul (by linarith) (by linarith) (by linarith) (float_nonneg posX.le)
  have high : float x * float y ≤
      9007199254740993 / 9007199254740992 * x * (9007199254740993 / 9007199254740992 * y) :=
    mul_le_mul (by linarith) (by linarith) (float_nonneg posY.le) (by linarith)
  have half : (2 : ℚ) ^ (-1021 : ℤ) = 2 * 2 ^ (-1022 : ℤ) := by
    rw [← zpow_one_add₀ (by norm_num : (2 : ℚ) ≠ 0)]
    norm_num
  have near := abs_le.mp (abs_float_sub_le_mul (x := float x * float y) (by linarith))
  rw [unit] at near
  have quarter : (2 : ℚ) ^ (-51 : ℤ) = 1 / 2251799813685248 := by norm_num
  rw [quarter, abs_le]
  constructor <;> linarith

/-! ## Shortest decimals -/

/-- What is written with the fewest digits is read as the same number. -/
theorem float_shortest (x : ℚ) : float (shortest x) = float x := by
  unfold shortest
  dsimp only
  cases found : ((List.range 17).flatMap fun k => neighbours (float x) (k + 1)).find? fun d =>
      float d = float x with
  | none => rfl
  | some d =>
      have reads := List.find?_some found
      exact of_decide_eq_true reads

end Python
