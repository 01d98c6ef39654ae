import Mathlib.Algebra.Order.Group.Unbundled.Abs
import Mathlib.Algebra.Order.Field.Rat
import Mathlib.Data.List.Sort
import Mathlib.Tactic.Linarith

/-!
`float64` without its rounding: the rationals, the two infinities and NaN. Both zeros are one.
-/

namespace Go

inductive Float64 where
  | nan
  | inf (negative : Bool)
  | fin (x : ℚ)
deriving DecidableEq

namespace Float64

/-- `x <= y`. -/
def le : Float64 → Float64 → Bool
  | .fin x, .fin y => x ≤ y
  | .inf true, .inf _ | .inf true, .fin _ | .inf false, .inf false | .fin _, .inf false => true
  | _, _ => false

def sub : Float64 → Float64 → Float64
  | .fin x, .fin y => .fin (x - y)
  | .inf negative, .fin _ => .inf negative
  | .fin _, .inf negative => .inf !negative
  | .inf true, .inf false => .inf true
  | .inf false, .inf true => .inf false
  | _, _ => .nan

/-- `math.Abs`. -/
def abs : Float64 → Float64
  | .nan => .nan
  | .inf _ => .inf false
  | .fin x => .fin |x|

def div : Float64 → Float64 → Float64
  | .fin x, .fin y => if y ≠ 0 then .fin (x / y) else if x = 0 then .nan else .inf (x < 0)
  | .fin _, .inf _ => .fin 0
  | .inf negative, .fin y => .inf (negative != decide (y < 0))
  | _, _ => .nan

/-- The order of `sort.Float64s`, with NaN first. -/
def sortLe : Float64 → Float64 → Bool
  | .nan, _ => true
  | _, .nan => false
  | x, y => le x y

theorem sortLe_trans (x y z : Float64) (first : sortLe x y = true) (second : sortLe y z = true) :
    sortLe x z = true := by
  rcases x with _ | (_ | _) | x <;> rcases y with _ | (_ | _) | y <;>
    rcases z with _ | (_ | _) | z <;> simp_all [sortLe, le]
  exact first.trans second

theorem sortLe_total (x y : Float64) : (sortLe x y || sortLe y x) = true := by
  rcases x with _ | (_ | _) | x <;> rcases y with _ | (_ | _) | y <;> simp [sortLe, le]
  exact Rat.le_total

instance : IsTrans Float64 fun x y => sortLe x y = true :=
  ⟨sortLe_trans⟩

instance : Std.Total fun x y : Float64 => sortLe x y = true :=
  ⟨fun x y => by simpa using sortLe_total x y⟩

/-- `sort.Float64s`. -/
def sort (xs : List Float64) : List Float64 :=
  xs.insertionSort fun x y => sortLe x y = true

theorem sort_perm (xs : List Float64) : (sort xs).Perm xs :=
  List.perm_insertionSort _ xs

theorem sort_sorted (xs : List Float64) : (sort xs).Pairwise fun x y => sortLe x y = true :=
  List.pairwise_insertionSort _ xs

/-- A rational from an interval. -/
def within (a b : ℚ) : Float64 → Bool
  | .fin x => a ≤ x ∧ x ≤ b
  | _ => false

variable {a b : ℚ} {x y z : Float64}

theorem within_iff : within a b x = true ↔ ∃ q : ℚ, x = .fin q ∧ a ≤ q ∧ q ≤ b := by
  rcases x with _ | _ | q <;> simp [within]

/-- What is sorted between two rationals of an interval is one of them. -/
theorem within_of_between (below : sortLe x y = true) (above : sortLe y z = true)
    (low : within a b x = true) (high : within a b z = true) : within a b y = true := by
  rcases within_iff.mp low with ⟨q, rfl, least, -⟩
  rcases within_iff.mp high with ⟨r, rfl, -, most⟩
  rcases y with _ | (_ | _) | y
  · simp [sortLe] at below
  · simp [sortLe, le] at above
  · simp [sortLe, le] at below
  · have lower : q ≤ y := of_decide_eq_true below
    have upper : y ≤ r := of_decide_eq_true above
    exact within_iff.mpr ⟨y, rfl, least.trans lower, upper.trans most⟩

/-- A relative deviation from a positive rational within a bound. -/
theorem deviation_le_iff {m t : ℚ} (pos : 0 < m) :
    le (div (abs (sub x (.fin m))) (.fin m)) (.fin t) = true ↔
      ∃ q : ℚ, x = .fin q ∧ |q - m| ≤ t * m := by
  rcases x with _ | negative | q
  · simp [sub, abs, div, le]
  · simp [sub, abs, div, le, pos.le]
  · simp [sub, abs, div, le, pos.ne', div_le_iff₀ pos]

/-- A relative deviation of at most `t` is as near to an interval that holds the rational. -/
theorem bounds_of_deviation {q m t : ℚ} (nonneg : 0 ≤ t) (small : t ≤ 1) (low : a ≤ m)
    (high : m ≤ b) (close : |q - m| ≤ t * m) : a * (1 - t) ≤ q ∧ q ≤ b * (1 + t) := by
  rcases abs_le.mp close with ⟨above, below⟩
  have scaled_low : a * (1 - t) ≤ m * (1 - t) := mul_le_mul_of_nonneg_right low (by linarith)
  have scaled_high : m * (1 + t) ≤ b * (1 + t) := mul_le_mul_of_nonneg_right high (by linarith)
  constructor <;> linarith

end Float64

end Go
