import Mathlib.Data.Rat.Defs
import Mathlib.Tactic.NormNum

/-!
Python expressions the models use, and what an ORM flush writes.

Only the fragments with a meaning of their own are here: truthiness of an
optional number, the `or` fallback chain, slicing, and the dirty-column rule of
a unit of work (a flush emits a column only when its value differs from the
loaded one).
-/

namespace Python

/-! ## Truthiness -/

/-- `bool(x)` of a number that may be `None`. -/
def truthy : Option ℚ → Bool
  | none => false
  | some x => x ≠ 0

/-- `x or y` on numbers that may be `None`: a zero falls through like `None`. -/
def or_ (x y : Option ℚ) : Option ℚ :=
  if truthy x then x else y

/-- `float(x or 0)`. -/
def orZero (x : Option ℚ) : ℚ :=
  x.getD 0

@[simp] theorem truthy_none : truthy none = false := rfl

@[simp] theorem truthy_some (x : ℚ) : truthy (some x) = true ↔ x ≠ 0 := by
  simp [truthy]

@[simp] theorem or_none (y : Option ℚ) : or_ none y = y := rfl

@[simp] theorem or_zero (y : Option ℚ) : or_ (some 0) y = y := by
  simp [or_, truthy]

theorem or_of_truthy {x : Option ℚ} (y : Option ℚ) (nonzero : truthy x = true) :
    or_ x y = x := by
  simp [or_, nonzero]

@[simp] theorem orZero_none : orZero none = 0 := rfl

@[simp] theorem orZero_some (x : ℚ) : orZero (some x) = x := rfl

/-- `s[:n]`. -/
def take (n : Nat) (s : String) : String :=
  String.ofList (s.toList.take n)

/-- `c.isspace()`. -/
def isSpace (c : Char) : Bool :=
  let n := c.toNat
  9 ≤ n ∧ n ≤ 13 ∨ 28 ≤ n ∧ n ≤ 32 ∨ 0x2000 ≤ n ∧ n ≤ 0x200A ∨
    n ∈ [0x85, 0xA0, 0x1680, 0x2028, 0x2029, 0x202F, 0x205F, 0x3000]

/-- `s.strip()`. -/
def strip (s : String) : String :=
  String.ofList ((s.toList.dropWhile isSpace).reverse.dropWhile isSpace).reverse

/-- `s.lower()`, on ASCII. -/
def lower (s : String) : String :=
  String.ofList (s.toList.map Char.toLower)

/-- `s.upper()`, on ASCII. -/
def upper (s : String) : String :=
  String.ofList (s.toList.map Char.toUpper)

/-- `s.endswith(suffix)`. -/
def endsWith (s suffix : String) : Bool :=
  suffix.toList.isSuffixOf s.toList

/-- `s[:-n]`, for a positive `n`. -/
def dropLast (n : Nat) (s : String) : String :=
  String.ofList (s.toList.take (s.toList.length - n))

/-- `int(x)` of a number: the fraction is dropped. -/
def trunc (x : ℚ) : ℤ :=
  x.num.tdiv x.den

/-- A string that is neither `None` nor empty. -/
def nonEmpty (s : Option String) : Option String :=
  s.filter fun text => text != ""

@[simp] theorem nonEmpty_none : nonEmpty none = none := rfl

@[simp] theorem nonEmpty_empty : nonEmpty (some "") = none := rfl

theorem nonEmpty_some {text : String} (nonempty : text ≠ "") : nonEmpty (some text) = some text := by
  simp [nonEmpty, nonempty]

theorem nonEmpty_of_ne {x : Option String} (filled : x ≠ some "") : nonEmpty x = x := by
  cases x with
  | none => rfl
  | some text => exact nonEmpty_some fun empty => filled (empty ▸ rfl)

/-- `s or default` on a string that may be `None`: the empty string falls through. -/
def orStr (s : Option String) (default : String) : String :=
  match s with
  | none | some "" => default
  | some text => text

/-- `needle in s`. -/
def contains (s needle : String) : Bool :=
  s.toList.tails.any fun rest => needle.toList.isPrefixOf rest

/-! ## Cents -/

/-- Round half to even. -/
def roundHalfEven (x : ℚ) : ℤ :=
  let below := x.floor
  let rest := x - below
  if rest < 1 / 2 then below
  else if 1 / 2 < rest then below + 1
  else if below % 2 = 0 then below else below + 1

/-- `x.quantize(Decimal("0.01"))`. -/
def quantizeCents (x : ℚ) : ℚ :=
  roundHalfEven (x * 100) / 100

/-- Round half away from zero. -/
def roundHalfUp (x : ℚ) : ℤ :=
  if 0 ≤ x then (x + 1 / 2).floor else -(-x + 1 / 2).floor

/-- `x.quantize(Decimal("0.01"), rounding=ROUND_HALF_UP)`. -/
def quantizeHalfUp (x : ℚ) : ℚ :=
  roundHalfUp (x * 100) / 100

/-- `f"{x:.2f}"`. -/
def fixed2 (x : ℚ) : String :=
  let cents := roundHalfEven (x * 100)
  let digits := toString (cents.natAbs % 100)
  (if cents < 0 then "-" else "") ++ toString (cents.natAbs / 100) ++ "." ++
    (if digits.length < 2 then "0" else "") ++ digits

/-! ## Dirty columns -/

/-- What a flush writes for one column: nothing when the attribute still has
the loaded value. -/
def dirty {β : Type*} [DecidableEq β] (loaded new : β) : Option β :=
  if loaded = new then none else some new

section Dirty

variable {β : Type*} [DecidableEq β]

theorem dirty_eq_some_iff {loaded new x : β} :
    dirty loaded new = some x ↔ loaded ≠ new ∧ x = new := by
  unfold dirty
  split
  case isTrue same => simp [same]
  case isFalse changed => simp [changed, eq_comm]

/-- Written back to the row it was loaded from, a flush gives the new value. -/
@[simp] theorem dirty_getD_loaded (loaded new : β) :
    (dirty loaded new).getD loaded = new := by
  unfold dirty
  split
  case isTrue same => simpa using same
  case isFalse => rfl

end Dirty

end Python
