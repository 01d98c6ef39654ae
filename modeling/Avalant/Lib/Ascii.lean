import Mathlib

/-!
Texts of ASCII: folding of letters, trimming of blanks, and comparison without regard to case.
-/

namespace Ascii

/-! ## Characters -/

variable {c : Char}

theorem toNat_toLower (c : Char) :
    c.toLower.toNat = if 65 ≤ c.toNat ∧ c.toNat ≤ 90 then c.toNat + 32 else c.toNat := by
  have bound := c.val.toNat_lt
  have upper : (c.val ≥ 'A'.val ∧ c.val ≤ 'Z'.val) ↔ 65 ≤ c.toNat ∧ c.toNat ≤ 90 := Iff.rfl
  unfold Char.toLower
  by_cases letter : 65 ≤ c.toNat ∧ c.toNat ≤ 90
  · rw [dif_pos (upper.mpr letter), if_pos letter]
    change (c.val + 32).toNat = c.val.toNat + 32
    change _ ∧ c.val.toNat ≤ 90 at letter
    rw [UInt32.toNat_add]
    exact Nat.mod_eq_of_lt (by change c.val.toNat + 32 < 2 ^ 32; omega)
  · rw [dif_neg fun is => letter (upper.mp is), if_neg letter]

theorem toNat_toUpper (c : Char) :
    c.toUpper.toNat = if 97 ≤ c.toNat ∧ c.toNat ≤ 122 then c.toNat - 32 else c.toNat := by
  have bound := c.val.toNat_lt
  have lower : ('a'.val ≤ c.val ∧ c.val ≤ 'z'.val) ↔ 97 ≤ c.toNat ∧ c.toNat ≤ 122 := Iff.rfl
  unfold Char.toUpper
  by_cases letter : 97 ≤ c.toNat ∧ c.toNat ≤ 122
  · rw [dif_pos (lower.mpr letter), if_pos letter]
    change (c.val + ('A'.val - 'a'.val)).toNat = c.val.toNat - 32
    change 97 ≤ c.val.toNat ∧ _ at letter
    rw [UInt32.toNat_add]
    change (c.val.toNat + 4294967264) % 2 ^ 32 = _
    omega
  · rw [dif_neg fun is => letter (lower.mp is), if_neg letter]

theorem eq_of_toNat {c d : Char} (same : c.toNat = d.toNat) : c = d :=
  Char.ext (UInt32.toNat_inj.mp same)

/-- A character is as it is in both cases, or it is a letter. -/
theorem caseless_iff : c.toLower = c ∧ c.toUpper = c ↔ c.isAlpha = false := by
  have alpha : c.isAlpha = false ↔ c.isUpper = false ∧ c.isLower = false :=
    Bool.or_eq_false_iff
  rw [alpha]
  constructor
  · rintro ⟨low, up⟩
    have notUpper := Char.isUpper_toLower_eq_false c
    have notLower := Char.isLower_toUpper_eq_false c
    rw [low] at notUpper
    rw [up] at notLower
    exact ⟨notUpper, notLower⟩
  · rintro ⟨notUpper, notLower⟩
    exact ⟨Char.toLower_eq_of_not_isUpper (Bool.not_eq_true _ ▸ notUpper),
      Char.toUpper_eq_of_not_isLower (Bool.not_eq_true _ ▸ notLower)⟩

/-- What `unicode.IsSpace` takes for a blank. -/
def isSpace (c : Char) : Bool :=
  c = ' ' ∨ 9 ≤ c.toNat ∧ c.toNat ≤ 13

theorem isSpace_toLower (c : Char) : isSpace c.toLower = isSpace c := by
  have blank : ∀ d : Char, d = ' ' ↔ d.toNat = 32 := fun d =>
    ⟨fun same => by rw [same]; rfl, fun same => eq_of_toNat same⟩
  unfold isSpace
  simp only [blank, toNat_toLower, decide_eq_decide]
  split <;> omega

theorem isSpace_toUpper (c : Char) : isSpace c.toUpper = isSpace c := by
  have blank : ∀ d : Char, d = ' ' ↔ d.toNat = 32 := fun d =>
    ⟨fun same => by rw [same]; rfl, fun same => eq_of_toNat same⟩
  unfold isSpace
  simp only [blank, toNat_toUpper, decide_eq_decide]
  split <;> omega

/-! ## Texts -/

variable {s t : String}

def lower (s : String) : String :=
  String.ofList (s.toList.map Char.toLower)

def upper (s : String) : String :=
  String.ofList (s.toList.map Char.toUpper)

def equalFold (s t : String) : Bool :=
  lower s = lower t

/-- Some letter, of either case. -/
def HasLetter (s : String) : Prop :=
  ∃ c ∈ s.toList, c.isAlpha = true

def trim (s : String) : String :=
  String.ofList ((s.toList.dropWhile isSpace).rdropWhile isSpace)

@[simp] theorem lower_lower (s : String) : lower (lower s) = lower s := by
  simp [lower, Function.comp_def]

@[simp] theorem upper_upper (s : String) : upper (upper s) = upper s := by
  simp [upper, Function.comp_def]

@[simp] theorem lower_upper (s : String) : lower (upper s) = lower s := by
  simp [lower, upper, Function.comp_def]

theorem equalFold_iff : equalFold s t = true ↔ lower s = lower t :=
  decide_eq_true_iff

theorem lower_eq_empty : lower s = "" ↔ s = "" := by
  rw [← String.toList_inj, ← String.toList_inj]
  simp [lower]

theorem upper_eq_empty : upper s = "" ↔ s = "" := by
  rw [← String.toList_inj, ← String.toList_inj]
  simp [upper]

theorem ofList_map_eq {f : Char → Char} :
    String.ofList (s.toList.map f) = s ↔ ∀ c ∈ s.toList, f c = c := by
  rw [← String.toList_inj, String.toList_ofList]
  nth_rewrite 2 [← List.map_id s.toList]
  exact List.map_inj_left

theorem caseless_text_iff : lower s = s ∧ upper s = s ↔ ¬HasLetter s := by
  unfold lower upper
  rw [ofList_map_eq, ofList_map_eq]
  constructor
  · rintro ⟨low, up⟩ ⟨c, member, letter⟩
    rw [caseless_iff.mp ⟨low c member, up c member⟩] at letter
    cases letter
  · intro none
    have plain : ∀ c ∈ s.toList, c.toLower = c ∧ c.toUpper = c := fun c member =>
      caseless_iff.mpr (Bool.eq_false_iff.mpr fun letter => none ⟨c, member, letter⟩)
    exact ⟨fun c member => (plain c member).1, fun c member => (plain c member).2⟩

/-- What is not a letter is no letter's other case. -/
theorem eq_of_toLower_caseless {c : Char} (up : c.toLower.toUpper = c.toLower) : c.toLower = c := by
  by_cases letter : c.isUpper = true
  · rw [Char.toUpper_toLower_eq_toUpper,
      Char.toUpper_eq_of_not_isLower (Char.not_isLower_of_isUpper letter)] at up
    exact up.symm
  · exact Char.toLower_eq_of_not_isUpper letter

/-- A text without letters equals no other up to case. -/
theorem eq_of_lower_eq (none : ¬HasLetter s) (same : lower t = lower s) : t = s := by
  have plain := caseless_text_iff.mpr none
  rw [plain.1] at same
  have t_plain : ∀ c ∈ t.toList, c.toLower = c := by
    intro c member
    have image : c.toLower ∈ s.toList := by
      rw [← same]
      simpa [lower] using ⟨c, member, rfl⟩
    exact eq_of_toLower_caseless (ofList_map_eq.mp plain.2 _ image)
  rw [← same]
  exact (ofList_map_eq.mpr t_plain).symm

theorem dropWhile_map_of_blind {f : Char → Char} {p : Char → Bool} (blind : ∀ c, p (f c) = p c)
    (cs : List Char) : (cs.map f).dropWhile p = (cs.dropWhile p).map f := by
  rw [List.dropWhile_map]
  have same : p ∘ f = p := funext blind
  rw [same]

theorem rdropWhile_map_of_blind {f : Char → Char} {p : Char → Bool} (blind : ∀ c, p (f c) = p c)
    (cs : List Char) : (cs.map f).rdropWhile p = (cs.rdropWhile p).map f := by
  simp only [List.rdropWhile, ← List.map_reverse, dropWhile_map_of_blind blind]

@[simp] theorem trim_upper (s : String) : trim (upper s) = upper (trim s) := by
  simp [trim, upper, dropWhile_map_of_blind isSpace_toUpper,
    rdropWhile_map_of_blind isSpace_toUpper]

@[simp] theorem trim_lower (s : String) : trim (lower s) = lower (trim s) := by
  simp [trim, lower, dropWhile_map_of_blind isSpace_toLower,
    rdropWhile_map_of_blind isSpace_toLower]

/-- The front of a list that starts with no blank starts with none. -/
theorem dropWhile_rdropWhile {α : Type*} (p : α → Bool) (xs : List α) :
    ((xs.dropWhile p).rdropWhile p).dropWhile p = (xs.dropWhile p).rdropWhile p := by
  refine List.dropWhile_eq_self_iff.mpr fun some_left => ?_
  have front := List.rdropWhile_prefix p (xs.dropWhile p)
  have some_before : 0 < (xs.dropWhile p).length := some_left.trans_le front.length_le
  rw [front.getElem some_left]
  exact List.dropWhile_get_zero_not p xs some_before

@[simp] theorem trim_trim (s : String) : trim (trim s) = trim s := by
  simp [trim, dropWhile_rdropWhile, List.rdropWhile_idempotent]

end Ascii
