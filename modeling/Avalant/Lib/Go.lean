import Mathlib.Algebra.Group.Int.Defs
import Mathlib.Algebra.Group.Nat.Defs
import Mathlib.Data.Int.Notation
import Mathlib.Data.List.Infix

/-!
What the Go standard library computes on strings: prefixes, suffixes and parts,
`strconv.Atoi` and the unpadded base64 of URLs. Calls that may fail are `Except`.
-/

namespace Go

/-! ## `strings`, `strconv` -/

/-- `strings.Split(s, sep)`, for a separator of one character. -/
def split (s : String) (sep : Char) : List String :=
  (s.toList.splitOn sep).map String.ofList

/-- Three parts without the separator are what their joint text splits into. -/
theorem split_three {a b c sepText : String} {sep : Char} (single : sepText.toList = [sep])
    (first : sep ∉ a.toList) (second : sep ∉ b.toList) (third : sep ∉ c.toList) :
    split (a ++ sepText ++ b ++ sepText ++ c) sep = [a, b, c] := by
  have text : (a ++ sepText ++ b ++ sepText ++ c).toList =
      a.toList ++ sep :: (b.toList ++ sep :: c.toList) := by
    simp [String.toList_append, single]
  unfold split
  rw [text, List.splitOn_append_cons_self_of_not_mem first,
    List.splitOn_append_cons_self_of_not_mem second, List.splitOn_eq_singleton third]
  simp

/-- Two lists are the same before and after the first place of a separator. -/
theorem separator_inj {α : Type*} {sep : α} {x x' z z' : List α} (free : sep ∉ x)
    (free' : sep ∉ x') (same : x ++ sep :: z = x' ++ sep :: z') : x = x' ∧ z = z' := by
  induction x generalizing x' with
  | nil =>
      cases x' with
      | nil => exact ⟨rfl, (List.cons.inj same).2⟩
      | cons b rest => exact absurd ((List.cons.inj same).1 ▸ List.mem_cons_self) free'
  | cons b rest ih =>
      cases x' with
      | nil => exact absurd ((List.cons.inj same).1 ▸ List.mem_cons_self) free
      | cons b' rest' =>
          rcases List.cons.inj same with ⟨rfl, tails⟩
          rcases ih (fun member => free (List.mem_cons_of_mem _ member))
            (fun member => free' (List.mem_cons_of_mem _ member)) tails with ⟨rfl, rest_same⟩
          exact ⟨rfl, rest_same⟩

/-- `strings.HasPrefix`. -/
def hasPrefix (s start : String) : Bool :=
  start.toList.isPrefixOf s.toList

/-- `strings.HasSuffix`. -/
def hasSuffix (s ending : String) : Bool :=
  ending.toList.isSuffixOf s.toList

/-- `strings.TrimPrefix`. -/
def trimPrefix (s start : String) : String :=
  if hasPrefix s start then String.ofList (s.toList.drop start.length) else s

/-- `strings.TrimSuffix`. -/
def trimSuffix (s ending : String) : String :=
  if hasSuffix s ending then String.ofList (s.toList.take (s.length - ending.length)) else s

theorem hasPrefix_append (start s : String) : hasPrefix (start ++ s) start = true := by
  unfold hasPrefix
  rw [String.toList_append, List.isPrefixOf_iff_prefix]
  exact List.prefix_append ..

theorem hasSuffix_append (s ending : String) : hasSuffix (s ++ ending) ending = true := by
  unfold hasSuffix
  rw [String.toList_append, List.isSuffixOf_iff_suffix]
  exact List.suffix_append ..

theorem trimPrefix_append (start s : String) : trimPrefix (start ++ s) start = s := by
  unfold trimPrefix
  rw [if_pos (hasPrefix_append start s), String.toList_append, ← String.length_toList,
    List.drop_left, String.ofList_toList]

theorem trimSuffix_append (s ending : String) : trimSuffix (s ++ ending) ending = s := by
  have ends : hasSuffix (s ++ ending) ending = true := by
    unfold hasSuffix
    rw [String.toList_append, List.isSuffixOf_iff_suffix]
    exact List.suffix_append _ _
  unfold trimSuffix
  rw [if_pos ends, String.toList_append, String.length_append, Nat.add_sub_cancel,
    ← String.length_toList, List.take_left, String.ofList_toList]

/-- `strings.Contains`. -/
def contains (s text : String) : Bool :=
  s.toList.tails.any fun rest => text.toList.isPrefixOf rest

/-- The range of `int64`, and of `int`. -/
def int64 (n : Int) : Option Int :=
  if -2 ^ 63 ≤ n ∧ n < 2 ^ 63 then some n else none

theorem int64_eq_some {n m : Int} (read : int64 n = some m) : m = n := by
  unfold int64 at read
  split at read
  · cases read
    rfl
  · cases read

/-- An optional sign, and the digits after it. -/
def signed : List Char → Bool × List Char
  | '-' :: digits => (true, digits)
  | '+' :: digits => (false, digits)
  | digits => (false, digits)

/-- `strconv.Atoi`, `none` where it fails. -/
def atoi (s : String) : Option Int :=
  let (negative, digits) := signed s.toList
  if digits = [] ∨ digits.any (fun c => !c.isDigit) then none
  else
    let n : Int := Nat.ofDigitChars 10 digits 0
    int64 (if negative then -n else n)

/-- The value of `strconv.ParseInt` whose error is dropped: 0 for what is no number, and the bound
for a number that is out of range. -/
def parseInt (s : String) : Int :=
  let (negative, digits) := signed s.toList
  if digits = [] ∨ digits.any (fun c => !c.isDigit) then 0
  else
    let n : Int := Nat.ofDigitChars 10 digits 0
    max (-2 ^ 63) (min (2 ^ 63 - 1) (if negative then -n else n))

/-- A digit is not a sign. -/
theorem signed_of_digits {digits : List Char} (all : ∀ c ∈ digits, c.isDigit = true) :
    signed digits = (false, digits) := by
  unfold signed
  split
  · have minus := all '-' List.mem_cons_self
    cases minus
  · have plus := all '+' List.mem_cons_self
    cases plus
  · rfl

/-- A number reads back from its decimal digits. -/
theorem atoi_toString {n : Nat} (small : n < 2 ^ 63) : atoi (toString n) = some (n : Int) := by
  have digits : ∀ c ∈ Nat.toDigits 10 n, c.isDigit = true := fun c member =>
    Nat.isDigit_of_mem_toDigits (by decide) (by decide) member
  have text : (toString n).toList = Nat.toDigits 10 n := Nat.toList_repr
  have legal : ¬(Nat.toDigits 10 n = [] ∨ (Nat.toDigits 10 n).any (fun c => !c.isDigit) = true) := by
    intro either
    rcases either with empty | other
    · exact Nat.toDigits_ne_nil empty
    · obtain ⟨c, member, failed⟩ := List.any_eq_true.mp other
      rw [digits c member] at failed
      cases failed
  unfold atoi
  rw [text, signed_of_digits digits]
  dsimp only
  rw [if_neg legal, Nat.ofDigitChars_ten_toDigits]
  unfold int64
  rw [if_neg Bool.false_ne_true, if_pos ⟨by omega, by omega⟩]

/-! ## Errors -/

/-- Where errors are returned as they come, a result means that every call before it succeeded. -/
theorem bind_eq_ok {ε α β : Type} {x : Except ε α} {f : α → Except ε β} {b : β}
    (done : (x >>= f) = .ok b) : ∃ a, x = .ok a ∧ f a = .ok b := by
  cases x with
  | error e => cases done
  | ok a => exact ⟨a, rfl, done⟩

theorem map_eq_ok {ε α β : Type} {x : Except ε α} {f : α → β} {b : β} (done : x.map f = .ok b) :
    ∃ a, x = .ok a ∧ f a = b := by
  cases x with
  | error e => cases done
  | ok a =>
      cases done
      exact ⟨a, rfl, rfl⟩

/-! ## `base64.RawURLEncoding` -/

namespace RawURLEncoding

/-- The six bits of a character. -/
def sextet (c : Char) : Option Nat :=
  if 'A' ≤ c ∧ c ≤ 'Z' then some (c.toNat - 'A'.toNat)
  else if 'a' ≤ c ∧ c ≤ 'z' then some (c.toNat - 'a'.toNat + 26)
  else if '0' ≤ c ∧ c ≤ '9' then some (c.toNat - '0'.toNat + 52)
  else if c = '-' then some 62
  else if c = '_' then some 63
  else none

/-- Four characters to three bytes. The last group may be short, and its spare bits are dropped. -/
def quanta : List Nat → Option (List UInt8)
  | [] => some []
  | [_] => none
  | [a, b] => some [.ofNat (a * 4 + b / 16)]
  | [a, b, c] => some [.ofNat (a * 4 + b / 16), .ofNat (b % 16 * 16 + c / 4)]
  | a :: b :: c :: d :: rest =>
      (quanta rest).map fun bytes =>
        .ofNat (a * 4 + b / 16) :: .ofNat (b % 16 * 16 + c / 4) :: .ofNat (c % 4 * 64 + d) :: bytes

/-- `DecodeString`: line breaks are skipped wherever they stand. -/
def decodeString (s : String) : Option (List UInt8) :=
  ((s.toList.filter fun c => c != '\n' && c != '\r').mapM sextet).bind quanta

theorem isSome_of_mapM {α β : Type} {f : α → Option β} {as : List α} {bs : List β}
    (read : as.mapM f = some bs) : ∀ a ∈ as, (f a).isSome = true := by
  induction as generalizing bs with
  | nil =>
      intro a member
      cases member
  | cons a' as ih =>
      rw [List.mapM_cons] at read
      obtain ⟨b, first, rest⟩ := Option.bind_eq_some_iff.mp read
      obtain ⟨bs', others, -⟩ := Option.bind_eq_some_iff.mp rest
      intro a member
      rcases List.mem_cons.mp member with rfl | later
      · rw [first]
        rfl
      · exact ih others a later

/-- What decodes is in the alphabet, up to line breaks. -/
theorem sextet_of_decodeString {s : String} {bytes : List UInt8} {c : Char}
    (decoded : decodeString s = some bytes) (member : c ∈ s.toList) (lf : c ≠ '\n') (cr : c ≠ '\r') :
    (sextet c).isSome = true := by
  obtain ⟨sextets, read, -⟩ := Option.bind_eq_some_iff.mp decoded
  have kept : c ∈ s.toList.filter fun c => c != '\n' && c != '\r' :=
    List.mem_filter.mpr ⟨member, by simp [lf, cr]⟩
  exact isSome_of_mapM read c kept

theorem dot_not_mem_of_decodeString {s : String} {bytes : List UInt8}
    (decoded : decodeString s = some bytes) : '.' ∉ s.toList := by
  intro member
  have letter := sextet_of_decodeString decoded member (by decide) (by decide)
  cases letter

end RawURLEncoding

end Go
