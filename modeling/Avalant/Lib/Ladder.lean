import Mathlib.Data.List.Basic
import Mathlib.Order.Lattice

/-!
Ladders: price levels in a strict order, the best one first.

The order is a parameter, as bids and asks differ in nothing else. A best price from another source
is spliced in front of a ladder: it becomes the first level, or gives the first level its size, or
is worse and is left out.
-/

namespace Ladder

variable {P S : Type*} {r : P → P → Prop} {levels : List (P × S)} {price : P} {size : S}

/-- Each price is better than all after it. -/
def Ordered (r : P → P → Prop) (levels : List (P × S)) : Prop :=
  levels.Pairwise fun level level' => r level.1 level'.1

theorem Ordered.filter (ordered : Ordered r levels) (test : P × S → Bool) :
    Ordered r (levels.filter test) :=
  List.Pairwise.filter test ordered

theorem Ordered.take (ordered : Ordered r levels) (n : Nat) : Ordered r (levels.take n) :=
  List.Pairwise.sublist (List.take_sublist n levels) ordered

/-- Prices in order, with any sizes. -/
theorem Ordered.of_prices {prices : List P} (ordered : prices.Pairwise r) (sizeOf : P → S) :
    Ordered r (prices.map fun price => (price, sizeOf price)) :=
  List.pairwise_map.mpr ordered

theorem Ordered.nodup [Std.Irrefl r] (ordered : Ordered r levels) :
    (levels.map Prod.fst).Nodup := by
  refine List.pairwise_map.mpr (ordered.imp fun {level level'} better same => ?_)
  rw [same] at better
  exact Std.Irrefl.irrefl _ better

/-- A best price put in front. -/
def splice (r : P → P → Prop) [DecidableRel r] [DecidableEq P] (levels : List (P × S)) (price : P)
    (size : S) : List (P × S) :=
  match levels with
  | [] => [(price, size)]
  | best :: rest =>
      if r price best.1 then (price, size) :: best :: rest
      else if price = best.1 then (best.1, size) :: rest
      else best :: rest

section

variable [DecidableRel r] [DecidableEq P]

theorem Ordered.splice [IsTrans P r] (ordered : Ordered r levels) (price : P) (size : S) :
    Ordered r (splice r levels price size) := by
  cases levels with
  | nil => exact List.pairwise_singleton _ _
  | cons best rest =>
      rcases List.pairwise_cons.mp ordered with ⟨first, others⟩
      simp only [Ladder.splice]
      split
      case isTrue better =>
        refine List.pairwise_cons.mpr ⟨fun level member => ?_, ordered⟩
        rcases List.mem_cons.mp member with rfl | later
        · exact better
        · exact IsTrans.trans _ _ _ better (first level later)
      case isFalse =>
        split
        · exact List.pairwise_cons.mpr ⟨first, others⟩
        · exact ordered

/-- The price, or one of the ladder's. -/
theorem price_of_mem_splice {level : P × S} (member : level ∈ splice r levels price size) :
    level.1 = price ∨ ∃ level' ∈ levels, level.1 = level'.1 := by
  cases levels with
  | nil =>
      rw [List.mem_singleton.mp member]
      exact .inl rfl
  | cons best rest =>
      simp only [splice] at member
      split at member
      · rcases List.mem_cons.mp member with rfl | old
        · exact .inl rfl
        · exact .inr ⟨level, old, rfl⟩
      · split at member
        · rcases List.mem_cons.mp member with rfl | old
          · exact .inr ⟨best, List.mem_cons_self, rfl⟩
          · exact .inr ⟨level, List.mem_cons_of_mem _ old, rfl⟩
        · exact .inr ⟨level, member, rfl⟩

variable (r) in
/-- No price of a spliced ladder is lost. -/
theorem exists_of_mem {level : P × S} (member : level ∈ levels) (price : P) (size : S) :
    ∃ level' ∈ splice r levels price size, level'.1 = level.1 := by
  cases levels with
  | nil => cases member
  | cons best rest =>
      simp only [splice]
      split
      · exact ⟨level, List.mem_cons_of_mem _ member, rfl⟩
      · split
        · rcases List.mem_cons.mp member with rfl | later
          · exact ⟨_, List.mem_cons_self, rfl⟩
          · exact ⟨level, List.mem_cons_of_mem _ later, rfl⟩
        · exact ⟨level, member, rfl⟩

variable (r) in
/-- What is first is the price, or better. -/
theorem head_splice [Std.Trichotomous r] (levels : List (P × S)) (price : P) (size : S) :
    ∃ level ∈ splice r levels price size, level.1 = price ∨ r level.1 price := by
  cases levels with
  | nil => exact ⟨_, List.mem_cons_self, .inl rfl⟩
  | cons best rest =>
      simp only [splice]
      split
      · exact ⟨_, List.mem_cons_self, .inl rfl⟩
      case isFalse notBetter =>
        split
        case isTrue same => exact ⟨_, List.mem_cons_self, .inl same.symm⟩
        case isFalse other =>
          refine ⟨best, List.mem_cons_self, .inr ?_⟩
          by_contra notWorse
          exact other (Std.Trichotomous.trichotomous _ _ notBetter notWorse)

end

/-! ## Two sides -/

/-- Each level of one side is below each of the other. -/
def Apart [LT P] (bids asks : List (P × S)) : Prop :=
  ∀ bid ∈ bids, ∀ ask ∈ asks, bid.1 < ask.1

section

variable [LinearOrder P] {bids asks : List (P × S)}

/-- Of two ladders, the first levels decide. -/
theorem apart_iff (descending : Ordered (· > ·) bids) (ascending : Ordered (· < ·) asks) :
    Apart bids asks ↔ ∀ bid ∈ bids.head?, ∀ ask ∈ asks.head?, bid.1 < ask.1 := by
  constructor
  · intro apart bid first ask first'
    exact apart bid (List.mem_of_mem_head? first) ask (List.mem_of_mem_head? first')
  · intro best bid member ask member'
    cases bids with
    | nil => cases member
    | cons best₁ rest₁ =>
        cases asks with
        | nil => cases member'
        | cons best₂ rest₂ =>
            have below : best₁.1 < best₂.1 := best best₁ rfl best₂ rfl
            have bidLow : bid.1 ≤ best₁.1 := by
              rcases List.mem_cons.mp member with rfl | later
              · exact le_rfl
              · exact le_of_lt ((List.pairwise_cons.mp descending).1 bid later)
            have askHigh : best₂.1 ≤ ask.1 := by
              rcases List.mem_cons.mp member' with rfl | later
              · exact le_rfl
              · exact le_of_lt ((List.pairwise_cons.mp ascending).1 ask later)
            exact lt_of_le_of_lt bidLow (lt_of_lt_of_le below askHigh)

/-- A bid spliced in has to be below the asks. -/
theorem apart_splice_bid (bids asks : List (P × S)) (price : P) (size : S) :
    Apart (splice (· > ·) bids price size) asks ↔
      Apart bids asks ∧ ∀ ask ∈ asks, price < ask.1 := by
  constructor
  · intro apart
    refine ⟨fun bid member ask member' => ?_, fun ask member' => ?_⟩
    · rcases exists_of_mem (· > ·) member price size with ⟨level, kept, same⟩
      rw [← same]
      exact apart level kept ask member'
    · rcases head_splice (· > ·) bids price size with ⟨level, kept, same | better⟩
      · rw [← same]
        exact apart level kept ask member'
      · exact lt_trans better (apart level kept ask member')
  · rintro ⟨apart, below⟩ bid member ask member'
    rcases price_of_mem_splice member with same | ⟨level, old, same⟩
    · rw [same]
      exact below ask member'
    · rw [same]
      exact apart level old ask member'

/-- An ask spliced in has to be above the bids. -/
theorem apart_splice_ask (bids asks : List (P × S)) (price : P) (size : S) :
    Apart bids (splice (· < ·) asks price size) ↔
      Apart bids asks ∧ ∀ bid ∈ bids, bid.1 < price := by
  constructor
  · intro apart
    refine ⟨fun bid member ask member' => ?_, fun bid member => ?_⟩
    · rcases exists_of_mem (· < ·) member' price size with ⟨level, kept, same⟩
      rw [← same]
      exact apart bid member level kept
    · rcases head_splice (· < ·) asks price size with ⟨level, kept, same | better⟩
      · rw [← same]
        exact apart bid member level kept
      · exact lt_trans (apart bid member level kept) better
  · rintro ⟨apart, above⟩ bid member ask member'
    rcases price_of_mem_splice member' with same | ⟨level, old, same⟩
    · rw [same]
      exact above bid member
    · rw [same]
      exact apart bid member level old

end

end Ladder
