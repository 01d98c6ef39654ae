import Avalant.Alerts.Check
import Mathlib.Algebra.Order.Group.Unbundled.Abs
import Mathlib.Data.List.MinMax

/-!
What an alert asks for, against the one opportunity that its check looks at.

A check looks at the first opportunity of the two venues, or, when a venue is open, at the widest
of the symbol, and compares that one with the threshold.
-/

namespace Avalant

namespace Alerts

/-! ## Any pair -/

namespace AlertConfig

/-- The list that an alert is checked against. -/
def listed (config : AlertConfig) (opps : Opportunities) : List Opportunity :=
  opps (config.mode.getD .futures)

def longVenue (config : AlertConfig) (opp : Opportunity) : String :=
  (opp.text (longFieldForMode (config.mode.getD .futures))).getD ""

def shortVenue (config : AlertConfig) (opp : Opportunity) : String :=
  (opp.text (shortFieldForMode (config.mode.getD .futures))).getD ""

/-- A venue of an opportunity is one that the alert names, or leaves open. -/
def venueAgrees (name venue : String) : Bool :=
  isAnyName name || Python.lower venue = Python.lower name

/-- The opportunity has the symbol, and every venue that the alert names. -/
def agrees (config : AlertConfig) (opp : Opportunity) : Bool :=
  opp.text "symbol" = some config.symbol && venueAgrees config.longExchange (config.longVenue opp) &&
    venueAgrees config.shortExchange (config.shortVenue opp)

/-- Some opportunity that the alert is about meets the direction and the threshold. -/
def Wanted (config : AlertConfig) (opps : Opportunities) : Prop :=
  ∃ opp ∈ config.listed opps, config.agrees opp = true ∧ config.meets (oppSpread opp) = true

instance (config : AlertConfig) (opps : Opportunities) : Decidable (config.Wanted opps) :=
  inferInstanceAs (Decidable (∃ opp ∈ config.listed opps,
    config.agrees opp = true ∧ config.meets (oppSpread opp) = true))

/-- The alert triggers if and only if there is such an opportunity. -/
def FiresExactly (config : AlertConfig) (opps : Opportunities) : Prop :=
  config.satisfied opps = true ↔ config.Wanted opps

instance (config : AlertConfig) (opps : Opportunities) : Decidable (config.FiresExactly opps) :=
  inferInstanceAs (Decidable (config.satisfied opps = true ↔ config.Wanted opps))

/-- The opportunity of the symbol with the largest absolute spread, the first of several. -/
def widest (config : AlertConfig) (opps : Opportunities) : Option Opportunity :=
  ((config.listed opps).filter fun opp => opp.text "symbol" = some config.symbol).argmax fun opp =>
    |oppSpread opp|

/-- The first opportunity of the named venues. -/
def first (config : AlertConfig) (opps : Opportunities) : Option Opportunity :=
  (config.listed opps).find? config.agrees

/-- A venue is open. -/
def isOpen (config : AlertConfig) : Bool :=
  isAnyName config.longExchange || isAnyName config.shortExchange

/-- Both are. -/
def isAnyPair (config : AlertConfig) : Bool :=
  isAnyName config.longExchange && isAnyName config.shortExchange

/-- The one that is looked at meets the threshold when one does that the alert is about; and when
one venue is named, the widest of the symbol does so only then. -/
structure SeesWanted (config : AlertConfig) (opps : Opportunities) : Prop where
  named : config.isOpen = false → config.Wanted opps →
    (config.first opps).any (fun opp => config.meets (oppSpread opp)) = true
  open_ : config.isOpen = true → config.Wanted opps →
    (config.widest opps).any (fun opp => config.meets (oppSpread opp)) = true
  half : config.isOpen = true → config.isAnyPair = false →
    (config.widest opps).any (fun opp => config.meets (oppSpread opp)) = true → config.Wanted opps

end AlertConfig

/-! ## The two searches -/

theorem bestPairFromOpps_eq (opps : List Opportunity) (symbol longField shortField : String) :
    bestPairFromOpps opps symbol longField shortField =
      ((opps.filter fun opp => opp.text "symbol" = some symbol).argmax fun opp =>
        |oppSpread opp|).map fun opp =>
          ((opp.text longField).getD "", (opp.text shortField).getD "", oppSpread opp) := by
  unfold bestPairFromOpps
  induction opps using List.reverseRecOn with
  | nil => rfl
  | append_singleton opps opp ih =>
      rw [List.foldl_append, ih, List.filter_append]
      by_cases own : opp.text "symbol" = some symbol
      · simp only [List.foldl_cons, List.foldl_nil, own, ne_eq, not_true_eq_false, if_false,
          List.filter_cons, List.filter_nil, decide_true, if_true, List.argmax_concat]
        cases ((opps.filter fun opp => opp.text "symbol" = some symbol).argmax fun opp =>
            |oppSpread opp|) with
        | none => rfl
        | some best =>
            dsimp only [Option.map_some, Option.casesOn]
            split <;> rfl
      · simp [own]

namespace AlertConfig

variable {config : AlertConfig} {opps : Opportunities} {opp : Opportunity}

/-- The one opportunity that a check looks at. -/
def looksAt (config : AlertConfig) (opps : Opportunities) : Option Opportunity :=
  if config.isOpen then config.widest opps else config.first opps

theorem agrees_of_named (named : config.isOpen = false) :
    config.agrees = fun opp => decide (opp.text "symbol" = some config.symbol ∧
      Python.lower (config.longVenue opp) = Python.lower config.longExchange ∧
        Python.lower (config.shortVenue opp) = Python.lower config.shortExchange) := by
  obtain ⟨long, short⟩ := Bool.or_eq_false_iff.mp named
  funext opp
  simp [agrees, venueAgrees, long, short, Bool.and_assoc]

theorem satisfied_eq (config : AlertConfig) (opps : Opportunities) :
    config.satisfied opps =
      (config.looksAt opps).any fun opp => config.meets (oppSpread opp) := by
  unfold satisfied spread looksAt
  cases open_ : config.isOpen with
  | true =>
      have some_ : (isAnyName config.longExchange || isAnyName config.shortExchange) = true := open_
      simp only [some_, if_true]
      rw [bestPairFromOpps_eq, Option.map_map, Option.any_map]
      rfl
  | false =>
      have none_ : (isAnyName config.longExchange || isAnyName config.shortExchange) = false := open_
      simp only [none_]
      unfold getSpreadFromOpps first
      rw [agrees_of_named open_]
      simp only [Bool.false_eq_true, if_false, Option.any_map]
      rfl

theorem wanted_of_looksAt (looked : config.looksAt opps = some opp) (agreed : config.agrees opp = true)
    (met : config.meets (oppSpread opp) = true) : config.Wanted opps := by
  refine ⟨opp, ?_, agreed, met⟩
  unfold looksAt at looked
  split at looked
  · exact (List.mem_filter.mp (List.argmax_mem looked)).1
  · exact List.mem_of_find?_eq_some looked

theorem agrees_of_anyPair (any : config.isAnyPair = true) (own : opp.text "symbol" = some config.symbol) :
    config.agrees opp = true := by
  obtain ⟨long, short⟩ := Bool.and_eq_true_iff.mp any
  simp [agrees, venueAgrees, own, long, short]

/-- What the check looks at agrees with the alert, unless one venue is named and one is open. -/
theorem agrees_of_looksAt (looked : config.looksAt opps = some opp)
    (whole : config.isOpen = true → config.isAnyPair = true) : config.agrees opp = true := by
  unfold looksAt at looked
  split at looked
  case isTrue open_ =>
    have own := (List.mem_filter.mp (List.argmax_mem looked)).2
    exact agrees_of_anyPair (whole open_) (by simpa using own)
  case isFalse =>
    exact List.find?_some looked

/-- An alert triggers exactly when it should, if and only if the one opportunity that its check
looks at shows what the others do. -/
theorem firesExactly_iff (config : AlertConfig) (opps : Opportunities) :
    config.FiresExactly opps ↔ config.SeesWanted opps := by
  unfold FiresExactly
  rw [satisfied_eq]
  constructor
  · intro exact_
    refine ⟨fun named wanted => ?_, fun open_ wanted => ?_, fun open_ _ fires => ?_⟩
    · have fires := exact_.mpr wanted
      rwa [looksAt, named] at fires
    · have fires := exact_.mpr wanted
      rwa [looksAt, open_] at fires
    · refine exact_.mp ?_
      rwa [looksAt, open_]
  · intro sees
    refine ⟨fun fires => ?_, fun wanted => ?_⟩
    · obtain ⟨opp, looked, met⟩ := (Option.any_eq_true _ _).mp fires
      by_cases whole : config.isOpen = true → config.isAnyPair = true
      · exact wanted_of_looksAt looked (agrees_of_looksAt looked whole) met
      · obtain ⟨open_, half⟩ := Classical.not_imp.mp whole
        refine sees.half open_ (by simpa using half) ?_
        rwa [looksAt, open_] at fires
    · cases open_ : config.isOpen with
      | true =>
          rw [looksAt, open_]
          exact sees.open_ open_ wanted
      | false =>
          rw [looksAt, open_]
          exact sees.named open_ wanted

end AlertConfig

/-! ## Alerts that go wrong -/

def futuresRow (symbol long short : String) (inPct : ℚ) : Opportunity where
  text
    | "symbol" => some symbol
    | "long_exchange" => some long
    | "short_exchange" => some short
    | _ => none
  number
    | "in_pct" => some inPct
    | _ => none

/-- One venue is named, and another pair is wide; the widest is narrow in the direction; the first
of two rows of a pair is the narrow one. -/
theorem firesExactly_broken :
    ¬AlertConfig.FiresExactly ⟨"BTC", "binance", "*", 2, .any, some .futures, some .speed⟩
        (fun _ => [futuresRow "BTC" "okx" "bybit" 5]) ∧
      ¬AlertConfig.FiresExactly ⟨"BTC", "*", "*", 2, .above, some .futures, some .speed⟩
        (fun _ => [futuresRow "BTC" "okx" "bybit" (-5), futuresRow "BTC" "binance" "bybit" 3]) ∧
      ¬AlertConfig.FiresExactly ⟨"BTC", "okx", "bybit", 2, .any, some .futures, some .speed⟩
        (fun _ => [futuresRow "BTC" "okx" "bybit" 1, futuresRow "BTC" "okx" "bybit" 3]) := by
  decide +kernel

end Alerts

end Avalant
