import Mathlib.Algebra.GroupWithZero.Nat
import Mathlib.Data.List.Basic
import Mathlib.Logic.Function.Basic
import Mathlib.Order.Lattice
import Mathlib.Order.Nat
import Avalant.Lib.Run

/-!
A histogram that many goroutines observe at once, `metrics/histogram.go`.

A series is looked up under a read lock and made under a write lock; after that a
call of `Observe` bumps one counter after the other and adds to the sum in a
compare-and-swap loop, and a snapshot reads the counters one by one. Samples are
of any linear order with an addition, which need not be associative; NaN is left
out, and so is a counter's wrap at 2^64.

`added` is for the statements: the samples in the order in which they reached the
sums.
-/

namespace Avalant

open Transition

namespace Metrics

/-! ## Labels -/

/-- `\x1F`. -/
def unitSeparator : Char := Char.ofNat 31

def joinLabels (values : List String) : String :=
  String.ofList ([unitSeparator].intercalate (values.map String.toList))

def splitLabels (key : String) : List String :=
  if key = "" then [] else (key.toList.splitOn unitSeparator).map String.ofList

/-- Label values without the separator. -/
def Plain (values : List String) : Prop := ∀ v ∈ values, unitSeparator ∉ v.toList

theorem splitOn_joinLabels {values : List String} (plain : Plain values) (some : values ≠ []) :
    ((joinLabels values).toList.splitOn unitSeparator).map String.ofList = values := by
  unfold joinLabels
  rw [String.toList_ofList, List.splitOn_intercalate]
  · rw [List.map_map]
    exact (List.map_congr_left fun v _ => String.ofList_toList).trans (List.map_id _)
  · intro l member
    obtain ⟨v, inside, rfl⟩ := List.mem_map.mp member
    exact plain v inside
  · exact fun none => some (List.map_eq_nil_iff.mp none)

/-- Label values come back, but for a single empty one. -/
theorem splitLabels_joinLabels {values : List String} (plain : Plain values)
    (notEmpty : values ≠ [""]) : splitLabels (joinLabels values) = values := by
  unfold splitLabels
  by_cases none : values = []
  · subst none
    rfl
  · have back := splitOn_joinLabels plain none
    rw [if_neg]
    · exact back
    · intro empty
      rw [empty] at back
      exact notEmpty back.symm

/-- Two series of a histogram have different keys. -/
theorem joinLabels_inj {values values' : List String} (plain : Plain values)
    (plain' : Plain values') (length : values.length = values'.length)
    (same : joinLabels values = joinLabels values') : values = values' := by
  by_cases none : values = []
  · subst none
    exact (List.length_eq_zero_iff.mp length.symm).symm
  · have none' : values' ≠ [] := fun empty => none (by
      rw [empty] at length
      exact List.length_eq_zero_iff.mp length)
    rw [← splitOn_joinLabels plain none, same, splitOn_joinLabels plain' none']

/-! ## A histogram -/

section

variable {α : Type}

/-- Where a call of `Observe` is. -/
inductive Phase (α : Type)
  /-- Before the read lock. -/
  | find
  /-- There was no series. Before the write lock. -/
  | create
  /-- Before it bumps this bucket. -/
  | bump (i : Nat)
  | load
  | swap (old : α)
  | done
  deriving DecidableEq

structure Call (α : Type) where
  labels : List String
  value : α
  phase : Phase α
  deriving DecidableEq

/-- `histSeries`. -/
structure Series (α : Type) where
  counts : Nat → Nat
  sum : α

/-- What a histogram is registered with. -/
structure Shape (α : Type) [LinearOrder α] where
  keys : List String
  buckets : List α
  sorted : buckets.Pairwise (· ≤ ·)

structure Histogram (α : Type) where
  vals : String → Option (Series α) := fun _ => none
  calls : List (Call α) := []
  added : List (List String × α) := []

inductive Act (α : Type)
  | observe (labelValues : List String) (v : α)
  /-- A call that has not returned goes on. -/
  | go (call : Nat)

variable [LinearOrder α]

/-- `sort.SearchFloat64s`. -/
def Shape.index (shape : Shape α) (v : α) : Nat :=
  shape.buckets.findIdx fun bound => v ≤ bound

def Call.key (c : Call α) : String := joinLabels c.labels

def Call.moved (c : Call α) (phase : Phase α) : Call α :=
  { c with phase }

omit [LinearOrder α] in
@[simp] theorem key_moved (c : Call α) (phase : Phase α) : (c.moved phase).key = c.key := rfl

/-- The call is past the lookup. -/
def Call.found (shape : Shape α) (c : Call α) : Call α :=
  c.moved (.bump (shape.index c.value))

def Series.bump (s : Series α) (i : Nat) : Series α :=
  { s with counts := Function.update s.counts i (s.counts i + 1) }

def Histogram.setSeries (h : Histogram α) (key : String) (s : Series α) : Histogram α :=
  { h with vals := Function.update h.vals key (some s) }

/-- For the statements. -/
def Histogram.tell (h : Histogram α) (c : Call α) : Histogram α :=
  { h with added := h.added ++ [(c.labels, c.value)] }

variable [Zero α] [Add α]

/-- The next step of a call. -/
def Histogram.next (shape : Shape α) (h : Histogram α) (c : Call α) :
    Option (Histogram α × Call α) :=
  match c.phase with
  | .find =>
      if (h.vals c.key).isSome then some (h, c.found shape) else some (h, c.moved .create)
  | .create =>
      if (h.vals c.key).isSome then some (h, c.found shape)
      else some (h.setSeries c.key ⟨fun _ => 0, 0⟩, c.found shape)
  | .bump i =>
      (h.vals c.key).map fun s =>
        (h.setSeries c.key (s.bump i),
          c.moved (if i < shape.buckets.length then .bump (i + 1) else .load))
  | .load => (h.vals c.key).map fun s => (h, c.moved (.swap s.sum))
  | .swap old =>
      (h.vals c.key).map fun s =>
        if s.sum = old then
          ((h.tell c).setSeries c.key { s with sum := old + c.value }, c.moved .done)
        else (h, c.moved .load)
  | .done => none

def Histogram.step (shape : Shape α) (h : Histogram α) : Act α → Option (Histogram α)
  | .observe labelValues v =>
      if labelValues.length = shape.keys.length then
        some { h with calls := h.calls ++ [⟨labelValues, v, .find⟩] }
      else some h
  | .go i =>
      (h.calls[i]?).bind fun c => (h.next shape c).map fun after =>
        { after.1 with calls := h.calls.set i after.2 }

end

/-! ## What a call does -/

section

variable {α : Type} [LinearOrder α]

/-- The next bucket that the call bumps. -/
def Call.reached (shape : Shape α) (c : Call α) : Nat :=
  match c.phase with
  | .find | .create => shape.index c.value
  | .bump i => i
  | .load | .swap _ | .done => shape.buckets.length + 1

/-- The call has bumped a bucket. -/
def Call.counted (shape : Shape α) (i : Nat) (c : Call α) : Bool :=
  shape.index c.value ≤ i ∧ i < c.reached shape

/-- The call has not found its series yet. -/
def Call.searching (c : Call α) : Prop := c.phase = .find ∨ c.phase = .create

theorem counted_of_searching {shape : Shape α} {c : Call α} {i : Nat} (searching : c.searching) :
    c.counted shape i = false := by
  have reached : c.reached shape = shape.index c.value := by
    unfold Call.reached
    rcases searching with phase | phase
    · rw [phase]
    · rw [phase]
  unfold Call.counted
  rw [reached, decide_eq_false_iff_not]
  exact fun given => absurd given.2 (Nat.not_lt.mpr given.1)

theorem index_le (shape : Shape α) (v : α) : shape.index v ≤ shape.buckets.length :=
  List.findIdx_le_length

variable [Zero α] [Add α] {shape : Shape α} {h h' : Histogram α} {c c' : Call α}

omit [LinearOrder α] [Zero α] [Add α] in
theorem vals_setSeries_self (h : Histogram α) (key : String) (s : Series α) :
    (h.setSeries key s).vals key = some s :=
  Function.update_self ..

omit [LinearOrder α] [Zero α] [Add α] in
theorem vals_setSeries_of_ne {key key' : String} (other : key ≠ key') (h : Histogram α)
    (s : Series α) : (h.setSeries key' s).vals key = h.vals key :=
  Function.update_of_ne other ..

/-- Everything that one step of a call can be. -/
inductive Next (shape : Shape α) (h : Histogram α) (c : Call α) : Histogram α → Call α → Prop
  | missed : c.phase = .find → h.vals c.key = none → Next shape h c h (c.moved .create)
  | found {s : Series α} : c.phase = .find ∨ c.phase = .create → h.vals c.key = some s →
    Next shape h c h (c.found shape)
  | made : c.phase = .create → h.vals c.key = none →
    Next shape h c (h.setSeries c.key ⟨fun _ => 0, 0⟩) (c.found shape)
  | bumped {s : Series α} {i : Nat} : c.phase = .bump i → h.vals c.key = some s →
    Next shape h c (h.setSeries c.key (s.bump i))
      (c.moved (if i < shape.buckets.length then .bump (i + 1) else .load))
  | loaded {s : Series α} : c.phase = .load → h.vals c.key = some s →
    Next shape h c h (c.moved (.swap s.sum))
  | swapped {s : Series α} : c.phase = .swap s.sum → h.vals c.key = some s →
    Next shape h c ((h.tell c).setSeries c.key { s with sum := s.sum + c.value })
      (c.moved .done)
  | lost {s : Series α} {old : α} : c.phase = .swap old → h.vals c.key = some s →
    Next shape h c h (c.moved .load)

theorem next_cases {after : Histogram α × Call α} (stepped : h.next shape c = some after) :
    Next shape h c after.1 after.2 := by
  unfold Histogram.next at stepped
  cases phase : c.phase with
  | find =>
      rw [phase] at stepped
      dsimp only at stepped
      cases series : h.vals c.key with
      | none =>
          rw [series] at stepped
          cases stepped
          exact .missed phase series
      | some s =>
          rw [series] at stepped
          cases stepped
          exact .found (.inl phase) series
  | create =>
      rw [phase] at stepped
      dsimp only at stepped
      cases series : h.vals c.key with
      | none =>
          rw [series] at stepped
          cases stepped
          exact .made phase series
      | some s =>
          rw [series] at stepped
          cases stepped
          exact .found (.inr phase) series
  | bump i =>
      rw [phase] at stepped
      obtain ⟨s, series, same⟩ := Option.map_eq_some_iff.mp stepped
      cases same
      exact .bumped phase series
  | load =>
      rw [phase] at stepped
      obtain ⟨s, series, same⟩ := Option.map_eq_some_iff.mp stepped
      cases same
      exact .loaded phase series
  | swap old =>
      rw [phase] at stepped
      obtain ⟨s, series, same⟩ := Option.map_eq_some_iff.mp stepped
      split at same
      case isTrue sum =>
        cases same
        subst sum
        exact .swapped phase series
      case isFalse =>
        cases same
        exact .lost phase series
  | done =>
      rw [phase] at stepped
      cases stepped

theorem Next.key_eq (next : Next shape h c h' c') : c'.key = c.key := by
  cases next <;> rfl

theorem Next.labels_eq (next : Next shape h c h' c') :
    c'.labels = c.labels ∧ c'.value = c.value := by
  cases next <;> exact ⟨rfl, rfl⟩

theorem Next.not_done (next : Next shape h c h' c') : c.phase ≠ .done := by
  intro done
  cases next with
  | missed phase | made phase | bumped phase | loaded phase | swapped phase | lost phase =>
      rw [done] at phase
      cases phase
  | found phase =>
      rw [done] at phase
      rcases phase with phase | phase
      · cases phase
      · cases phase

end

/-! ## What the counters count -/

section

variable {α : Type} [LinearOrder α] [Zero α] [Add α] {shape : Shape α} {h h' : Histogram α}
  {c c' : Call α} {i j : Nat}

/-- The samples of a key that have reached its sum. -/
def Histogram.addedTo (h : Histogram α) (key : String) : List α :=
  (h.added.filter fun e => joinLabels e.1 = key).map Prod.snd

/-- Each counter counts the calls that have bumped it, and each sum adds up the samples of the calls
that have returned. -/
structure Counts (shape : Shape α) (h : Histogram α) : Prop where
  count : ∀ key s, h.vals key = some s → ∀ i ≤ shape.buckets.length,
    s.counts i = h.calls.countP fun c => c.key = key ∧ c.counted shape i
  absent : ∀ key, h.vals key = none → ∀ c ∈ h.calls, c.key = key → c.searching
  range : ∀ c ∈ h.calls, ∀ i, c.phase = .bump i →
    shape.index c.value ≤ i ∧ i ≤ shape.buckets.length
  sum : ∀ key s, h.vals key = some s → s.sum = (h.addedTo key).foldl (· + ·) 0
  added : h.added.Perm ((h.calls.filter fun c => c.phase = .done).map fun c => (c.labels, c.value))

/-- Where a list is written. -/
theorem split_set {β : Type*} {xs : List β} {x : β} (here : xs[j]? = some x) :
    ∃ before after, xs = before ++ x :: after ∧ ∀ x', xs.set j x' = before ++ x' :: after := by
  obtain ⟨bound, same⟩ := List.getElem?_eq_some_iff.mp here
  refine ⟨xs.take j, xs.drop (j + 1), ?_, fun x' => List.set_eq_take_append_cons_drop.trans (if_pos bound)⟩
  rw [← same, List.getElem_cons_drop, List.take_append_drop]

theorem countP_congr_at {β : Type*} {before after : List β} {x x' : β} {p : β → Bool}
    (same : p x' = p x) :
    (before ++ x' :: after).countP p = (before ++ x :: after).countP p := by
  rw [List.countP_append, List.countP_append, List.countP_cons, List.countP_cons, same]

/-- But for a bump, a step of a call changes no count. -/
theorem Next.counted_eq (next : Next shape h c h' c')
    (other : ∀ i, c.phase ≠ .bump i) : c'.counted shape j = c.counted shape j := by
  have reached : c'.reached shape = c.reached shape := by
    unfold Call.reached
    cases next with
    | missed phase | made phase | loaded phase | swapped phase | lost phase =>
        rw [phase]
        rfl
    | found phase =>
        rcases phase with phase | phase
        · rw [phase]
          rfl
        · rw [phase]
          rfl
    | bumped phase => exact absurd phase (other _)
  unfold Call.counted
  rw [reached, next.labels_eq.2]

end

theorem countP_at {β : Type*} (before after : List β) (x : β) (p : β → Bool) :
    (before ++ x :: after).countP p =
      before.countP p + after.countP p + if p x then 1 else 0 := by
  rw [List.countP_append, List.countP_cons, Nat.add_assoc]

theorem filter_at {β : Type*} (before after : List β) {x : β} {p : β → Bool} (out : p x = false) :
    (before ++ x :: after).filter p = before.filter p ++ after.filter p := by
  rw [List.filter_append, List.filter_cons_of_neg (Bool.eq_false_iff.mp out)]

section

variable {α : Type} [LinearOrder α] [Zero α] [Add α] {shape : Shape α} {h h' : Histogram α}
  {c c' : Call α} {i j : Nat}

omit [Zero α] [Add α] in
/-- A bump counts in its bucket. -/
theorem counted_bumped (phase : c.phase = .bump i)
    (range : shape.index c.value ≤ i ∧ i ≤ shape.buckets.length) :
    c.counted shape j = decide (shape.index c.value ≤ j ∧ j < i) ∧
      (c.moved (if i < shape.buckets.length then .bump (i + 1) else .load)).counted shape j =
        decide (shape.index c.value ≤ j ∧ j < i + 1) := by
  unfold Call.counted Call.reached
  rw [phase]
  refine ⟨rfl, ?_⟩
  unfold Call.moved
  by_cases more : i < shape.buckets.length
  · rw [if_pos more]
  · have last : i = shape.buckets.length := Nat.le_antisymm range.2 (Nat.not_lt.mp more)
    rw [if_neg more, last]

/-- The counts after a step. -/
theorem Counts.count_go (counts : Counts shape h) (here : h.calls[j]? = some c)
    (next : Next shape h c h' c') {key : String} {s : Series α} (series : h'.vals key = some s)
    (bound : i ≤ shape.buckets.length) :
    s.counts i = (h.calls.set j c').countP fun c => c.key = key ∧ c.counted shape i := by
  obtain ⟨before, after, calls, set⟩ := split_set here
  have quiet : (∀ i, c.phase ≠ .bump i) →
      (h.calls.set j c').countP (fun c => decide (c.key = key ∧ c.counted shape i)) =
        h.calls.countP fun c => decide (c.key = key ∧ c.counted shape i) := by
    intro other
    rw [set, calls]
    exact countP_congr_at (by rw [next.key_eq, next.counted_eq other])
  cases next with
  | missed phase | loaded phase | lost phase =>
      rw [quiet fun i same => by rw [phase] at same; cases same]
      exact counts.count key s series i bound
  | found phase =>
      rw [quiet fun i same => by rw [same] at phase; rcases phase with phase | phase <;> cases phase]
      exact counts.count key s series i bound
  | made phase missing =>
      rw [quiet fun i same => by rw [phase] at same; cases same]
      by_cases mine : key = c.key
      · subst mine
        rw [vals_setSeries_self] at series
        cases series
        refine (List.countP_eq_zero.mpr fun c' member counted => ?_).symm
        obtain ⟨same, counted⟩ := of_decide_eq_true counted
        rw [counted_of_searching (counts.absent _ missing c' member same)] at counted
        cases counted
      · rw [vals_setSeries_of_ne mine] at series
        exact counts.count key s series i bound
  | swapped phase known =>
      rw [quiet fun i same => by rw [phase] at same; cases same]
      by_cases mine : key = c.key
      · subst mine
        rw [vals_setSeries_self] at series
        cases series
        exact counts.count _ _ known i bound
      · rw [vals_setSeries_of_ne mine] at series
        exact counts.count key s series i bound
  | @bumped s₀ i₀ phase known =>
      have range := counts.range c (List.mem_of_getElem? here) i₀ phase
      obtain ⟨old, new⟩ := counted_bumped (j := i) phase range
      by_cases mine : key = c.key
      · subst mine
        rw [vals_setSeries_self] at series
        cases series
        have kept := counts.count _ _ known i bound
        rw [calls, countP_at, old] at kept
        rw [set, countP_at, new]
        unfold Series.bump
        dsimp only
        by_cases same : i = i₀
        · subst same
          rw [Function.update_self, kept, if_neg (by simp), if_pos (by simpa using range.1)]
        · rw [Function.update_of_ne same, kept]
          have further : i < i₀ + 1 ↔ i < i₀ := by omega
          rw [key_moved]
          simp only [further]
      · rw [vals_setSeries_of_ne mine] at series
        have kept := counts.count key s series i bound
        rw [kept, set, calls]
        refine (countP_congr_at ?_).symm
        have other : c.key ≠ key := fun same => mine same.symm
        rw [key_moved]
        simp [other]

/-- A returned call stays, and the others are told by their phases. -/
theorem Counts.go (counts : Counts shape h) (here : h.calls[j]? = some c)
    (next : Next shape h c h' c') : Counts shape { h' with calls := h.calls.set j c' } := by
  obtain ⟨before, after, calls, set⟩ := split_set here
  have member : c ∈ h.calls := List.mem_of_getElem? here
  have callOf : ∀ c'' ∈ h.calls.set j c', c'' ∈ h.calls ∨ c'' = c' := fun c'' inside =>
    List.mem_or_eq_of_mem_set inside
  have notDone : decide (c.phase = .done) = false := decide_eq_false next.not_done
  refine ⟨fun key s series i bound => counts.count_go here next series bound, ?_, ?_, ?_, ?_⟩
  · intro key missing c'' inside same
    have before : h.vals key = none ∧ (c'' = c' → c'.searching) := by
      cases next with
      | missed phase => exact ⟨missing, fun _ => .inr rfl⟩
      | found phase known =>
          refine ⟨missing, fun new => ?_⟩
          rw [new] at same
          rw [← same, (show (c.found shape).key = c.key from rfl), known] at missing
          cases missing
      | loaded phase known | lost phase known =>
          refine ⟨missing, fun new => ?_⟩
          rw [new] at same
          rw [← same] at missing
          exact absurd missing (by
            change h.vals c.key ≠ none
            rw [known]
            exact Option.some_ne_none _)
      | made phase known | bumped phase known | swapped phase known =>
          by_cases mine : key = c.key
          · subst mine
            rw [vals_setSeries_self] at missing
            cases missing
          · rw [vals_setSeries_of_ne mine] at missing
            refine ⟨missing, fun new => absurd ?_ mine⟩
            rw [← same, new]
            rfl
    rcases callOf c'' inside with old | new
    · exact counts.absent key before.1 c'' old same
    · rw [new]
      exact before.2 new
  · intro c'' inside i phase
    rcases callOf c'' inside with old | rfl
    · exact counts.range c'' old i phase
    · cases next with
      | missed | loaded | swapped | lost => cases phase
      | found | made =>
          cases phase
          exact ⟨Nat.le_refl _, index_le shape c.value⟩
      | bumped phase₀ =>
          have range := counts.range c member _ phase₀
          replace phase : (if _ then _ else _) = Phase.bump i := phase
          split at phase
          case isTrue more =>
            cases phase
            exact ⟨Nat.le_succ_of_le range.1, more⟩
          case isFalse => cases phase
  · intro key s series
    cases next with
    | missed | found | loaded | lost => exact counts.sum key s series
    | made phase missing =>
        by_cases mine : key = c.key
        · subst mine
          rw [vals_setSeries_self] at series
          cases series
          have none : h.addedTo c.key = [] := by
            unfold Histogram.addedTo
            rw [List.map_eq_nil_iff, List.filter_eq_nil_iff]
            intro e inside same
            obtain ⟨c'', done, rfl⟩ := List.mem_map.mp (counts.added.subset inside)
            obtain ⟨known, returned⟩ := List.mem_filter.mp done
            rcases counts.absent _ missing c'' known (of_decide_eq_true same) with phase | phase
            · rw [phase] at returned
              cases of_decide_eq_true returned
            · rw [phase] at returned
              cases of_decide_eq_true returned
          change (0 : α) = (h.addedTo c.key).foldl (· + ·) 0
          rw [none]
          rfl
        · rw [vals_setSeries_of_ne mine] at series
          exact counts.sum key s series
    | bumped phase known =>
        by_cases mine : key = c.key
        · subst mine
          rw [vals_setSeries_self] at series
          cases series
          have kept := counts.sum _ _ known
          exact kept
        · rw [vals_setSeries_of_ne mine] at series
          exact counts.sum key s series
    | swapped phase known =>
        by_cases mine : key = c.key
        · subst mine
          rw [vals_setSeries_self] at series
          cases series
          have one : (h.tell c).addedTo c.key = h.addedTo c.key ++ [c.value] := by
            unfold Histogram.addedTo Histogram.tell
            have mine : [(c.labels, c.value)].filter (fun e => joinLabels e.1 = c.key) =
                [(c.labels, c.value)] := List.filter_cons_of_pos (decide_eq_true rfl)
            dsimp only
            rw [List.filter_append, List.map_append, mine]
            rfl
          refine Eq.trans ?_ (congrArg (List.foldl (· + ·) 0) one).symm
          rw [List.foldl_append, ← counts.sum _ _ known]
          rfl
        · rw [vals_setSeries_of_ne mine] at series
          refine (counts.sum key s series).trans (congrArg (List.foldl (· + ·) 0) ?_)
          unfold Histogram.addedTo Histogram.setSeries Histogram.tell
          dsimp only
          rw [List.filter_append, List.map_append, List.filter_cons_of_neg, List.filter_nil,
            List.map_nil, List.append_nil]
          exact fun same => mine (of_decide_eq_true same).symm
  · change h'.added.Perm (((h.calls.set j c').filter fun c => c.phase = .done).map _)
    have kept := counts.added
    rw [calls, filter_at before after notDone] at kept
    rw [set]
    cases next with
    | missed | found | made | loaded | lost =>
        rw [filter_at before after (decide_eq_false fun same => by cases same)]
        exact kept
    | bumped =>
        rw [filter_at before after]
        · exact kept
        · refine decide_eq_false fun same => ?_
          replace same : (if _ then _ else _) = Phase.done := same
          split at same
          · cases same
          · cases same
    | swapped =>
        have returned : (c.moved .done :: after).filter (fun c => decide (c.phase = .done)) =
            c.moved .done :: after.filter fun c => decide (c.phase = .done) :=
          List.filter_cons_of_pos (decide_eq_true rfl)
        rw [List.filter_append, returned, List.map_append, List.map_cons]
        rw [List.map_append] at kept
        exact (kept.append_right _).trans (List.perm_append_singleton _ _) |>.trans
          List.perm_middle.symm

/-- A new call has counted nowhere. -/
theorem Counts.observe (counts : Counts shape h) (labelValues : List String) (v : α) :
    Counts shape { h with calls := h.calls ++ [⟨labelValues, v, .find⟩] } := by
  have searching : (⟨labelValues, v, .find⟩ : Call α).searching := .inl rfl
  refine ⟨fun key s series i bound => ?_, ?_, ?_, counts.sum, ?_⟩
  · rw [List.countP_append, counts.count key s series i bound]
    refine (Nat.add_eq_left.mpr (List.countP_eq_zero.mpr fun c inside => ?_)).symm
    rw [List.mem_singleton.mp inside, counted_of_searching searching]
    exact fun same => Bool.false_ne_true (of_decide_eq_true same).2
  · intro key missing c inside same
    rcases List.mem_append.mp inside with old | new
    · exact counts.absent key missing c old same
    · rw [List.mem_singleton.mp new]
      exact searching
  · intro c inside i phase
    rcases List.mem_append.mp inside with old | new
    · exact counts.range c old i phase
    · rw [List.mem_singleton.mp new] at phase
      cases phase
  · have quiet : [(⟨labelValues, v, .find⟩ : Call α)].filter (fun c => c.phase = .done) = [] :=
      List.filter_cons_of_neg (of_decide_eq_false rfl)
    dsimp only
    rw [List.filter_append, quiet, List.append_nil]
    exact counts.added

end

/-! ## Observations -/

section

variable {α : Type} [LinearOrder α] {shape : Shape α}

/-- The labels that the callers pass do not hold the separator. -/
def Separated (_ : Histogram α) : Act α → Prop
  | .observe labelValues _ => Plain labelValues
  | .go _ => True

instance (values : List String) : Decidable (Plain values) :=
  inferInstanceAs (Decidable (∀ v ∈ values, unitSeparator ∉ v.toList))

instance (h : Histogram α) : (a : Act α) → Decidable (Separated h a)
  | .observe labelValues _ => inferInstanceAs (Decidable (Plain labelValues))
  | .go _ => inferInstanceAs (Decidable True)

/-- The sample belongs in the bucket; the last one takes all. -/
def Shape.within (shape : Shape α) (i : Nat) (v : α) : Bool :=
  match shape.buckets[i]? with
  | some bound => v ≤ bound
  | none => true

/-- The samples of the calls with these labels. -/
def Histogram.observed (h : Histogram α) (labels : List String) : List α :=
  (h.calls.filter fun c => c.labels = labels).map Call.value

/-- The samples of those that have returned. -/
def Histogram.returned (h : Histogram α) (labels : List String) : List α :=
  (h.calls.filter fun c => c.labels = labels ∧ c.phase = .done).map Call.value

theorem index_le_iff {i : Nat} (bound : i ≤ shape.buckets.length) (v : α) :
    shape.index v ≤ i ↔ shape.within i v := by
  unfold Shape.within
  rcases Nat.lt_or_eq_of_le bound with inside | rfl
  · rw [List.getElem?_eq_getElem inside]
    dsimp only
    rw [decide_eq_true_eq]
    constructor
    · intro reached
      have first : shape.index v < shape.buckets.length := Nat.lt_of_le_of_lt reached inside
      have least : v ≤ shape.buckets[shape.index v] :=
        of_decide_eq_true (List.findIdx_getElem (w := first))
      rcases Nat.lt_or_eq_of_le reached with before | same
      · exact least.trans (List.pairwise_iff_getElem.mp shape.sorted _ _ first inside before)
      · simp only [same] at least
        exact least
    · intro within
      by_contra later
      have above := List.not_of_lt_findIdx (Nat.lt_of_not_le later)
      exact of_decide_eq_false above within
  · rw [List.getElem?_eq_none (Nat.le_refl _)]
    exact ⟨fun _ => rfl, fun _ => index_le shape v⟩

/-- A sample between its call and its return. -/
theorem counted_cases {c : Call α} {i : Nat} (bound : i ≤ shape.buckets.length) :
    (c.counted shape i → shape.within i c.value) ∧
      (c.phase = .done → shape.within i c.value → c.counted shape i) := by
  unfold Call.counted
  rw [← index_le_iff bound, decide_eq_true_eq]
  refine ⟨And.left, fun done within => ⟨within, ?_⟩⟩
  unfold Call.reached
  rw [done]
  exact Nat.lt_succ_of_le bound

/-- Once all calls have returned, nothing is in flight. -/
theorem returned_eq_observed {h : Histogram α} (quiet : ∀ c ∈ h.calls, c.phase = .done)
    (labels : List String) : h.returned labels = h.observed labels := by
  unfold Histogram.returned Histogram.observed
  refine congrArg (List.map _) (List.filter_congr fun c inside => ?_)
  rw [Bool.eq_iff_iff, decide_eq_true_eq, decide_eq_true_eq]
  exact ⟨And.left, fun same => ⟨same, quiet c inside⟩⟩

variable [Zero α] [Add α] {h h' : Histogram α}

/-- The invariant of the runs. -/
structure Sound (shape : Shape α) (h : Histogram α) : Prop where
  counts : Counts shape h
  plain : ∀ c ∈ h.calls, Plain c.labels ∧ c.labels.length = shape.keys.length

theorem Sound.preserved :
    Preserves (Histogram.step shape) Separated (Sound shape) := by
  intro h a h' sound separated stepped
  cases a with
  | observe labelValues v =>
      replace stepped : (if _ then _ else _) = some h' := stepped
      split at stepped
      case isTrue length =>
        cases stepped
        refine ⟨sound.counts.observe labelValues v, fun c inside => ?_⟩
        rcases List.mem_append.mp inside with old | new
        · exact sound.plain c old
        · rw [List.mem_singleton.mp new]
          exact ⟨separated, length⟩
      case isFalse =>
        cases stepped
        exact sound
  | go j =>
      obtain ⟨c, here, moved⟩ := Option.bind_eq_some_iff.mp stepped
      obtain ⟨after, ahead, same⟩ := Option.map_eq_some_iff.mp moved
      cases same
      have next := next_cases ahead
      refine ⟨sound.counts.go here next, fun c' inside => ?_⟩
      rcases List.mem_or_eq_of_mem_set inside with old | rfl
      · exact sound.plain c' old
      · rw [next.labels_eq.1]
        exact sound.plain c (List.mem_of_getElem? here)

theorem Sound.init : Sound shape ({} : Histogram α) := by
  refine ⟨⟨?_, ?_, ?_, ?_, ?_⟩, ?_⟩
  · intro key s series
    cases series
  · intro key missing c inside
    cases inside
  · intro c inside
    cases inside
  · intro key s series
    cases series
  · exact List.Perm.refl _
  · intro c inside
    cases inside

/-- Among the calls of a histogram, a key tells the labels. -/
theorem Sound.key_iff (sound : Sound shape h) {labels : List String} (plain : Plain labels)
    (length : labels.length = shape.keys.length) {c : Call α} (inside : c ∈ h.calls) :
    c.key = joinLabels labels ↔ c.labels = labels := by
  obtain ⟨plain', length'⟩ := sound.plain c inside
  constructor
  · exact joinLabels_inj plain' plain (length'.trans length.symm)
  · intro same
    unfold Call.key
    rw [same]

/-- A counter has every sample of its bucket that has returned, and no other than those that were
called. -/
theorem Sound.count_bounds (sound : Sound shape h) {labels : List String} (plain : Plain labels)
    (length : labels.length = shape.keys.length) {s : Series α}
    (series : h.vals (joinLabels labels) = some s) {i : Nat} (bound : i ≤ shape.buckets.length) :
    (h.returned labels).countP (shape.within i) ≤ s.counts i ∧
      s.counts i ≤ (h.observed labels).countP (shape.within i) := by
  unfold Histogram.returned Histogram.observed
  rw [sound.counts.count _ s series i bound, List.countP_map, List.countP_map,
    List.countP_filter, List.countP_filter]
  constructor
  · refine List.countP_mono_left fun c inside given => ?_
    obtain ⟨within, mine⟩ := Bool.and_eq_true_iff.mp given
    obtain ⟨same, done⟩ := of_decide_eq_true mine
    exact decide_eq_true ⟨(sound.key_iff plain length inside).mpr same,
      (counted_cases bound).2 done within⟩
  · refine List.countP_mono_left fun c inside given => ?_
    obtain ⟨same, counted⟩ := of_decide_eq_true given
    exact Bool.and_eq_true_iff.mpr ⟨(counted_cases bound).1 counted,
      decide_eq_true ((sound.key_iff plain length inside).mp same)⟩

/-- The samples in a sum are those that have returned. -/
theorem Sound.addedTo_perm (sound : Sound shape h) {labels : List String} (plain : Plain labels)
    (length : labels.length = shape.keys.length) :
    (h.addedTo (joinLabels labels)).Perm (h.returned labels) := by
  unfold Histogram.addedTo Histogram.returned
  refine ((sound.counts.added.filter _).map Prod.snd).trans (List.Perm.of_eq ?_)
  rw [List.filter_map, List.map_map, List.filter_filter]
  refine congrArg (List.map _) (List.filter_congr fun c inside => ?_)
  have key := sound.key_iff plain length inside
  rw [Bool.eq_iff_iff, Bool.and_eq_true_iff, decide_eq_true_eq, decide_eq_true_eq]
  exact and_congr_left fun _ => decide_eq_true_iff.trans key

/-- A series of a sample that has returned is there. -/
theorem Sound.returned_eq_nil (sound : Sound shape h) {labels : List String}
    (missing : h.vals (joinLabels labels) = none) : h.returned labels = [] := by
  refine List.map_eq_nil_iff.mpr (List.filter_eq_nil_iff.mpr fun c inside mine => ?_)
  obtain ⟨same, done⟩ := of_decide_eq_true mine
  have key : c.key = joinLabels labels := congrArg joinLabels same
  rcases sound.counts.absent _ missing c inside key with phase | phase
  · rw [done] at phase
    cases phase
  · rw [done] at phase
    cases phase

/-- However the calls interleave, a counter is between the returned and the observed samples of its
bucket, and the sum adds up the returned ones, each once; when no call is under way every counter is
exact. -/
theorem observations_counted (run : Run (Histogram.step shape) Separated {} h)
    {labels : List String} (plain : Plain labels) (length : labels.length = shape.keys.length) :
    (∀ s, h.vals (joinLabels labels) = some s →
      (∀ i ≤ shape.buckets.length,
        (h.returned labels).countP (shape.within i) ≤ s.counts i ∧
          s.counts i ≤ (h.observed labels).countP (shape.within i)) ∧
      ∃ order : List α, order.Perm (h.returned labels) ∧ s.sum = order.foldl (· + ·) 0) ∧
    (h.vals (joinLabels labels) = none → h.returned labels = []) ∧
    ((∀ c ∈ h.calls, c.phase = .done) → ∀ s, h.vals (joinLabels labels) = some s →
      (∀ i ≤ shape.buckets.length, s.counts i = (h.observed labels).countP (shape.within i)) ∧
      ∃ order : List α, order.Perm (h.observed labels) ∧ s.sum = order.foldl (· + ·) 0) := by
  have sound := run.invariant Sound.preserved Sound.init
  refine ⟨fun s series => ⟨fun i bound => sound.count_bounds plain length series bound, _,
    sound.addedTo_perm plain length, sound.counts.sum _ s series⟩, sound.returned_eq_nil, ?_⟩
  intro quiet s series
  have same := returned_eq_observed quiet labels
  refine ⟨fun i bound => ?_, _, same ▸ sound.addedTo_perm plain length,
    sound.counts.sum _ s series⟩
  obtain ⟨low, high⟩ := sound.count_bounds plain length series bound
  rw [same] at low
  exact Nat.le_antisymm high low

def oneBucket : Shape Nat where
  keys := ["exchange"]
  buckets := [5]
  sorted := List.pairwise_singleton ..

/-- Both calls miss the series, the first makes it, and then it loses its swap to the second. -/
def twoCalls : List (Act Nat) :=
  [.observe ["bybit"] 3, .observe ["bybit"] 8, .go 0, .go 1, .go 0, .go 1, .go 0, .go 1, .go 0,
    .go 0, .go 1, .go 1, .go 0, .go 0, .go 0]

end

theorem observations_counted_two : ∃ (h : Histogram Nat) (s : Series Nat),
    execGuarded (Histogram.step oneBucket) Separated {} twoCalls = some h ∧
      h.vals (joinLabels ["bybit"]) = some s ∧ (s.counts 0, s.counts 1, s.sum) = (1, 2, 11) ∧
      s.counts 0 = (h.observed ["bybit"]).countP (oneBucket.within 0) := by
  have ran : (execGuarded (Histogram.step oneBucket) Separated {} twoCalls).map (fun h =>
      ((h.vals (joinLabels ["bybit"])).map fun s => (s.counts 0, s.counts 1, s.sum),
        h.calls.map Call.phase)) =
      some (some (1, 2, 11), [.done, .done]) := by
    decide +kernel
  have plain : Plain ["bybit"] := by decide +kernel
  obtain ⟨h, executed, view⟩ := Option.map_eq_some_iff.mp ran
  obtain ⟨counters, phases⟩ := Prod.mk.inj view
  obtain ⟨s, series, told⟩ := Option.map_eq_some_iff.mp counters
  have quiet : ∀ c ∈ h.calls, c.phase = .done := by
    intro c inside
    have known : c.phase ∈ h.calls.map Call.phase := List.mem_map_of_mem inside
    rw [phases] at known
    rcases List.mem_cons.mp known with done | later
    · exact done
    · exact List.mem_singleton.mp later
  exact ⟨h, s, executed, series, told,
    ((observations_counted (Run.of_execGuarded executed) plain rfl).2.2 quiet s series).1 0 (by decide)⟩

end Metrics

end Avalant
