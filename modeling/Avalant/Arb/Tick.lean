import Avalant.Arb.NetProfit
import Avalant.Lib.Rounding
import Mathlib.Tactic.Positivity

/-!
The tick of the futures table, and the rows of the dex tables, over the shared books.

In and out values come from the tops of two books, or from the last good values of the pair. A row
of the futures table takes its in value and its net profit from one computation and its out value
from a second one, and other goroutines change the books and the last good values in between. Of
a computation the two books are read one after the other.
-/

namespace Avalant

namespace Arb

open InOut (InOutPct Legs Top bestOf dexStickyKey dexValue inOutStickyTTL pairValue round4)
open Transition

def round6 (x : ℚ) : ℚ := Python.roundHalfUp (x * 1000000) / 1000000

/-! ## The shared market -/

/-- What the last good values are of, for the statements. -/
inductive Origin
  | pair (legs : Legs)
  | dex (shortEx symbol : String) (price : ℚ)
  deriving DecidableEq

/-- Last good values. When the long book was read and what the values are of is for the
statements. -/
structure Entry extends InOut.Sticky where
  readAt : Nat
  origin : Origin
  deriving DecidableEq

/-- The long book as a computation has read it, and when, for the statements. -/
structure LongRead where
  top : Option Top
  time : Nat

structure Market where
  books : Cache.Store
  sticky : AList fun _ : String => Entry
  now : Nat
  /-- The books of every moment so far, for the statements. -/
  past : List (Nat × Cache.Store)

inductive MarketAct
  | book (pair : Pair) (depth : Depth) (source : String)
  | touch (pair : Pair)
  | prune (idle : Nat)
  | evictStale (staleAfter : Nat)
  | pass (elapsed : Nat)
  /-- Another goroutine computes the values of a pair. It has read the long book before. -/
  | compute (legs : Legs) (long : LongRead)
  | computeDex (shortEx symbol : String) (dexPrice : ℚ)

/-- What a computation has seen: good tops of both books, or the last good values, if they are
there still. -/
inductive Seen
  | tops (long short : Top)
  | cached (entry : Option Entry)
  deriving DecidableEq

def Seen.value : Seen → Option InOutPct
  | .tops long short => some (pairValue long short)
  | .cached entry => entry.map fun e => e.value

/-- The last good values that are used. -/
def Seen.used : Seen → Option Entry
  | .tops _ _ => none
  | .cached entry => entry

/-- When the long book behind the values was read. -/
def Seen.readAt (long : LongRead) : Seen → Option Nat
  | .tops _ _ => some long.time
  | .cached entry => entry.map Entry.readAt

namespace Market

def initial : Market := ⟨.empty, ∅, 0, [(0, .empty)]⟩

/-- `inOutCache.get`. -/
def lastGood (m : Market) (key : String) : Option Entry :=
  (m.sticky.lookup key).filter fun e => m.now - e.time ≤ inOutStickyTTL

/-- `inOutCache.put`. -/
def put (m : Market) (key : String) (value : InOutPct) (readAt : Nat) (origin : Origin) : Market :=
  { m with sticky := m.sticky.insert key ⟨⟨value, m.now⟩, readAt, origin⟩ }

/-- `ComputeInOutPair` after it has read the long book. -/
def see (m : Market) (legs : Legs) (long : LongRead) : Seen :=
  match long.top, bestOf m.books ⟨legs.shortEx, legs.symbol⟩ with
  | some long, some short => .tops long short
  | _, _ => .cached (m.lastGood legs.stickyKey)

/-- Good values are kept. -/
def keep (m : Market) (legs : Legs) (long : LongRead) : Seen → Market
  | .tops top short => m.put legs.stickyKey (pairValue top short) long.time (.pair legs)
  | .cached _ => m

/-- `ComputeInOutDex`. -/
def computeInOutDex (m : Market) (shortEx symbol : String) (dexPrice : ℚ) :
    Option InOutPct × Market :=
  if dexPrice ≤ 0 then (none, m)
  else
    match InOut.quoteDex m.books shortEx symbol dexPrice with
    | some value =>
        (some value,
          m.put (dexStickyKey shortEx symbol) value m.now (.dex shortEx symbol dexPrice))
    | none => ((m.lastGood (dexStickyKey shortEx symbol)).map fun e => e.value, m)

def setBooks (m : Market) (books : Cache.Store) : Market :=
  { m with books, past := m.past ++ [(m.now, books)] }

def step (m : Market) : MarketAct → Option Market
  | .book pair depth source => some (m.setBooks (m.books.store pair depth source m.now))
  | .touch pair => some (m.setBooks (m.books.touch pair m.now))
  | .prune idle => some (m.setBooks (m.books.prune idle m.now))
  | .evictStale staleAfter => some (m.setBooks (m.books.evictStale staleAfter m.now))
  | .pass elapsed =>
      some { m with now := m.now + elapsed, past := m.past ++ [(m.now + elapsed, m.books)] }
  | .compute legs long =>
      if ∃ moment ∈ m.past,
          moment.1 = long.time ∧ bestOf moment.2 ⟨legs.longEx, legs.symbol⟩ = long.top then
        some (m.keep legs long (m.see legs long))
      else none
  | .computeDex shortEx symbol dexPrice => some (m.computeInOutDex shortEx symbol dexPrice).2

end Market

/-! ## The rows -/

/-- A row of the futures table that is being computed. -/
structure Row where
  symbol : String
  long : Leg
  short : Leg

def Row.legs (row : Row) : Legs := ⟨row.long.ex, row.short.ex, row.symbol⟩

/-- Where the tick is. -/
inductive Stage
  | idle
  /-- The first computation has read the long book. -/
  | first (row : Row) (long : LongRead)
  | between (row : Row) (seen : Seen)
  /-- The second one has. -/
  | second (row : Row) (seen : Seen) (long : LongRead)

/-- The row of a computation that has read the long book. -/
def Stage.reading : Stage → Option (Row × LongRead)
  | .first row long | .second row _ long => some (row, long)
  | .idle | .between _ _ => none

/-- A row of the futures table. -/
structure Opp where
  row : Row
  inPct : Option ℚ
  outPct : Option ℚ
  netProfit : ℚ
  /-- For the statements. -/
  time : Nat

/-- In and out of a row of a dex table. -/
structure DexOpp where
  shortEx : String
  symbol : String
  price : ℚ
  inPct : Option ℚ
  outPct : Option ℚ
  time : Nat

structure Tables where
  market : Market
  stage : Stage
  opps : List Opp
  dexOpps : List DexOpp

inductive Act
  | market (act : MarketAct)
  /-- A pair of legs, and the long book of the first computation. -/
  | start (row : Row)
  | computeFirst
  /-- The row is filtered out, or is not old enough. -/
  | skip
  | readAgain
  | publish
  /-- A dex table computes a row. -/
  | dex (shortEx symbol : String) (price : ℚ)

/-- Marks that are too far apart belong to different tokens. -/
def sameToken (long short : Leg) : Prop :=
  0 < long.mark ∧ 0 < short.mark ∧ max long.mark short.mark / min long.mark short.mark ≤ 3

instance (long short : Leg) : Decidable (sameToken long short) :=
  inferInstanceAs (Decidable (_ ∧ _))

def highSpreadThreshold : ℚ := 2

def spreads (row : Row) : ℚ := (row.short.mark - row.long.mark) / row.long.mark

namespace Tables

def initial : Tables := ⟨.initial, .idle, [], []⟩

def longBook (s : Tables) (row : Row) : LongRead :=
  ⟨bestOf s.market.books ⟨row.long.ex, row.symbol⟩, s.market.now⟩

def step (s : Tables) : Act → Option Tables
  | .market act => (s.market.step act).map fun market => { s with market }
  | .start row =>
      match s.stage with
      | .idle =>
          if sameToken row.long row.short then
            some { s with stage := .first row (s.longBook row) }
          else none
      | _ => none
  | .computeFirst =>
      match s.stage with
      | .first row long =>
          let seen := s.market.see row.legs long
          some { s with market := s.market.keep row.legs long seen, stage := .between row seen }
      | _ => none
  | .skip =>
      match s.stage with
      | .between _ _ => some { s with stage := .idle }
      | _ => none
  | .readAgain =>
      match s.stage with
      | .between row seen =>
          if |spreads row| ≤ highSpreadThreshold then
            some { s with stage := .second row seen (s.longBook row) }
          else none
      | _ => none
  | .publish =>
      match s.stage with
      | .second row seen long =>
          let again := s.market.see row.legs long
          let inPct := seen.value.map InOutPct.inPct
          let opp : Opp :=
            { row, inPct
              outPct := again.value.map InOutPct.outPct
              netProfit := round6 (futuresNet row.long row.short inPct * 100)
              time := s.market.now }
          some
            { s with
              market := s.market.keep row.legs long again
              stage := .idle
              opps := s.opps ++ [opp] }
      | _ => none
  | .dex shortEx symbol price =>
      let (value, market) := s.market.computeInOutDex shortEx symbol price
      let opp : DexOpp :=
        { shortEx, symbol, price
          inPct := value.map InOutPct.inPct
          outPct := value.map InOutPct.outPct
          time := s.market.now }
      some { s with market, dexOpps := s.dexOpps ++ [opp] }

end Tables

/-! ## Rows whose values belong together -/

/-- The value is that of a top of the long book and a top of the short book, neither of them longer
ago than values stick. The long book was read first. -/
def FromTops (past : List (Nat × Cache.Store)) (legs : Legs) (value : InOutPct) (time : Nat) :
    Prop :=
  ∃ before ∈ past, ∃ moment ∈ past, ∃ long short,
    before.1 ≤ moment.1 ∧ moment.1 ≤ time ∧ time ≤ before.1 + inOutStickyTTL ∧
      bestOf before.2 ⟨legs.longEx, legs.symbol⟩ = some long ∧
      bestOf moment.2 ⟨legs.shortEx, legs.symbol⟩ = some short ∧ value = pairValue long short

/-- No book of a venue has been crossed. -/
def Uncrossed (past : List (Nat × Cache.Store)) (ex symbol : String) : Prop :=
  ∀ moment ∈ past, ∀ top ∈ bestOf moment.2 ⟨ex, symbol⟩, top.1 ≤ top.2

/-- In and out of a row belong together, and to its net profit. -/
structure Opp.Together (past : List (Nat × Cache.Store)) (opp : Opp) : Prop where
  values : opp.inPct = none ∧ opp.outPct = none ∨
    ∃ value, opp.inPct = some value.inPct ∧ opp.outPct = some value.outPct ∧
      FromTops past opp.row.legs value opp.time
  loss : Uncrossed past opp.row.long.ex opp.row.symbol →
    Uncrossed past opp.row.short.ex opp.row.symbol →
      ∀ i ∈ opp.inPct, ∀ o ∈ opp.outPct, i + o ≤ 0
  net : opp.netProfit = round6 (futuresNet opp.row.long opp.row.short opp.inPct * 100)

/-- In and out of a dex row are those of its own price. -/
def DexOpp.OwnPrice (past : List (Nat × Cache.Store)) (opp : DexOpp) : Prop :=
  opp.inPct = none ∧ opp.outPct = none ∨
    ∃ value, opp.inPct = some value.inPct ∧ opp.outPct = some value.outPct ∧
      ∃ moment ∈ past, ∃ short, moment.1 ≤ opp.time ∧ opp.time ≤ moment.1 + inOutStickyTTL ∧
        bestOf moment.2 ⟨opp.shortEx, opp.symbol⟩ = some short ∧ value = dexValue opp.price short

/-- Every row so far. -/
structure Tables.Belong (s : Tables) : Prop where
  opps : ∀ opp ∈ s.opps, opp.Together s.market.past
  dexOpps : ∀ opp ∈ s.dexOpps, opp.OwnPrice s.market.past

/-- The second computation of a row sees what the first one saw, and the long book behind it was
read no longer ago than values stick; and last good values are used for the legs, or for the price,
that they are of. -/
def Tables.Steady (s : Tables) : Act → Prop
  | .publish =>
      match s.stage with
      | .second row seen long =>
          s.market.see row.legs long = seen ∧
            (∀ e ∈ seen.used, e.origin = .pair row.legs) ∧
            ∀ time ∈ seen.readAt long, s.market.now ≤ time + inOutStickyTTL
      | _ => True
  | .dex shortEx symbol price =>
      bestOf s.market.books ⟨shortEx, symbol⟩ = none →
        ∀ e ∈ s.market.lastGood (dexStickyKey shortEx symbol),
          e.origin = .dex shortEx symbol price
  | _ => True

instance (s : Tables) : ∀ act, Decidable (s.Steady act)
  | .publish => by
      unfold Tables.Steady
      cases s.stage <;> infer_instance
  | .dex _ _ _ => inferInstanceAs (Decidable (_ → ∀ e ∈ _, _))
  | .market _ | .start _ | .computeFirst | .skip | .readAgain => isTrue trivial

/-! ## Values -/

section

variable {legs : Legs} {long short : Top} {past : List (Nat × Cache.Store)}

theorem round4_neg (x : ℚ) : round4 (-x) = -round4 x := by
  unfold round4
  rw [neg_mul, Python.roundHalfUp_neg]
  push_cast
  ring

theorem round4_mono {x y : ℚ} (le : x ≤ y) : round4 x ≤ round4 y := by
  unfold round4
  have scaled : x * 10000 ≤ y * 10000 := by linarith
  have rounded : (Python.roundHalfUp (x * 10000) : ℚ) ≤ Python.roundHalfUp (y * 10000) := by
    exact_mod_cast Python.roundHalfUp_mono scaled
  linarith

theorem pos_of_bestOf {books : Cache.Store} {pair : Pair} {top : Top}
    (best : bestOf books pair = some top) : 0 < top.1 ∧ 0 < top.2 := by
  unfold bestOf at best
  split at best
  · rcases Option.ite_none_right_eq_some.mp best with ⟨good, same⟩
    cases same
    exact ⟨good.2, good.1⟩
  · cases best

/-- A round trip through two books that are not crossed does not gain. -/
theorem pairValue_loss (asks : 0 < long.2 + short.2) (longBook : long.1 ≤ long.2)
    (shortBook : short.1 ≤ short.2) :
    (pairValue long short).inPct + (pairValue long short).outPct ≤ 0 := by
  have ref : 0 < (long.2 + short.2) / 2 := by linarith
  have below : (short.1 - long.2) / ((long.2 + short.2) / 2) * 100 ≤
      -((long.1 - short.2) / ((long.2 + short.2) / 2) * 100) := by
    rw [← neg_mul, ← neg_div]
    refine mul_le_mul_of_nonneg_right ?_ (by norm_num)
    exact (div_le_div_iff_of_pos_right ref).mpr (by linarith)
  have rounded := round4_mono below
  rw [round4_neg] at rounded
  unfold pairValue
  dsimp only
  linarith

theorem FromTops.mono {past' : List (Nat × Cache.Store)} {value : InOutPct} {time : Nat}
    (kept : ∀ moment ∈ past, moment ∈ past') (given : FromTops past legs value time) :
    FromTops past' legs value time := by
  rcases given with ⟨before, earlier, moment, known, long, short, rest⟩
  exact ⟨before, kept before earlier, moment, kept moment known, long, short, rest⟩

theorem FromTops.loss {value : InOutPct} {time : Nat} (given : FromTops past legs value time)
    (longBooks : Uncrossed past legs.longEx legs.symbol)
    (shortBooks : Uncrossed past legs.shortEx legs.symbol) : value.inPct + value.outPct ≤ 0 := by
  rcases given with ⟨before, earlier, moment, known, long, short, -, -, -, longTop, shortTop, rfl⟩
  have asks : 0 < long.2 + short.2 :=
    add_pos (pos_of_bestOf longTop).2 (pos_of_bestOf shortTop).2
  exact pairValue_loss asks (longBooks before earlier long longTop)
    (shortBooks moment known short shortTop)

theorem Opp.Together.mono {past' : List (Nat × Cache.Store)} {opp : Opp}
    (kept : ∀ moment ∈ past, moment ∈ past') (together : opp.Together past) :
    opp.Together past' := by
  refine ⟨?_, fun longBooks shortBooks => ?_, together.net⟩
  · rcases together.values with none | ⟨value, i, o, given⟩
    · exact .inl none
    · exact .inr ⟨value, i, o, given.mono kept⟩
  · exact together.loss (fun moment known => longBooks moment (kept moment known))
      fun moment known => shortBooks moment (kept moment known)

theorem DexOpp.OwnPrice.mono {past' : List (Nat × Cache.Store)} {opp : DexOpp}
    (kept : ∀ moment ∈ past, moment ∈ past') (own : opp.OwnPrice past) : opp.OwnPrice past' := by
  rcases own with none | ⟨value, i, o, moment, known, rest⟩
  · exact .inl none
  · exact .inr ⟨value, i, o, moment, kept moment known, rest⟩

end

/-! ## The last good values -/

/-- Last good values are of what they say they are of, at their time. -/
def Entry.Sourced (past : List (Nat × Cache.Store)) (e : Entry) : Prop :=
  match e.origin with
  | .pair legs =>
      ∃ before ∈ past, ∃ moment ∈ past, ∃ long short,
        before.1 = e.readAt ∧ before.1 ≤ moment.1 ∧ moment.1 = e.time ∧
        bestOf before.2 ⟨legs.longEx, legs.symbol⟩ = some long ∧
        bestOf moment.2 ⟨legs.shortEx, legs.symbol⟩ = some short ∧ e.value = pairValue long short
  | .dex shortEx symbol price =>
      ∃ moment ∈ past, ∃ short, moment.1 = e.time ∧
        bestOf moment.2 ⟨shortEx, symbol⟩ = some short ∧ e.value = dexValue price short

/-- The long book was read at some moment. -/
def WasTop (past : List (Nat × Cache.Store)) (legs : Legs) (long : LongRead) : Prop :=
  ∃ moment ∈ past,
    moment.1 = long.time ∧ bestOf moment.2 ⟨legs.longEx, legs.symbol⟩ = long.top

structure Market.Kept (m : Market) : Prop where
  current : (m.now, m.books) ∈ m.past
  elapsed : ∀ moment ∈ m.past, moment.1 ≤ m.now
  sourced : ∀ key e, m.sticky.lookup key = some e → e.Sourced m.past ∧ e.time ≤ m.now

section

variable {m m' : Market} {legs : Legs} {long : LongRead}

theorem Entry.Sourced.mono {past past' : List (Nat × Cache.Store)} {e : Entry}
    (kept : ∀ moment ∈ past, moment ∈ past') (sourced : e.Sourced past) : e.Sourced past' := by
  unfold Entry.Sourced at sourced ⊢
  cases origin : e.origin with
  | pair legs =>
      rw [origin] at sourced
      rcases sourced with ⟨before, earlier, moment, known, rest⟩
      exact ⟨before, kept before earlier, moment, kept moment known, rest⟩
  | dex shortEx symbol price =>
      rw [origin] at sourced
      rcases sourced with ⟨moment, known, rest⟩
      exact ⟨moment, kept moment known, rest⟩

theorem WasTop.mono {past past' : List (Nat × Cache.Store)}
    (kept : ∀ moment ∈ past, moment ∈ past') (was : WasTop past legs long) :
    WasTop past' legs long := by
  rcases was with ⟨moment, known, same⟩
  exact ⟨moment, kept moment known, same⟩

theorem kept_initial : Market.initial.Kept := by
  refine ⟨List.mem_cons_self, fun moment there => ?_, fun key e known => ?_⟩
  · rw [List.mem_singleton.mp there]
    exact le_rfl
  · cases known

/-- Time goes on, and books change. -/
theorem kept_moment (kept : m.Kept) (books : Cache.Store) {now : Nat} (later : m.now ≤ now) :
    Market.Kept { m with books, now, past := m.past ++ [(now, books)] } := by
  refine ⟨List.mem_append_right _ List.mem_cons_self, fun moment there => ?_,
    fun key e known => ?_⟩
  · rcases List.mem_append.mp there with old | new
    · exact (kept.elapsed moment old).trans later
    · rw [List.mem_singleton.mp new]
  · rcases kept.sourced key e known with ⟨sourced, before⟩
    exact ⟨sourced.mono fun moment there => List.mem_append_left _ there, before.trans later⟩

/-- A put of what has been seen now. -/
theorem kept_put (kept : m.Kept) (key : String) {value : InOutPct} {readAt : Nat}
    {origin : Origin} (sourced : Entry.Sourced m.past ⟨⟨value, m.now⟩, readAt, origin⟩) :
    (m.put key value readAt origin).Kept := by
  refine ⟨kept.current, kept.elapsed, fun key' e known => ?_⟩
  by_cases same : key' = key
  · subst same
    rw [Market.put, AList.lookup_insert] at known
    cases known
    exact ⟨sourced, le_rfl⟩
  · rw [Market.put, AList.lookup_insert_ne same] at known
    exact kept.sourced key' e known

/-- Two good tops are what a computation sees; else it looks for the last good values. -/
theorem see_cases (m : Market) (legs : Legs) (long : LongRead) :
    (∃ l s, long.top = some l ∧ bestOf m.books ⟨legs.shortEx, legs.symbol⟩ = some s ∧
        m.see legs long = .tops l s) ∨
      m.see legs long = .cached (m.lastGood legs.stickyKey) := by
  unfold Market.see
  cases long.top with
  | none => exact .inr rfl
  | some l =>
      cases best : bestOf m.books ⟨legs.shortEx, legs.symbol⟩ with
      | none => exact .inr rfl
      | some s => exact .inl ⟨l, s, rfl, rfl, rfl⟩

theorem kept_keep (kept : m.Kept) (was : WasTop m.past legs long) :
    (m.keep legs long (m.see legs long)).Kept := by
  rcases see_cases m legs long with ⟨l, s, good, best, seen⟩ | seen
  · rw [seen]
    rcases was with ⟨before, earlier, time, top⟩
    exact kept_put kept _ ⟨before, earlier, _, kept.current, l, s, time,
      kept.elapsed before earlier, rfl, top.trans good, best, rfl⟩
  · rw [seen]
    exact kept

theorem kept_dex (kept : m.Kept) (shortEx symbol : String) (dexPrice : ℚ) :
    (m.computeInOutDex shortEx symbol dexPrice).2.Kept := by
  unfold Market.computeInOutDex
  split
  · exact kept
  · split
    case h_1 value quoted =>
      rcases Option.map_eq_some_iff.mp quoted with ⟨short, best, rfl⟩
      exact kept_put kept _ ⟨_, kept.current, short, rfl, best, rfl⟩
    case h_2 => exact kept

theorem past_keep (m : Market) (legs : Legs) (long : LongRead) (seen : Seen) :
    (m.keep legs long seen).past = m.past := by
  cases seen with
  | tops _ _ => rfl
  | cached _ => rfl

theorem past_dex (m : Market) (shortEx symbol : String) (dexPrice : ℚ) :
    (m.computeInOutDex shortEx symbol dexPrice).2.past = m.past := by
  unfold Market.computeInOutDex
  split
  · rfl
  · split
    · rfl
    · rfl

/-- What the market does on its own keeps the past. -/
theorem kept_step (kept : m.Kept) {act : MarketAct} (stepped : m.step act = some m') :
    m'.Kept ∧ ∀ moment ∈ m.past, moment ∈ m'.past := by
  have longer : ∀ (books : Cache.Store) (now : Nat), ∀ moment ∈ m.past,
      moment ∈ m.past ++ [(now, books)] := fun _ _ moment there => List.mem_append_left _ there
  cases act with
  | book pair depth source =>
      cases stepped
      exact ⟨kept_moment kept _ le_rfl, longer _ _⟩
  | touch pair =>
      cases stepped
      exact ⟨kept_moment kept _ le_rfl, longer _ _⟩
  | prune idle =>
      cases stepped
      exact ⟨kept_moment kept _ le_rfl, longer _ _⟩
  | evictStale staleAfter =>
      cases stepped
      exact ⟨kept_moment kept _ le_rfl, longer _ _⟩
  | pass elapsed =>
      cases stepped
      exact ⟨kept_moment kept m.books (Nat.le_add_right _ _), longer _ _⟩
  | compute legs long =>
      rcases Option.ite_none_right_eq_some.mp stepped with ⟨was, same⟩
      cases same
      refine ⟨kept_keep kept was, ?_⟩
      rw [past_keep]
      exact fun _ there => there
  | computeDex shortEx symbol dexPrice =>
      cases stepped
      refine ⟨kept_dex kept shortEx symbol dexPrice, ?_⟩
      rw [past_dex]
      exact fun _ there => there

theorem lastGood_cases {key : String} {e : Entry} (good : m.lastGood key = some e) :
    m.sticky.lookup key = some e ∧ m.now - e.time ≤ inOutStickyTTL := by
  rcases Option.filter_eq_some_iff.mp good with ⟨known, fresh⟩
  exact ⟨known, of_decide_eq_true fresh⟩

/-- What a computation gives comes from tops, if the last good values are those of its legs and
the long book was read not too long ago. -/
theorem fromTops_see (kept : m.Kept) (was : WasTop m.past legs long)
    (own : ∀ e ∈ (m.see legs long).used, e.origin = .pair legs)
    (recent : ∀ time ∈ (m.see legs long).readAt long, m.now ≤ time + inOutStickyTTL)
    {value : InOutPct} (given : (m.see legs long).value = some value) :
    FromTops m.past legs value m.now := by
  rcases see_cases m legs long with ⟨l, s, good, best, seen⟩ | seen
  · rw [seen] at given recent
    cases given
    rcases was with ⟨before, earlier, time, top⟩
    have within : m.now ≤ before.1 + inOutStickyTTL := time ▸ recent long.time rfl
    exact ⟨before, earlier, _, kept.current, l, s, kept.elapsed before earlier, le_rfl, within,
      top.trans good, best, rfl⟩
  · rw [seen] at given own recent
    rcases Option.map_eq_some_iff.mp given with ⟨e, good, rfl⟩
    rcases lastGood_cases good with ⟨known, -⟩
    rcases kept.sourced _ e known with ⟨sourced, before⟩
    have within : m.now ≤ e.readAt + inOutStickyTTL :=
      recent e.readAt (Option.mem_map_of_mem Entry.readAt good)
    unfold Entry.Sourced at sourced
    rw [own e good] at sourced
    rcases sourced with ⟨moment, there, moment', there', l, s, read, order, time, top, top', value⟩
    exact ⟨moment, there, moment', there', l, s, order, by omega, by omega, top, top', value⟩

end

/-! ## Each step -/

/-- What holds at every moment of a tick. -/
structure Tables.Sound (s : Tables) : Prop where
  kept : s.market.Kept
  reading : ∀ read ∈ s.stage.reading, WasTop s.market.past read.1.legs read.2
  belong : s.Belong

section

variable {s s' : Tables} {row : Row} {seen : Seen} {long : LongRead}

theorem Tables.Belong.mono (belong : s.Belong) (market : Market)
    (kept : ∀ moment ∈ s.market.past, moment ∈ market.past) (stage : Stage) :
    Tables.Belong { s with market, stage } :=
  ⟨fun opp member => (belong.opps opp member).mono kept,
    fun opp member => (belong.dexOpps opp member).mono kept⟩

/-- Between two computations nothing is being read. -/
theorem notReading {P : Row × LongRead → Prop} :
    ∀ read ∈ (none : Option (Row × LongRead)), P read :=
  fun read here => absurd here (Option.not_mem_none read)

theorem sound_idle (sound : s.Sound) : Tables.Sound { s with stage := .idle } :=
  ⟨sound.kept, notReading, ⟨sound.belong.opps, sound.belong.dexOpps⟩⟩

theorem wasTop_longBook (sound : s.Sound) (row : Row) :
    WasTop s.market.past row.legs (s.longBook row) :=
  ⟨_, sound.kept.current, rfl, rfl⟩

theorem sound_market (sound : s.Sound) {act : MarketAct} {market : Market}
    (stepped : s.market.step act = some market) : Tables.Sound { s with market } := by
  rcases kept_step sound.kept stepped with ⟨kept, longer⟩
  exact ⟨kept, fun read here => (sound.reading read here).mono longer,
    sound.belong.mono market longer s.stage⟩

theorem sound_start (sound : s.Sound) (row : Row) :
    Tables.Sound { s with stage := .first row (s.longBook row) } := by
  refine ⟨sound.kept, fun read here => ?_, ⟨sound.belong.opps, sound.belong.dexOpps⟩⟩
  cases here
  exact wasTop_longBook sound row

theorem sound_readAgain (sound : s.Sound) (row : Row) (seen : Seen) :
    Tables.Sound { s with stage := .second row seen (s.longBook row) } := by
  refine ⟨sound.kept, fun read here => ?_, ⟨sound.belong.opps, sound.belong.dexOpps⟩⟩
  cases here
  exact wasTop_longBook sound row

/-- A computation that keeps what it has seen. -/
theorem sound_keep (sound : s.Sound) (was : WasTop s.market.past row.legs long) (seen : Seen) :
    Tables.Sound
      { s with
        market := s.market.keep row.legs long (s.market.see row.legs long)
        stage := .between row seen } := by
  refine ⟨kept_keep sound.kept was, notReading, sound.belong.mono _ (fun moment there => ?_) _⟩
  rw [past_keep]
  exact there

theorem wasTop_second (sound : s.Sound) (here : s.stage = .second row seen long) :
    WasTop s.market.past row.legs long :=
  sound.reading (row, long) (by rw [here]; rfl)

/-- A row whose computations have seen the same. -/
theorem together_publish (sound : s.Sound) (here : s.stage = .second row seen long)
    (steady : s.Steady .publish) :
    Opp.Together s.market.past
      { row
        inPct := seen.value.map InOutPct.inPct
        outPct := (s.market.see row.legs long).value.map InOutPct.outPct
        netProfit := round6 (futuresNet row.long row.short (seen.value.map InOutPct.inPct) * 100)
        time := s.market.now } := by
  simp only [Tables.Steady, here] at steady
  rcases steady with ⟨same, own, recent⟩
  rw [← same] at own recent
  cases given : seen.value with
  | none =>
      rw [same, given]
      refine ⟨.inl ⟨rfl, rfl⟩, fun _ _ i none => ?_, rfl⟩
      cases none
  | some value =>
      have from' : FromTops s.market.past row.legs value s.market.now :=
        fromTops_see sound.kept (wasTop_second sound here) own recent (same.symm ▸ given)
      rw [same, given]
      refine ⟨.inr ⟨value, rfl, rfl, from'⟩, fun longBooks shortBooks i given o given' => ?_, rfl⟩
      cases given
      cases given'
      exact from'.loss longBooks shortBooks

theorem ownPrice_dex (sound : s.Sound) {shortEx symbol : String} {price : ℚ}
    (steady : s.Steady (.dex shortEx symbol price)) :
    DexOpp.OwnPrice s.market.past
      { shortEx, symbol, price
        inPct := (s.market.computeInOutDex shortEx symbol price).1.map InOutPct.inPct
        outPct := (s.market.computeInOutDex shortEx symbol price).1.map InOutPct.outPct
        time := s.market.now } := by
  unfold Market.computeInOutDex
  by_cases noPrice : price ≤ 0
  · rw [if_pos noPrice]
    exact .inl ⟨rfl, rfl⟩
  · rw [if_neg noPrice, InOut.quoteDex]
    cases best : bestOf s.market.books ⟨shortEx, symbol⟩ with
    | some short =>
        exact .inr ⟨_, rfl, rfl, _, sound.kept.current, short, le_rfl, Nat.le_add_right _ _, best,
          rfl⟩
    | none =>
        cases good : s.market.lastGood (dexStickyKey shortEx symbol) with
        | none => exact .inl ⟨rfl, rfl⟩
        | some e =>
            rcases lastGood_cases good with ⟨known, fresh⟩
            rcases sound.kept.sourced _ e known with ⟨sourced, before⟩
            unfold Entry.Sourced at sourced
            rw [steady best e good] at sourced
            rcases sourced with ⟨moment, there, short, time, top, value⟩
            exact .inr ⟨e.value, rfl, rfl, moment, there, short, by dsimp only; omega,
              by dsimp only; omega, top, value⟩

theorem sound_publish (sound : s.Sound) (here : s.stage = .second row seen long)
    (steady : s.Steady .publish) (stepped : s.step .publish = some s') : s'.Sound := by
  have together := together_publish sound here steady
  have kept := sound_keep sound (wasTop_second sound here) seen
  simp only [Tables.step, here, Option.some.injEq] at stepped
  subst stepped
  refine ⟨kept.kept, notReading, ?_, kept.belong.dexOpps⟩
  intro opp member
  rcases List.mem_append.mp member with old | new
  · exact kept.belong.opps opp old
  · rw [List.mem_singleton.mp new]
    refine together.mono fun moment there => ?_
    rw [past_keep]
    exact there

theorem sound_dex (sound : s.Sound) {shortEx symbol : String} {price : ℚ}
    (steady : s.Steady (.dex shortEx symbol price))
    (stepped : s.step (.dex shortEx symbol price) = some s') : s'.Sound := by
  have own := ownPrice_dex sound steady
  have kept := kept_dex sound.kept shortEx symbol price
  have longer : ∀ moment ∈ s.market.past,
      moment ∈ (s.market.computeInOutDex shortEx symbol price).2.past := by
    rw [past_dex]
    exact fun _ there => there
  simp only [Tables.step, Option.some.injEq] at stepped
  subst stepped
  refine ⟨kept, fun read here => (sound.reading read here).mono longer,
    fun opp member => (sound.belong.opps opp member).mono longer, fun opp member => ?_⟩
  rcases List.mem_append.mp member with old | new
  · exact (sound.belong.dexOpps opp old).mono longer
  · rw [List.mem_singleton.mp new]
    exact own.mono longer

theorem sound_step : Preserves Tables.step Tables.Steady Tables.Sound := by
  intro s act s' sound steady stepped
  cases act with
  | market act =>
      rcases Option.map_eq_some_iff.mp stepped with ⟨market, changed, rfl⟩
      exact sound_market sound changed
  | start row =>
      simp only [Tables.step] at stepped
      split at stepped
      case h_1 =>
        rcases Option.ite_none_right_eq_some.mp stepped with ⟨-, same⟩
        exact Option.some.inj same ▸ sound_start sound row
      case h_2 => cases stepped
  | computeFirst =>
      simp only [Tables.step] at stepped
      split at stepped
      case h_1 row long here =>
        have was := sound.reading (row, long) (by rw [here]; rfl)
        exact Option.some.inj stepped ▸ sound_keep sound was _
      case h_2 => cases stepped
  | skip =>
      simp only [Tables.step] at stepped
      split at stepped
      case h_1 => exact Option.some.inj stepped ▸ sound_idle sound
      case h_2 => cases stepped
  | readAgain =>
      simp only [Tables.step] at stepped
      split at stepped
      case h_1 row seen here =>
        rcases Option.ite_none_right_eq_some.mp stepped with ⟨-, same⟩
        exact Option.some.inj same ▸ sound_readAgain sound row seen
      case h_2 => cases stepped
  | publish =>
      cases stage : s.stage with
      | second row seen long => exact sound_publish sound stage steady stepped
      | idle | first _ _ | between _ _ =>
          simp only [Tables.step, stage] at stepped
          cases stepped
  | dex shortEx symbol price => exact sound_dex sound steady stepped

theorem sound_initial : Tables.initial.Sound := by
  refine ⟨kept_initial, notReading, fun opp member => ?_, fun opp member => ?_⟩
  · cases member
  · cases member

end

def btcRow : Row := ⟨"BTC", ⟨"binance", 0, 0.0004, 100⟩, ⟨"okx", 0, 0.0005, 101⟩⟩

/-- A book with one bid and one ask of the same price. -/
def flat (ex : String) (price : ℚ) : Act :=
  .market (.book ⟨ex, "BTC"⟩ ⟨[(price, 1)], [(price, 1)]⟩ "ws")

def steadyRun : List Act :=
  [flat "binance" 100, flat "okx" 101, .start btcRow, .computeFirst, .readAgain, .publish,
    .dex "okx" "BTC" 100]

/-- The short book falls below the long one after the first computation. -/
def movedRun : List Act :=
  [flat "binance" 100, flat "okx" 101, .start btcRow, .computeFirst, flat "okx" 99, .readAgain,
    .publish]

/-- A row with price 100, then the book is empty, then a row with price 120. -/
def sharedRun : List Act :=
  [flat "okx" 101, .dex "okx" "BTC" 100, .market (.book ⟨"okx", "BTC"⟩ ⟨[], []⟩ "ws"),
    .dex "okx" "BTC" 120]

theorem movedRun_gains :
    ¬∀ s, Run Tables.step (fun _ _ => True) .initial s → ∀ opp ∈ s.opps,
      opp.Together s.market.past := by
  intro claim
  have ran : ((exec Tables.step .initial movedRun).map fun s =>
      (s.opps.map fun opp => (opp.inPct, opp.outPct, opp.row.legs),
        s.market.past.all fun moment => ["binance", "okx"].all fun ex =>
          (bestOf moment.2 ⟨ex, "BTC"⟩).all fun top => decide (top.1 ≤ top.2))) =
      some ([(some 0.995, some 1.005, ⟨"binance", "okx", "BTC"⟩)], true) := by
    decide +kernel
  rcases Option.map_eq_some_iff.mp ran with ⟨s, executed, view⟩
  rcases Prod.ext_iff.mp view with ⟨opps, flatBooks⟩
  dsimp only at opps flatBooks
  rcases List.map_eq_singleton_iff.mp opps with ⟨opp, only, shown⟩
  have together := claim s (Run.of_exec executed) opp (by rw [only]; exact List.mem_cons_self)
  simp only [Prod.mk.injEq] at shown
  rcases shown with ⟨i, o, legs⟩
  have uncrossed : ∀ ex ∈ ["binance", "okx"], Uncrossed s.market.past ex "BTC" := by
    intro ex member moment known top best
    have all := List.all_eq_true.mp (List.all_eq_true.mp flatBooks moment known) ex member
    rw [best] at all
    exact of_decide_eq_true all
  rcases InOut.Legs.mk.inj legs with ⟨long, short, symbol⟩
  have longBooks : Uncrossed s.market.past opp.row.long.ex opp.row.symbol := by
    rw [long, symbol]
    exact uncrossed _ List.mem_cons_self
  have shortBooks : Uncrossed s.market.past opp.row.short.ex opp.row.symbol := by
    rw [short, symbol]
    exact uncrossed _ (List.mem_cons_of_mem _ List.mem_cons_self)
  have loss := together.loss longBooks shortBooks 0.995 i 1.005 o
  norm_num at loss

theorem sharedRun_otherPrice :
    ¬∀ s, Run Tables.step (fun _ _ => True) .initial s → ∀ opp ∈ s.dexOpps,
      opp.OwnPrice s.market.past := by
  intro claim
  have ran : ((exec Tables.step .initial sharedRun).map fun s =>
      (s.dexOpps.getLast?.map fun opp => (opp.inPct, opp.shortEx, opp.symbol, opp.price),
        s.market.past.all fun moment => (bestOf moment.2 ⟨"okx", "BTC"⟩).all fun top =>
          decide ((dexValue 120 top).inPct ≠ 0.995))) =
      some (some (some 0.995, "okx", "BTC", 120), true) := by
    decide +kernel
  rcases Option.map_eq_some_iff.mp ran with ⟨s, executed, view⟩
  rcases Prod.ext_iff.mp view with ⟨last, others⟩
  dsimp only at last others
  rcases Option.map_eq_some_iff.mp last with ⟨opp, known, shown⟩
  simp only [Prod.mk.injEq] at shown
  rcases shown with ⟨i, short, symbol, price⟩
  rcases claim s (Run.of_exec executed) opp (List.mem_of_getLast? known) with none | own
  · rw [i] at none
    cases none.1
  · rcases own with ⟨value, given, -, moment, there, top, -, -, best, same⟩
    have other := List.all_eq_true.mp others moment there
    rw [short, symbol] at best
    rw [best] at other
    rw [price] at same
    rw [i, same] at given
    exact of_decide_eq_true other (Option.some.inj given).symm

end Arb

end Avalant
