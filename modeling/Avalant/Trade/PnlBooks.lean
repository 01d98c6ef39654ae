import Avalant.Trade.Pnl
import Mathlib.Algebra.BigOperators.Group.List.Basic
import Mathlib.Algebra.Order.Field.Rat
import Mathlib.Data.List.Nodup
import Mathlib.Tactic.Ring

/-!
What the P&L listing does with each closed position.

Every closed position of the query is in one row, alone or as one leg of a pair, or it is left out.
Left out are the two legs of a pair of which a leg is open again, and a leg whose other side is
open; the totals of the rows add up to what the other positions made.
-/

namespace Avalant

open Relational

/-! ## What a row says -/

/-- The positions that a row stands for. -/
def PnlRow.legIds : PnlRow → List Nat
  | .single row => [row.id]
  | .pair row => [row.id.1, row.id.2]

def PnlRow.totalPnlUsd : PnlRow → ℚ
  | .single row => row.totalPnlUsd
  | .pair row => row.totalPnlUsd

/-- The row is about these positions. -/
structure PnlRow.Shows (row : PnlRow) (legs : List PnlPosition) : Prop where
  ids : row.legIds = legs.map fun r => r.id
  total : row.totalPnlUsd = (legs.map PnlPosition.totalPnl).sum

theorem serializePnlSingle_shows (r : PnlPosition) (pairedWithSpot : Bool) :
    (serializePnlSingle r pairedWithSpot).Shows [r] where
  ids := rfl
  total := by simp [serializePnlSingle, PnlRow.totalPnlUsd, PnlPosition.totalPnl]

theorem serializePair_total (long short : PnlPosition) (pairKind : String)
    (market market' : Option String) :
    (serializePair pairKind long short (pnlLeg long market) (pnlLeg short market')).totalPnlUsd =
      long.totalPnl + short.totalPnl := by
  simp only [serializePair, PnlRow.totalPnlUsd, pnlLeg, PnlPosition.totalPnl]
  ring

theorem serializePnlSpotShort_shows (spotLong futuresShort : PnlPosition) :
    (serializePnlSpotShort spotLong futuresShort).Shows [spotLong, futuresShort] where
  ids := rfl
  total := by simp [serializePnlSpotShort, serializePair_total]

/-- A pair shows both legs, whichever of them is the long one. -/
theorem serializePnlPair_shows (r c : PnlPosition) :
    ∃ legs, legs.Perm [r, c] ∧
      (serializePnlPair (orient r c).1 (orient r c).2).Shows legs := by
  refine ⟨[(orient r c).1, (orient r c).2], ?_, rfl, by
    simp [serializePnlPair, serializePair_total]⟩
  unfold orient
  split
  · exact List.Perm.refl _
  · exact List.Perm.swap _ _ _

/-! ## What is left out -/

namespace PnlQuery

variable (q : PnlQuery)

/-- Two closed futures legs that can be paired, of which one is open again on its venue. -/
structure PartlyOpen (r c : PnlPosition) : Prop where
  closed : r ∈ q.closed ∧ c ∈ q.closed
  futures : r.market = "futures" ∧ c.market = "futures"
  opposite : c.sym = r.sym ∧ c.side = oppSide r.side
  pair : q.canPair (orient r c).1 (orient r c).2 = true
  legOpen : ∃ op ∈ q.openRows, op.sym = r.sym ∧
    ((op.side = c.side ∧ op.legAExchange = c.legAExchange) ∨
      (op.side = r.side ∧ op.legAExchange = r.legAExchange))

/-- A closed futures leg that can be paired with the first open row of the other side. -/
structure CounterpartOpen (r : PnlPosition) : Prop where
  closed : r ∈ q.closed
  futures : r.market = "futures"
  pair : ∃ op, (q.openRows.filter fun op => op.sym = r.sym ∧ op.side = oppSide r.side).head? =
    some op ∧ q.canPair (orient r op).1 (orient r op).2 = true

/-- A closed leg of a pair that is closed in part. -/
def LeftOut (r : PnlPosition) : Prop :=
  (∃ c, q.PartlyOpen r c ∨ q.PartlyOpen c r) ∨ q.CounterpartOpen r

/-- Every closed position is once in a row or among those left out, and the totals of the rows are
the P&L of those in a row. -/
structure Accounts (rows : List PnlRow) (left : List PnlPosition) : Prop where
  once : (rows.flatMap PnlRow.legIds ++ left.map fun r => r.id).Perm (q.closed.map fun r => r.id)
  left_closed : left ⊆ q.closed
  total : (rows.map PnlRow.totalPnlUsd).sum + (left.map PnlPosition.totalPnl).sum =
    (q.closed.map PnlPosition.totalPnl).sum

/-! ## The passes -/

/-- The state of the passes when these positions are in rows and these left out. -/
structure Books (shown left : List PnlPosition) (st : PnlState) : Prop where
  closed : shown ++ left ⊆ q.closed
  nodup : ((shown ++ left).map fun r => r.id).Nodup
  used : ∀ i, i ∈ st.usedIds ↔ i ∈ (shown ++ left).map fun r => r.id
  ids : (st.out.flatMap PnlRow.legIds).Perm (shown.map fun r => r.id)
  total : (st.out.map PnlRow.totalPnlUsd).sum = (shown.map PnlPosition.totalPnl).sum
  leftOut : ∀ r ∈ left, q.LeftOut r

/-- Some positions are in rows, and some left out. -/
def Balanced (st : PnlState) : Prop :=
  ∃ shown left, q.Books shown left st

/-- Closed positions that are not used. -/
structure Fresh (st : PnlState) (legs : List PnlPosition) : Prop where
  closed : legs ⊆ q.closed
  nodup : (legs.map fun r => r.id).Nodup
  unused : ∀ r ∈ legs, r.id ∉ st.usedIds

variable {q} {st : PnlState} {legs : List PnlPosition} {shown left : List PnlPosition}

theorem balanced_start : q.Balanced {} :=
  ⟨[], [], by simp, by simp, by simp, by simp, by simp, by simp⟩

theorem Books.disjoint (books : q.Books shown left st) (fresh : q.Fresh st legs) :
    List.Disjoint (legs.map fun r => r.id) ((shown ++ left).map fun r => r.id) := by
  intro i own other
  obtain ⟨r, member, rfl⟩ := List.mem_map.mp own
  exact fresh.unused r member ((books.used r.id).mpr other)

theorem Books.emit (books : q.Books shown left st) (fresh : q.Fresh st legs) {row : PnlRow}
    {order : List PnlPosition} (same : order.Perm legs) (shows : row.Shows order) :
    q.Books (legs ++ shown) left (st.emit (legs.map fun r => r.id) row) where
  closed := by
    rw [List.append_assoc]
    exact List.append_subset.mpr ⟨fresh.closed, books.closed⟩
  nodup := by
    rw [List.append_assoc, List.map_append]
    exact List.nodup_append'.mpr ⟨fresh.nodup, books.nodup, books.disjoint fresh⟩
  used i := by
    rw [List.append_assoc, List.map_append, List.mem_append, ← books.used i]
    exact List.mem_append
  ids := by
    have own : row.legIds.Perm (legs.map fun r => r.id) := by
      rw [shows.ids]
      exact same.map _
    rw [List.map_append, PnlState.emit, List.flatMap_append, List.flatMap_singleton]
    exact (List.perm_append_comm).trans (own.append books.ids)
  total := by
    rw [PnlState.emit, List.map_append, List.sum_append, books.total, List.map_singleton,
      List.sum_singleton, shows.total, (same.map _).sum_eq, List.map_append, List.sum_append,
      add_comm]
  leftOut := books.leftOut

theorem Books.use (books : q.Books shown left st) (fresh : q.Fresh st legs)
    (leftOut : ∀ r ∈ legs, q.LeftOut r) :
    q.Books shown (left ++ legs) (st.use (legs.map fun r => r.id)) where
  closed := by
    rw [← List.append_assoc]
    exact List.append_subset.mpr ⟨books.closed, fresh.closed⟩
  nodup := by
    rw [← List.append_assoc, List.map_append]
    exact List.nodup_append'.mpr ⟨books.nodup, fresh.nodup, (books.disjoint fresh).symm⟩
  used i := by
    rw [← List.append_assoc, List.map_append, List.mem_append, ← books.used i, or_comm]
    exact List.mem_append
  ids := books.ids
  total := books.total
  leftOut r member := (List.mem_append.mp member).elim (books.leftOut r) (leftOut r)

theorem Balanced.emit (balanced : q.Balanced st) (fresh : q.Fresh st legs) {row : PnlRow}
    {order : List PnlPosition} (same : order.Perm legs) (shows : row.Shows order) :
    q.Balanced (st.emit (legs.map fun r => r.id) row) :=
  have ⟨_, _, books⟩ := balanced
  ⟨_, _, books.emit fresh same shows⟩

theorem Balanced.use (balanced : q.Balanced st) (fresh : q.Fresh st legs)
    (leftOut : ∀ r ∈ legs, q.LeftOut r) : q.Balanced (st.use (legs.map fun r => r.id)) :=
  have ⟨_, _, books⟩ := balanced
  ⟨_, _, books.use fresh leftOut⟩

section Steps

variable (ids : (q.closed.map fun r => r.id).Nodup) {r c : PnlPosition}

theorem fresh_one (member : r ∈ q.closed) (unused : r.id ∉ st.usedIds) : q.Fresh st [r] where
  closed := List.cons_subset.mpr ⟨member, List.nil_subset _⟩
  nodup := List.nodup_singleton _
  unused _ own := List.mem_singleton.mp own ▸ unused

include ids in
/-- Two closed positions of different markets or sides have numbers of their own. -/
theorem fresh_two (member : r ∈ q.closed) (member' : c ∈ q.closed) (unused : r.id ∉ st.usedIds)
    (unused' : c.id ∉ st.usedIds) (differ : r ≠ c) : q.Fresh st [r, c] where
  closed := List.cons_subset.mpr ⟨member, List.cons_subset.mpr ⟨member', List.nil_subset _⟩⟩
  nodup := by
    have numbers : r.id ≠ c.id := fun same =>
      differ (List.inj_on_of_nodup_map ids member member' same)
    simpa using numbers
  unused _ own := by
    rcases List.mem_cons.mp own with rfl | last
    · exact unused
    · exact List.mem_singleton.mp last ▸ unused'

include ids in
theorem balanced_spotStep (balanced : q.Balanced st) (member : r ∈ q.spotLongs) :
    q.Balanced (q.spotStep st r) := by
  obtain ⟨closed, spot⟩ := List.mem_filter.mp member
  unfold spotStep
  split
  case isTrue => exact balanced
  case isFalse unused =>
    split
    case h_2 => exact balanced
    case h_1 fs found =>
      obtain ⟨closed', future⟩ := List.mem_filter.mp (List.mem_of_find?_eq_some found)
      have free := List.find?_some found
      simp only [decide_eq_true_eq, Bool.and_eq_true, Bool.not_eq_true', List.contains_eq_mem,
        decide_eq_false_iff_not] at spot future free unused
      have differ : r ≠ fs := by
        rintro rfl
        exact absurd (spot.1.symm.trans future.1) (by decide)
      exact balanced.emit (fresh_two ids closed closed' unused free.1 differ) (List.Perm.refl _)
        (serializePnlSpotShort_shows r fs)

/-- What `findMatch` finds. -/
structure Matches (q : PnlQuery) (usedIds : List Nat) (r c : PnlPosition) : Prop where
  closed : c ∈ q.closed
  opposite : c.sym = r.sym ∧ c.side = oppSide r.side
  unused : c.id ∉ usedIds
  futures : c.market = "futures"
  pair : q.canPair (orient r c).1 (orient r c).2 = true

theorem matches_of_findMatch {usedIds : List Nat} (found : q.findMatch usedIds r = some c) :
    q.Matches usedIds r c := by
  obtain ⟨closed, own⟩ := List.mem_filter.mp (List.mem_of_find?_eq_some found)
  have pair := List.find?_some found
  simp only [decide_eq_true_eq, List.contains_eq_mem] at own
  exact ⟨closed, own.1, own.2.1, own.2.2, pair⟩

theorem oppSide_ne (side : String) : side ≠ oppSide side := by
  unfold oppSide
  split
  case isTrue buy =>
    rw [buy]
    decide
  case isFalse other => exact other

theorem Matches.ne {usedIds : List Nat} (found : q.Matches usedIds r c) : r ≠ c := by
  rintro rfl
  exact oppSide_ne r.side found.opposite.2

theorem partlyOpen_of_legOpen {usedIds : List Nat} (member : r ∈ q.closed)
    (futures : r.market = "futures") (found : q.Matches usedIds r c)
    (openLeg : q.legOpen r c = true) : q.PartlyOpen r c where
  closed := ⟨member, found.closed⟩
  futures := ⟨futures, found.futures⟩
  opposite := found.opposite
  pair := found.pair
  legOpen := by
    rcases Bool.or_eq_true_iff.mp openLeg with partner | this
    · obtain ⟨op, bucket, venue⟩ := List.any_eq_true.mp partner
      obtain ⟨isOpen, own⟩ := List.mem_filter.mp bucket
      rw [decide_eq_true_eq] at own venue
      exact ⟨op, isOpen, own.1, Or.inl ⟨own.2.trans found.opposite.2.symm, venue⟩⟩
    · obtain ⟨op, bucket, venue⟩ := List.any_eq_true.mp this
      obtain ⟨isOpen, own⟩ := List.mem_filter.mp bucket
      rw [decide_eq_true_eq] at own venue
      exact ⟨op, isOpen, own.1, Or.inr ⟨own.2, venue⟩⟩

theorem counterpartOpen_spec (member : r ∈ q.closed) (futures : r.market = "futures")
    (isOpen : q.counterpartOpen r = true) : q.CounterpartOpen r where
  closed := member
  futures := futures
  pair := by
    unfold counterpartOpen at isOpen
    split at isOpen
    case h_1 op rest bucket => exact ⟨op, by rw [← openBucket, bucket]; rfl, isOpen⟩
    case h_2 => cases isOpen

include ids in
theorem balanced_closedStep (balanced : q.Balanced st) (member : r ∈ q.closed) :
    q.Balanced (q.closedStep st r) := by
  unfold closedStep
  split
  case isTrue => exact balanced
  case isFalse unused =>
    rw [List.contains_eq_mem, decide_eq_true_eq] at unused
    have one := fresh_one member unused
    split
    case isTrue => exact balanced.emit one (List.Perm.refl _) (serializePnlSingle_shows r false)
    case isFalse market =>
      have futures := not_not.mp market
      split
      case h_1 c found =>
        have spec := matches_of_findMatch found
        have two := fresh_two ids member spec.closed unused spec.unused spec.ne
        split
        case isTrue openLeg =>
          have partly := partlyOpen_of_legOpen member futures spec openLeg
          refine balanced.use two fun leg own => Or.inl ?_
          rcases List.mem_cons.mp own with rfl | last
          · exact ⟨c, Or.inl partly⟩
          · exact ⟨r, Or.inr (List.mem_singleton.mp last ▸ partly)⟩
        case isFalse =>
          obtain ⟨order, same, shows⟩ := serializePnlPair_shows r c
          exact balanced.emit two same shows
      case h_2 =>
        split
        case isTrue isOpen =>
          refine balanced.use one fun leg own => Or.inr ?_
          exact List.mem_singleton.mp own ▸ counterpartOpen_spec member futures isOpen
        case isFalse =>
          exact balanced.emit one (List.Perm.refl _) (serializePnlSingle_shows r _)

theorem usedIds_closedStep (st : PnlState) (r : PnlPosition) :
    st.usedIds ⊆ (q.closedStep st r).usedIds ∧ r.id ∈ (q.closedStep st r).usedIds := by
  unfold closedStep
  split
  case isTrue used => exact ⟨List.Subset.refl _, by simpa using used⟩
  case isFalse =>
    split
    · simp [PnlState.emit, PnlState.use]
    · split
      · split <;> simp [PnlState.emit, PnlState.use]
      · split <;> simp [PnlState.emit, PnlState.use]

/-- Every closed row is used when its turn is over. -/
theorem usedIds_foldl (closed : List PnlPosition) (st : PnlState) :
    st.usedIds ⊆ (closed.foldl q.closedStep st).usedIds ∧
      ∀ r ∈ closed, r.id ∈ (closed.foldl q.closedStep st).usedIds := by
  induction closed generalizing st with
  | nil => exact ⟨List.Subset.refl _, fun _ none => absurd none List.not_mem_nil⟩
  | cons r closed ih =>
      obtain ⟨more, own⟩ := usedIds_closedStep (q := q) st r
      obtain ⟨later, all⟩ := ih (q.closedStep st r)
      refine ⟨List.Subset.trans more later, fun c member => ?_⟩
      rcases List.mem_cons.mp member with rfl | rest
      · exact later own
      · exact all c rest

theorem balanced_foldl {step : PnlState → PnlPosition → PnlState} {rows : List PnlPosition}
    (keeps : ∀ st, ∀ r ∈ rows, q.Balanced st → q.Balanced (step st r))
    (balanced : q.Balanced st) : q.Balanced (rows.foldl step st) := by
  induction rows generalizing st with
  | nil => exact balanced
  | cons r rows ih =>
      exact ih (fun st c member => keeps st c (List.mem_cons_of_mem _ member))
        (keeps st r List.mem_cons_self balanced)

include ids in
/-- Books of which every closed position is part are accounts. -/
theorem Books.accounts (books : q.Books shown left st) (all : ∀ r ∈ q.closed, r.id ∈ st.usedIds) :
    q.Accounts st.out left := by
  have rows : (shown ++ left).Perm q.closed := by
    refine (List.perm_ext_iff_of_nodup books.nodup.of_map ids.of_map).mpr fun r =>
      ⟨fun member => books.closed member, fun member => ?_⟩
    obtain ⟨r', own, same⟩ := List.mem_map.mp ((books.used r.id).mp (all r member))
    exact List.inj_on_of_nodup_map ids (books.closed own) member same ▸ own
  refine ⟨?_, fun r own => books.closed (List.mem_append_right _ own), ?_⟩
  · refine (books.ids.append_right _).trans ?_
    rw [← List.map_append]
    exact rows.map _
  · rw [books.total, ← List.sum_append, ← List.map_append]
    exact (rows.map _).sum_eq

include ids in
theorem rows_accounts : ∃ left, q.Accounts q.rows left ∧ ∀ r ∈ left, q.LeftOut r := by
  have spot : q.Balanced (q.spotLongs.foldl q.spotStep {}) :=
    balanced_foldl (fun _ _ member balanced => balanced_spotStep ids balanced member)
      balanced_start
  obtain ⟨shown, left, books⟩ : q.Balanced (q.closed.foldl q.closedStep
      (q.spotLongs.foldl q.spotStep {})) :=
    balanced_foldl (fun _ _ member balanced => balanced_closedStep ids balanced member) spot
  exact ⟨left, books.accounts ids (usedIds_foldl q.closed _).2, books.leftOut⟩

end Steps

end PnlQuery

/-! ## The listing -/

theorem PnlDb.closed_ids (db : PnlDb) (userId : Nat) (days : ℤ) (now : Time) :
    ((db.pnlQuery userId days now).closed.map fun r => r.id).Nodup :=
  ((List.perm_insertionSort _ _).map _).nodup_iff.mpr
    (db.positions.nodup.sublist (List.filter_sublist.map key))

/-- Every closed position of the query is in exactly one row, or it is left out as a leg of a pair
that is closed in part; and the totals add up. -/
theorem PnlDb.listUserPnl_accounts (db : PnlDb) (userId : Nat) (days : ℤ) (now : Time) :
    ∃ left, (db.pnlQuery userId days now).Accounts (db.listUserPnl userId days now) left ∧
      ∀ r ∈ left, (db.pnlQuery userId days now).LeftOut r :=
  PnlQuery.rows_accounts (db.closed_ids userId days now)

/-- A futures leg of the user, opened at the time 100. -/
def futuresLeg (id : Nat) (status : TradePositionStatus) (exchange side : String) : PnlPosition where
  id
  userId := 9
  kind := .single
  status
  symbol := "BTC"
  legAWalletId := none
  legAExchange := exchange
  legASide := side
  legAQty := 1
  legAEntryPrice := some 100
  legAExitPrice := none
  legARealizedPnlUsd := none
  legAFundingPnlUsd := none
  legAOpenOrderId := none
  legACloseOrderId := none
  legBRealizedPnlUsd := none
  legBFundingPnlUsd := none
  realizedPnlUsd := none
  openedExternally := false
  closedExternally := false
  openedAt := 100
  closedAt := none
  arbPositionId := none
  legAFeesUsd := none

/-- The long leg of a hedge is closed, with a gain of 5, and its short leg is open. -/
def halfClosedHedge : PnlDb where
  positions := Table.insertAll Table.empty
    [{ futuresLeg 1 .closed "binance" "buy" with
        legARealizedPnlUsd := some 5, closedAt := some 200 },
     futuresLeg 2 .open_ "okx" "sell"]
  decisions := []

/-- The closed leg is in no row. -/
theorem closed_leg_is_left_out :
    halfClosedHedge.listUserPnl 9 30 300 = [] ∧
      ((halfClosedHedge.pnlQuery 9 30 300).closed.map PnlPosition.totalPnl).sum = 5 ∧
      ¬(halfClosedHedge.pnlQuery 9 30 300).Accounts (halfClosedHedge.listUserPnl 9 30 300) [] := by
  have none : halfClosedHedge.listUserPnl 9 30 300 = [] := by decide +kernel
  have gain : ((halfClosedHedge.pnlQuery 9 30 300).closed.map PnlPosition.totalPnl).sum = 5 := by
    decide +kernel
  refine ⟨none, gain, fun accounts => ?_⟩
  have total := accounts.total
  rw [none, gain] at total
  simp at total

end Avalant
