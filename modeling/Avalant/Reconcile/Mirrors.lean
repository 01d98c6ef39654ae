import Avalant.Lib.Grouping
import Avalant.Reconcile.AutoPair
import Mathlib.Tactic.Linarith

/-!
What auto-pairing leaves: no two legs that match, so that a second call finds nothing.

A leg passes once over the later ones of its bucket, and takes the first that matches and is not
paired. When it stays alone, every later leg that matches it was paired before.
-/

namespace Avalant

open Relational

/-! ## What is asked of a call -/

/-- The legs that a call looks at. -/
def Db.openUnwrapped (d : Db) (userId : Nat) : List TradePosition :=
  d.tradePositions.where_ fun p =>
    p.userId == userId && p.arbPositionId == none && p.status == .open_ && p.kind == .single

/-- The match criteria: one symbol, other sides, other venues, positive notionals that differ by at
most 12 % of their mean, opened within ten minutes of each other. -/
structure Mirror (a b : TradePosition) : Prop where
  symbol : Python.upper a.symbol = Python.upper b.symbol
  side : a.legASide ≠ b.legASide
  venue : a.legAExchange ≠ b.legAExchange
  positive : 0 < a.notional ∧ 0 < b.notional
  notional : |a.notional - b.notional| ≤ 12 / 100 * ((a.notional + b.notional) / 2)
  window : |a.openedAt - b.openedAt| ≤ 600

/-- A leg is a buy or a sell. -/
def TradePosition.Sided (p : TradePosition) : Prop :=
  p.legASide = "buy" ∨ p.legASide = "sell"

/-- A new position of two matching legs that had none. -/
structure Db.PairOf (d : Db) (userId : Nat) (insert : PositionInsert) (long short : TradePosition) :
    Prop where
  legs : long ∈ d.openUnwrapped userId ∧ short ∈ d.openUnwrapped userId
  links : insert.linkTrades = [long.id, short.id]
  longRow : insert.row.longExchange = long.legAExchange ∧ insert.row.longSymbol = long.symbol ∧
    insert.row.longQty = long.legAQty
  shortRow : insert.row.shortExchange = short.legAExchange ∧ insert.row.shortSymbol = short.symbol ∧
    insert.row.shortQty = short.legAQty
  mirror : Mirror long short
  sides : long.Sided → short.Sided → long.legASide = "buy" ∧ short.legASide = "sell"

/-- The database after the commit of a call. -/
def Db.paired (d : Db) (inserts : List PositionInsert) : Db :=
  d.commit { newPositions := inserts }

structure Db.AutoPaired (d : Db) (userId : Nat) (inserts : List PositionInsert) : Prop where
  sound : ∀ insert ∈ inserts, ∃ long short, d.PairOf userId insert long short
  once : (inserts.flatMap PositionInsert.linkTrades).Nodup
  maximal : ∀ a ∈ (d.paired inserts).openUnwrapped userId,
    ∀ b ∈ (d.paired inserts).openUnwrapped userId, ¬Mirror a b
  stable : (d.paired inserts).autoPairInternalLegs userId = []

/-! ## The criteria -/

variable {a b : TradePosition} {userId : Nat}

theorem Mirror.symm (mirror : Mirror a b) : Mirror b a where
  symbol := mirror.symbol.symm
  side := mirror.side.symm
  venue := mirror.venue.symm
  positive := mirror.positive.symm
  notional := by
    rw [abs_sub_comm, add_comm]
    exact mirror.notional
  window := by
    rw [abs_sub_comm]
    exact mirror.window

theorem mirrorLegs_iff (symbol : Python.upper a.symbol = Python.upper b.symbol) :
    mirrorLegs a b = true ↔ Mirror a b := by
  have scaled (positive : 0 < a.notional ∧ 0 < b.notional) :
      |a.notional - b.notional| / ((a.notional + b.notional) / 2) ≤ symbolPairNotionalTolerance ↔
        |a.notional - b.notional| ≤ 12 / 100 * ((a.notional + b.notional) / 2) :=
    div_le_iff₀ (by linarith [positive.1, positive.2])
  simp only [mirrorLegs, Bool.and_eq_true, bne_iff_ne, decide_eq_true_eq, and_assoc]
  constructor
  · rintro ⟨side, venue, long, short, notional, window⟩
    exact ⟨symbol, side, venue, ⟨long, short⟩, (scaled ⟨long, short⟩).mp notional, window⟩
  · rintro ⟨-, side, venue, ⟨long, short⟩, notional, window⟩
    exact ⟨side, venue, long, short, (scaled ⟨long, short⟩).mpr notional, window⟩

theorem pairedPosition_linkTrades (userId : Nat) (a b : TradePosition) :
    (pairedPosition userId a b).linkTrades.Perm [a.id, b.id] := by
  unfold pairedPosition
  split
  case h_1 long short same =>
    split at same <;> cases same
    · exact List.Perm.refl _
    · exact List.Perm.swap _ _ _

/-! ## One bucket -/

section Bucket

variable {legs : List TradePosition} {paired : List Nat} {insert : PositionInsert}

/-- A new position wraps two matching legs that were not paired. -/
theorem pairBucket_sound (member : insert ∈ pairBucket userId legs paired) :
    ∃ a ∈ legs, ∃ b ∈ legs, a.id ∉ paired ∧ b.id ∉ paired ∧ mirrorLegs a b = true ∧
      insert = pairedPosition userId a b := by
  induction legs generalizing paired with
  | nil => cases member
  | cons first rest ih =>
      have later {paired' : List Nat} (more : paired ⊆ paired')
          (member : insert ∈ pairBucket userId rest paired') :
          ∃ a ∈ first :: rest, ∃ b ∈ first :: rest, a.id ∉ paired ∧ b.id ∉ paired ∧
            mirrorLegs a b = true ∧ insert = pairedPosition userId a b := by
        obtain ⟨a, aIn, b, bIn, aFree, bFree, mirror⟩ := ih member
        exact ⟨a, List.mem_cons_of_mem _ aIn, b, List.mem_cons_of_mem _ bIn,
          fun was => aFree (more was), fun was => bFree (more was), mirror⟩
      rw [pairBucket] at member
      split at member
      case isTrue => exact later (List.Subset.refl _) member
      case isFalse free =>
        split at member
        case h_2 => exact later (List.Subset.refl _) member
        case h_1 b found =>
          rcases List.mem_cons.mp member with rfl | rest_member
          · have own := List.find?_some found
            simp only [Bool.and_eq_true, Bool.not_eq_true', List.contains_eq_mem,
              decide_eq_false_iff_not] at own
            exact ⟨first, List.mem_cons_self, b,
              List.mem_cons_of_mem _ (List.mem_of_find?_eq_some found), by simpa using free,
              own.1, own.2, rfl⟩
          · exact later (List.subset_cons_self _ _) rest_member

theorem not_paired_of_mem {i : Nat}
    (member : i ∈ (pairBucket userId legs paired).flatMap PositionInsert.linkTrades) :
    i ∉ paired ∧ ∃ p ∈ legs, p.id = i := by
  obtain ⟨insert, made, link⟩ := List.mem_flatMap.mp member
  obtain ⟨a, aIn, b, bIn, aFree, bFree, -, rfl⟩ := pairBucket_sound made
  rcases List.mem_cons.mp ((pairedPosition_linkTrades userId a b).mem_iff.mp link) with rfl | last
  · exact ⟨aFree, a, aIn, rfl⟩
  · rw [List.mem_singleton] at last
    exact last ▸ ⟨bFree, b, bIn, rfl⟩

/-- No leg is in two new positions. -/
theorem pairBucket_once (ids : (legs.map fun p => p.id).Nodup) :
    ((pairBucket userId legs paired).flatMap PositionInsert.linkTrades).Nodup := by
  induction legs generalizing paired with
  | nil => exact List.nodup_nil
  | cons a rest ih =>
      obtain ⟨own, others⟩ := List.nodup_cons.mp ids
      rw [pairBucket]
      split
      case isTrue => exact ih others
      case isFalse =>
        split
        case h_2 => exact ih others
        case h_1 b found =>
          have inRest := List.mem_of_find?_eq_some found
          have differ : a.id ≠ b.id := fun same => own (List.mem_map.mpr ⟨b, inRest, same.symm⟩)
          rw [List.flatMap_cons]
          refine List.nodup_append'.mpr
            ⟨(pairedPosition_linkTrades userId a b).nodup_iff.mpr (by simpa using differ),
              ih others, ?_⟩
          intro i link later
          obtain ⟨free, p, member, rfl⟩ := not_paired_of_mem later
          rcases List.mem_cons.mp ((pairedPosition_linkTrades userId a b).mem_iff.mp link)
            with same | last
          · exact own (List.mem_map.mpr ⟨p, member, same⟩)
          · exact free (List.mem_cons.mpr (Or.inl (List.mem_singleton.mp last)))

/-- Of two legs that match, one is the first leg, or both are later. -/
theorem first_or_later {first : TradePosition} {rest : List TradePosition}
    (aIn : a ∈ first :: rest) (bIn : b ∈ first :: rest) (mirror : Mirror a b) :
    (a ∈ rest ∧ b ∈ rest) ∨ ∃ other ∈ rest, Mirror first other ∧
      ((first = a ∧ other = b) ∨ (first = b ∧ other = a)) := by
  rcases List.mem_cons.mp aIn with rfl | aRest
  · rcases List.mem_cons.mp bIn with rfl | bRest
    · exact absurd rfl mirror.side
    · exact Or.inr ⟨b, bRest, mirror, Or.inl ⟨rfl, rfl⟩⟩
  · rcases List.mem_cons.mp bIn with rfl | bRest
    · exact Or.inr ⟨a, aRest, mirror.symm, Or.inr ⟨rfl, rfl⟩⟩
    · exact Or.inl ⟨aRest, bRest⟩

/-- Of two legs that match, one was paired or is in a new position. -/
theorem pairBucket_maximal
    (symbol : ∀ p ∈ legs, ∀ p' ∈ legs, Python.upper p.symbol = Python.upper p'.symbol)
    (aIn : a ∈ legs) (bIn : b ∈ legs) (mirror : Mirror a b) :
    ∃ i, (i = a.id ∨ i = b.id) ∧
      i ∈ paired ++ (pairBucket userId legs paired).flatMap PositionInsert.linkTrades := by
  induction legs generalizing paired with
  | nil => cases aIn
  | cons first rest ih =>
      have deeper : ∀ paired' : List Nat, a ∈ rest → b ∈ rest → ∃ i, (i = a.id ∨ i = b.id) ∧
          i ∈ paired' ++ (pairBucket userId rest paired').flatMap PositionInsert.linkTrades :=
        fun _ aRest bRest => ih (fun p known p' known' => symbol p (List.mem_cons_of_mem _ known) p'
          (List.mem_cons_of_mem _ known')) aRest bRest
      have places := first_or_later aIn bIn mirror
      have first_is {i : Nat} (other : TradePosition) (which : (first = a ∧ other = b) ∨
          (first = b ∧ other = a)) (i_is : i = first.id ∨ i = other.id) : i = a.id ∨ i = b.id := by
        rcases which with ⟨rfl, rfl⟩ | ⟨rfl, rfl⟩
        · exact i_is
        · exact i_is.symm
      rw [pairBucket]
      split
      case isTrue was =>
        rcases places with ⟨aRest, bRest⟩ | ⟨other, -, -, which⟩
        · exact deeper paired aRest bRest
        · exact ⟨first.id, first_is other which (Or.inl rfl),
            List.mem_append_left _ (by simpa using was)⟩
      case isFalse =>
        split
        case h_1 taken found =>
          rw [List.flatMap_cons]
          rcases places with ⟨aRest, bRest⟩ | ⟨other, -, -, which⟩
          · obtain ⟨i, i_is, member⟩ := deeper (taken.id :: paired) aRest bRest
            refine ⟨i, i_is, ?_⟩
            have links := pairedPosition_linkTrades userId first taken
            rw [List.mem_append, List.mem_append, links.mem_iff]
            rcases List.mem_append.mp member with was | later
            · rcases List.mem_cons.mp was with rfl | before
              · exact Or.inr (Or.inl (List.mem_cons_of_mem _ List.mem_cons_self))
              · exact Or.inl before
            · exact Or.inr (Or.inr later)
          · refine ⟨first.id, first_is other which (Or.inl rfl), ?_⟩
            have links := pairedPosition_linkTrades userId first taken
            exact List.mem_append_right _ (List.mem_append_left _
              (links.mem_iff.mpr List.mem_cons_self))
        case h_2 missing =>
          rcases places with ⟨aRest, bRest⟩ | ⟨other, inRest, matching, which⟩
          · exact deeper paired aRest bRest
          · have refused := List.find?_eq_none.mp missing other inRest
            have same := symbol first List.mem_cons_self other (List.mem_cons_of_mem _ inRest)
            rw [(mirrorLegs_iff same).mpr matching] at refused
            exact ⟨other.id, first_is other which (Or.inr rfl),
              List.mem_append_left _ (by simpa using refused)⟩

end Bucket

/-! ## All buckets -/

section Call

variable {d : Db} {insert : PositionInsert} {inserts : List PositionInsert} {p : TradePosition}

theorem Db.autoPairInternalLegs_eq (d : Db) (userId : Nat) :
    d.autoPairInternalLegs userId =
      Grouping.perGroup (fun p : TradePosition => Python.upper p.symbol)
        (fun _ legs => pairBucket userId legs []) (d.openUnwrapped userId) := rfl

theorem Db.mem_autoPairInternalLegs : insert ∈ d.autoPairInternalLegs userId ↔
    ∃ symbol, insert ∈ pairBucket userId
      ((d.openUnwrapped userId).filter fun p => Python.upper p.symbol = symbol) [] := by
  rw [autoPairInternalLegs_eq]
  exact Grouping.mem_perGroup fun _ => rfl

theorem Db.openUnwrapped_ids (d : Db) (userId : Nat) :
    ((d.openUnwrapped userId).map fun p => p.id).Nodup :=
  d.tradePositions.nodup.sublist (List.filter_sublist.map key)

theorem Db.pairOf_of_mem (member : insert ∈ d.autoPairInternalLegs userId) :
    ∃ long short, d.PairOf userId insert long short := by
  obtain ⟨symbol, inBucket⟩ := mem_autoPairInternalLegs.mp member
  obtain ⟨a, aIn, b, bIn, -, -, matching, rfl⟩ := pairBucket_sound inBucket
  obtain ⟨aOpen, aSymbol⟩ := List.mem_filter.mp aIn
  obtain ⟨bOpen, bSymbol⟩ := List.mem_filter.mp bIn
  have same := (of_decide_eq_true aSymbol).trans (of_decide_eq_true bSymbol).symm
  have mirror := (mirrorLegs_iff same).mp matching
  by_cases buy : a.legASide = "buy"
  · refine ⟨a, b, ⟨aOpen, bOpen⟩, ?_, ?_, ?_, mirror, fun _ bSided => ⟨buy, ?_⟩⟩
    · simp [pairedPosition, buy]
    · simp [pairedPosition, buy]
    · simp [pairedPosition, buy]
    · exact bSided.resolve_left fun also => mirror.side (buy.trans also.symm)
  · refine ⟨b, a, ⟨bOpen, aOpen⟩, ?_, ?_, ?_, mirror.symm, fun bSided aSided => ?_⟩
    · simp [pairedPosition, buy]
    · simp [pairedPosition, buy]
    · simp [pairedPosition, buy]
    · have sell := aSided.resolve_left buy
      exact ⟨bSided.resolve_right fun also => mirror.side (sell.trans also.symm), sell⟩

/-- The buckets have no leg in common. -/
theorem Db.links_nodup (d : Db) (userId : Nat) :
    ((d.autoPairInternalLegs userId).flatMap PositionInsert.linkTrades).Nodup := by
  have ids := d.openUnwrapped_ids userId
  rw [autoPairInternalLegs_eq]
  unfold Grouping.perGroup
  rw [List.flatMap_assoc]
  refine List.nodup_flatMap.mpr ⟨fun symbol _ => ?_, ?_⟩
  · exact pairBucket_once (ids.sublist (List.filter_sublist.map _))
  · refine (Grouping.nodup_keys _ _).imp fun {symbol symbol'} differ i one other => differ ?_
    obtain ⟨-, p, member, rfl⟩ := not_paired_of_mem one
    obtain ⟨-, p', member', same⟩ := not_paired_of_mem other
    obtain ⟨known, own⟩ := List.mem_filter.mp member
    obtain ⟨known', own'⟩ := List.mem_filter.mp member'
    have row := List.inj_on_of_nodup_map ids known' known same
    rw [← of_decide_eq_true own, ← of_decide_eq_true own', row]

/-! ## The commit -/

theorem linked_eq_none_iff {seq : Nat} {links : PositionInsert → Bool} {current : Option Nat} :
    linked seq inserts links current = none ↔
      (∀ insert ∈ inserts, links insert = false) ∧ current = none := by
  unfold linked
  cases found : inserts.findIdx? links with
  | some i =>
      obtain ⟨inside, own, -⟩ := List.findIdx?_eq_some_iff_getElem.mp found
      simp only [reduceCtorEq, false_iff, not_and]
      exact fun none_links => absurd ((none_links _ (List.getElem_mem inside)).symm.trans own)
        Bool.false_ne_true
  | none => simpa using fun _ => List.findIdx?_eq_none_iff.mp found

theorem Db.trade_paired (inserts : List PositionInsert) (p : TradePosition) :
    (({ newPositions := inserts } : Txn).trade d.arbPositionSeq p).arbPositionId = none ↔
      p.id ∉ inserts.flatMap PositionInsert.linkTrades ∧ p.arbPositionId = none := by
  unfold Txn.trade
  simp only [Rewrite.id_run, linked_eq_none_iff, List.contains_eq_mem, decide_eq_false_iff_not,
    List.mem_flatMap, not_exists, not_and]

/-- The legs that are left are those of no new position. -/
theorem Db.mem_openUnwrapped_paired : p ∈ (d.paired inserts).openUnwrapped userId ↔
    p ∈ d.openUnwrapped userId ∧ p.id ∉ inserts.flatMap PositionInsert.linkTrades := by
  have rows : (d.paired inserts).tradePositions.rows =
      d.tradePositions.rows.map
        (({ newPositions := inserts } : Txn).trade d.arbPositionSeq) := rfl
  have kept : ∀ row : TradePosition, row.arbPositionId = none →
      row.id ∉ inserts.flatMap PositionInsert.linkTrades →
        ({ newPositions := inserts } : Txn).trade d.arbPositionSeq row = row := by
    intro row unwrapped free
    have link := (d.trade_paired inserts row).mpr ⟨free, unwrapped⟩
    unfold Txn.trade at link ⊢
    cases row
    simp_all
  unfold openUnwrapped Table.where_
  rw [rows, List.mem_filter, List.mem_filter, List.mem_map]
  simp only [Bool.and_eq_true, beq_iff_eq]
  constructor
  · rintro ⟨⟨row, member, rfl⟩, ⟨⟨user, unwrapped⟩, isOpen⟩, single⟩
    obtain ⟨free, was⟩ := (d.trade_paired inserts row).mp unwrapped
    rw [kept row was free] at user isOpen single ⊢
    exact ⟨⟨member, ⟨⟨user, was⟩, isOpen⟩, single⟩, free⟩
  · rintro ⟨⟨member, ⟨⟨user, unwrapped⟩, isOpen⟩, single⟩, free⟩
    exact ⟨⟨p, member, kept p unwrapped free⟩, ⟨⟨user, unwrapped⟩, isOpen⟩, single⟩

theorem Db.no_mirror_left {a b : TradePosition}
    (aLeft : a ∈ (d.paired (d.autoPairInternalLegs userId)).openUnwrapped userId)
    (bLeft : b ∈ (d.paired (d.autoPairInternalLegs userId)).openUnwrapped userId) :
    ¬Mirror a b := by
  intro mirror
  obtain ⟨aOpen, aFree⟩ := mem_openUnwrapped_paired.mp aLeft
  obtain ⟨bOpen, bFree⟩ := mem_openUnwrapped_paired.mp bLeft
  let bucket := (d.openUnwrapped userId).filter fun p =>
    Python.upper p.symbol = Python.upper a.symbol
  have aIn : a ∈ bucket := List.mem_filter.mpr ⟨aOpen, decide_eq_true rfl⟩
  have bIn : b ∈ bucket := List.mem_filter.mpr ⟨bOpen, decide_eq_true mirror.symbol.symm⟩
  have symbol : ∀ p ∈ bucket, ∀ p' ∈ bucket, Python.upper p.symbol = Python.upper p'.symbol :=
    fun p known p' known' => (of_decide_eq_true (List.mem_filter.mp known).2).trans
      (of_decide_eq_true (List.mem_filter.mp known').2).symm
  have one : ∃ i, (i = a.id ∨ i = b.id) ∧
      i ∈ [] ++ (pairBucket userId bucket []).flatMap PositionInsert.linkTrades :=
    pairBucket_maximal symbol aIn bIn mirror
  obtain ⟨i, which, link⟩ := one
  rw [List.nil_append] at link
  have linked : i ∈ (d.autoPairInternalLegs userId).flatMap PositionInsert.linkTrades := by
    obtain ⟨insert, made, own⟩ := List.mem_flatMap.mp link
    exact List.mem_flatMap.mpr ⟨insert, mem_autoPairInternalLegs.mpr ⟨_, made⟩, own⟩
  rcases which with rfl | rfl
  · exact aFree linked
  · exact bFree linked

/-- Where no two legs match, nothing is created. -/
theorem Db.autoPairInternalLegs_eq_nil
    (none : ∀ a ∈ d.openUnwrapped userId, ∀ b ∈ d.openUnwrapped userId, ¬Mirror a b) :
    d.autoPairInternalLegs userId = [] := by
  refine List.eq_nil_iff_forall_not_mem.mpr fun insert member => ?_
  obtain ⟨long, short, pair⟩ := pairOf_of_mem member
  exact none long pair.legs.1 short pair.legs.2 pair.mirror

/-- A call pairs legs that match and had no position, each once; it leaves no two that match; and a
second call finds nothing. -/
theorem Db.autoPairInternalLegs_autoPaired (d : Db) (userId : Nat) :
    d.AutoPaired userId (d.autoPairInternalLegs userId) where
  sound _ member := pairOf_of_mem member
  once := d.links_nodup userId
  maximal _ aLeft _ bLeft := no_mirror_left aLeft bLeft
  stable := autoPairInternalLegs_eq_nil fun _ aLeft _ bLeft => no_mirror_left aLeft bLeft

end Call

end Avalant
