import Mathlib.Data.List.Sort
import Avalant.Wallets.Service

/-!
`services/wallet_quota.py`: what `enforce_for_user` does to the wallets when no
other request is in between.

The surplus goes out of the portfolio, the oldest wallets first; everything
else stays as it is.
-/

namespace Avalant

open Relational

namespace Wallets

variable {userId : Nat} {limits : WalletLimits} {db db' : WalletDb}

/-- `enforce_for_user`. -/
def enforceForUser (userId : Nat) (limits : WalletLimits) (db : WalletDb) : WalletDb :=
  (surplusWallets userId limits db).foldl (fun db w => db.set w.id (.diff w (enforced w))) db

/-! ## The rows after it -/

theorem apply_diff_enforced (w : StoredWallet) : (WalletSet.diff w (enforced w)).apply w = enforced w := by
  unfold WalletSet.apply WalletSet.diff
  rw [Python.dirty_getD_loaded, Python.dirty_getD_loaded]
  unfold enforced
  split
  · rfl
  · rfl

theorem id_enforced (w : StoredWallet) : (enforced w).id = w.id := by
  unfold enforced
  split
  · rfl
  · rfl

theorem eq_of_id {w w' : StoredWallet} (stored : w ∈ db.wallets.rows) (stored' : w' ∈ db.wallets.rows)
    (same : w.id = w'.id) : w = w' :=
  List.inj_on_of_nodup_map db.wallets.nodup stored stored' same

/-- The rows that were loaded are written, each once. -/
theorem rows_enforce {surplus : List StoredWallet} (stored : ∀ w ∈ surplus, w ∈ db.wallets.rows)
    (nodup : (surplus.map fun w => w.id).Nodup) :
    (surplus.foldl (fun db w => db.set w.id (.diff w (enforced w))) db).wallets.rows =
      db.wallets.rows.map fun row => if row ∈ surplus then enforced row else row := by
  induction surplus generalizing db with
  | nil => simp
  | cons w surplus ih =>
      obtain ⟨fresh, nodup⟩ := List.nodup_cons.mp nodup
      have mine := stored w List.mem_cons_self
      have other : ∀ w' ∈ surplus, w'.id ≠ w.id := fun w' member same =>
        fresh (List.mem_map.mpr ⟨w', member, same⟩)
      have written : (db.set w.id (.diff w (enforced w))).wallets.rows =
          db.wallets.rows.map fun row => if row = w then enforced row else row := by
        refine List.map_congr_left fun row member => ?_
        by_cases same : row = w
        · subst same
          rw [if_pos rfl, if_pos rfl]
          exact apply_diff_enforced row
        · rw [if_neg same, if_neg fun id => same (eq_of_id member mine id)]
      have kept : ∀ w' ∈ surplus, w' ∈ (db.set w.id (.diff w (enforced w))).wallets.rows := by
        intro w' member
        rw [written]
        refine List.mem_map.mpr ⟨w', stored w' (List.mem_cons_of_mem w member), ?_⟩
        exact if_neg fun same => other w' member (by rw [same])
      rw [List.foldl_cons, ih kept nodup, written, List.map_map]
      refine List.map_congr_left fun row member => ?_
      by_cases same : row = w
      · subst same
        have out : enforced row ∉ surplus := fun inside =>
          other _ inside (id_enforced row)
        simp [out]
      · simp [same]

theorem mem_portfolioWallets {w : StoredWallet} :
    w ∈ portfolioWallets db userId ↔ w ∈ db.wallets.rows ∧ countsInPortfolio userId w = true := by
  unfold portfolioWallets Table.where_
  rw [List.mem_mergeSort, List.mem_filter]

theorem nodup_portfolioWallets (db : WalletDb) (userId : Nat) :
    ((portfolioWallets db userId).map fun w => w.id).Nodup := by
  have perm : (portfolioWallets db userId).Perm (db.wallets.where_ (countsInPortfolio userId)) :=
    List.mergeSort_perm _ _
  have nodup : ((db.wallets.where_ (countsInPortfolio userId)).map fun w => w.id).Nodup :=
    db.wallets.nodup.sublist (List.filter_sublist.map _)
  exact (perm.map _).nodup_iff.mpr nodup

/-- How many portfolio wallets are too many. -/
def surplusCount (userId : Nat) (limits : WalletLimits) (db : WalletDb) : Nat :=
  if isUnlimited limits.portfolioLimit then 0
  else ((portfolioWallets db userId).length - limits.portfolioLimit).toNat

theorem surplusWallets_eq (userId : Nat) (limits : WalletLimits) (db : WalletDb) :
    surplusWallets userId limits db =
      (portfolioWallets db userId).take (surplusCount userId limits db) := by
  unfold surplusWallets surplusCount
  dsimp only
  cases isUnlimited limits.portfolioLimit with
  | true => simp
  | false =>
      rw [Bool.false_or, if_neg Bool.false_ne_true]
      split
      case isTrue within =>
        have none : ((portfolioWallets db userId).length - limits.portfolioLimit).toNat = 0 := by
          have := of_decide_eq_true within
          omega
        rw [none, List.take_zero]
      case isFalse => rfl

theorem rows_enforceForUser (userId : Nat) (limits : WalletLimits) (db : WalletDb) :
    (enforceForUser userId limits db).wallets.rows = db.wallets.rows.map fun row =>
      if row ∈ surplusWallets userId limits db then enforced row else row := by
  refine rows_enforce (fun w member => ?_) ?_
  · rw [surplusWallets_eq] at member
    exact (mem_portfolioWallets.mp (List.mem_of_mem_take member)).1
  · rw [surplusWallets_eq, List.map_take]
    exact (nodup_portfolioWallets db userId).sublist (List.take_sublist _ _)

/-! ## What is left of the portfolio -/

theorem counts_enforced (userId : Nat) (w : StoredWallet) :
    countsInPortfolio userId (enforced w) = false := by
  unfold countsInPortfolio enforced
  split
  · simp [inPortfolio]
  · simp

/-- The rows of a list that are not among its first ones are the later ones. -/
theorem mem_drop_iff {α : Type*} {xs : List α} (nodup : xs.Nodup) {k : Nat} {x : α} :
    x ∈ xs.drop k ↔ x ∈ xs ∧ x ∉ xs.take k := by
  have whole := List.take_append_drop k xs
  have apart := (List.nodup_append.mp (whole.symm ▸ nodup)).2.2
  constructor
  · intro late
    exact ⟨List.mem_of_mem_drop late, fun early => apart x early x late rfl⟩
  · intro given
    obtain ⟨member, late⟩ := given
    rw [← whole, List.mem_append] at member
    exact member.resolve_left late

/-- The newest wallets stay, and no other. -/
theorem mem_portfolioWallets_enforce {w : StoredWallet} :
    w ∈ portfolioWallets (enforceForUser userId limits db) userId ↔
      w ∈ (portfolioWallets db userId).drop (surplusCount userId limits db) := by
  have nodup := (nodup_portfolioWallets db userId).of_map
  rw [mem_drop_iff nodup, ← surplusWallets_eq, mem_portfolioWallets, rows_enforceForUser,
    List.mem_map, mem_portfolioWallets]
  constructor
  · intro given
    obtain ⟨⟨row, stored, same⟩, counts⟩ := given
    split at same
    · rw [← same, counts_enforced] at counts
      cases counts
    case isFalse kept =>
      subst same
      exact ⟨⟨stored, counts⟩, kept⟩
  · intro given
    obtain ⟨⟨stored, counts⟩, kept⟩ := given
    exact ⟨⟨w, stored, if_neg kept⟩, counts⟩

theorem portfolioCount_eq (db : WalletDb) (userId : Nat) :
    portfolioCount db userId = (portfolioWallets db userId).length := by
  unfold portfolioCount portfolioWallets Table.where_
  rw [List.length_mergeSort, List.countP_eq_length_filter]

/-- The number of portfolio wallets comes down to the limit, and no further. -/
theorem portfolioCount_enforce (userId : Nat) (limits : WalletLimits) (db : WalletDb) :
    portfolioCount (enforceForUser userId limits db) userId =
      portfolioCount db userId - surplusCount userId limits db := by
  have nodup := (nodup_portfolioWallets db userId).of_map
  have nodup' := (nodup_portfolioWallets (enforceForUser userId limits db) userId).of_map
  have perm : (portfolioWallets (enforceForUser userId limits db) userId).Perm
      ((portfolioWallets db userId).drop (surplusCount userId limits db)) :=
    (List.perm_ext_iff_of_nodup nodup' (nodup.sublist (List.drop_sublist _ _))).mpr
      fun w => mem_portfolioWallets_enforce
  rw [portfolioCount_eq, portfolioCount_eq, perm.length_eq, List.length_drop]

theorem portfolioCount_enforce_le (bounded : 0 ≤ limits.portfolioLimit) :
    (portfolioCount (enforceForUser userId limits db) userId : ℤ) ≤ limits.portfolioLimit := by
  rw [portfolioCount_enforce, surplusCount, isUnlimited, if_neg (by simpa using bounded),
    ← portfolioCount_eq]
  omega

/-! ## What stays as it is -/

def rowsOf (db : WalletDb) (userId : Nat) : List StoredWallet :=
  db.wallets.rows.filter fun w => w.userId = userId

theorem userId_of_surplus {w : StoredWallet} (member : w ∈ surplusWallets userId limits db) :
    w.userId = userId := by
  rw [surplusWallets_eq] at member
  have counts := (mem_portfolioWallets.mp (List.mem_of_mem_take member)).2
  unfold countsInPortfolio at counts
  exact (of_decide_eq_true counts).1

/-- The wallets of the other users are not touched. -/
theorem rowsOf_enforce {userId' : Nat} (other : userId' ≠ userId) :
    rowsOf (enforceForUser userId limits db) userId' = rowsOf db userId' := by
  unfold rowsOf
  rw [rows_enforceForUser, List.filter_map]
  have owner : ∀ row : StoredWallet, (enforced row).userId = row.userId := by
    intro row
    unfold enforced
    split
    · rfl
    · rfl
  have test : (fun row : StoredWallet => decide (row.userId = userId')) ∘
      (fun row => if row ∈ surplusWallets userId limits db then enforced row else row) =
        fun row => decide (row.userId = userId') := by
    funext row
    simp only [Function.comp_apply]
    split
    · rw [owner]
    · rfl
  rw [test]
  refine (List.map_congr_left fun row member => ?_).trans (List.map_id _)
  have mine : row.userId = userId' := by simpa using (List.mem_filter.mp member).2
  exact if_neg fun inside => other (mine.symm.trans (userId_of_surplus inside))

/-- The portfolio of a user is a matter of the user's rows. -/
theorem portfolioWallets_of_rowsOf (same : rowsOf db' userId = rowsOf db userId) :
    portfolioWallets db' userId = portfolioWallets db userId := by
  have filtered : ∀ db : WalletDb, db.wallets.where_ (countsInPortfolio userId) =
      (rowsOf db userId).filter (countsInPortfolio userId) := by
    intro db
    unfold Table.where_ rowsOf
    rw [List.filter_filter]
    refine List.filter_congr fun w _ => ?_
    unfold countsInPortfolio
    by_cases mine : w.userId = userId
    · simp [mine]
    · simp [mine]
  unfold portfolioWallets
  rw [filtered, filtered, same]

/-- A row is still there, and if it was a key to trade with, it still is. -/
def StillTrades (db db' : WalletDb) : Prop :=
  ∀ w ∈ db.wallets.rows, ∃ w' ∈ db'.wallets.rows, w'.id = w.id ∧ w'.typeValue = w.typeValue ∧
    (w.isArchived = false ∧ inScreener w.purpose = true →
      w'.isArchived = false ∧ inScreener w'.purpose = true)

theorem StillTrades.refl (db : WalletDb) : StillTrades db db :=
  fun w stored => ⟨w, stored, rfl, rfl, id⟩

theorem StillTrades.trans {db'' : WalletDb} (first : StillTrades db db')
    (second : StillTrades db' db'') : StillTrades db db'' := by
  intro w stored
  obtain ⟨w', stored', id, value, trades⟩ := first w stored
  obtain ⟨w'', stored'', id', value', trades'⟩ := second w' stored'
  exact ⟨w'', stored'', id'.trans id, value'.trans value, fun before => trades' (trades before)⟩

theorem stillTrades_enforce (userId : Nat) (limits : WalletLimits) (db : WalletDb) :
    StillTrades db (enforceForUser userId limits db) := by
  intro w stored
  rw [rows_enforceForUser]
  refine ⟨_, List.mem_map.mpr ⟨w, stored, rfl⟩, ?_⟩
  split
  case isTrue surplus =>
    unfold enforced
    split
    case isTrue => exact ⟨rfl, rfl, fun _ => ⟨rfl, rfl⟩⟩
    case isFalse notBoth =>
      refine ⟨rfl, rfl, fun before => ?_⟩
      rw [surplusWallets_eq] at surplus
      have counts := (mem_portfolioWallets.mp (List.mem_of_mem_take surplus)).2
      unfold countsInPortfolio at counts
      obtain ⟨-, -, portfolio⟩ := of_decide_eq_true counts
      have trades := before.2
      cases purpose : w.purpose <;> simp_all [inScreener, inPortfolio]
  case isFalse => exact ⟨rfl, rfl, id⟩

end Wallets

end Avalant
