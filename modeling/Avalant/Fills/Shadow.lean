import Avalant.Fills.Sync
import Mathlib.Data.List.Perm.Subperm

/-!
What the look for an existing row does to other positions.

It does not look at the wallet, and takes any row that was opened and closed at about the same
times for the one that is to be inserted. Rows of the same sync are not committed yet and shadow
nothing.
-/

namespace Avalant

open Relational Transition

namespace Fills

/-! ## A world with one wallet only -/

def Recorded.only (recorded : Recorded) (wallet : Option Nat) : Recorded where
  rows := recorded.rows.filter fun row => row.legAWalletId = wallet
  others := fun row member => recorded.others row (List.mem_filter.mp member).1

/-- What there would be of a sync if there were only one wallet. -/
def Sync.only (s : Sync) (wallet : Option Nat) : Sync where
  traded := s.traded.filter fun f => f.walletId = wallet
  recorded := s.recorded.only wallet
  pulled := s.pulled.filter fun f => f.walletId = wallet
  now := s.now

/-- The tables with all wallets, and those with one only. -/
structure Worlds where
  all : FillsDb := {}
  alone : FillsDb := {}

namespace Worlds

def sync (userId : Nat) (wallet : Option Nat) (x : Worlds) (s : Sync) : Option Worlds :=
  (x.all.sync userId s).map fun all => ⟨all, x.alone.synced userId (s.only wallet)⟩

/-- The positions of the wallet are the same in both. -/
def Same (wallet : Option Nat) (x : Worlds) : Prop :=
  x.all.positions.filter (fun row => row.legAWalletId = wallet) = x.alone.positions

end Worlds

/-- After a sync, each episode of the fills of the wallet that are read has a row of its own. -/
def FillsDb.OwnRows (userId : Nat) (wallet : Option Nat) (db : FillsDb) : Prop :=
  ∀ now, db.syncedAt = some now → ∀ g, g.walletId = wallet →
    (episodes userId g (window db.fills userId now g)).Subperm db.positions

def AlwaysUnshadowed (userId : Nat) (wallet : Option Nat) (ok : Worlds → Sync → Prop) : Prop :=
  ∀ x, Run (Worlds.sync userId wallet) ok {} x →
    x.Same wallet ∧ x.all.OwnRows userId wallet

/-- A sync in which the rows that are found for an episode of the wallet are its own, and are as many
as there are such episodes. -/
def FillsDb.Clear (userId : Nat) (wallet : Option Nat) (db : FillsDb) (s : Sync) : Prop :=
  let stored := db.positions ++ s.recorded.rows
  ∀ g, g.walletId = wallet →
    let found := episodes userId g (window (db.fills.insertAll s.pulled) userId s.now g)
    ∀ row ∈ found, (∀ other ∈ stored, other.existingFor row = true → other = row) ∧
      (row ∈ stored → found.count row ≤ stored.count row)

/-! ## Groups of one wallet -/

variable {userId : Nat} {wallet : Option Nat}

variable {fills alone : Timeline TradeFill.ts}

/-- The fills of one wallet that are read. -/
theorem queried_alone (same : fills.rows.filter (fun f => f.walletId = wallet) = alone.rows)
    (userId : Nat) (now : Time) :
    queried alone userId now =
      (queried fills userId now).filter fun f => f.walletId = wallet := by
  unfold queried Timeline.since
  rw [← same, List.filter_filter, List.filter_filter, List.filter_filter, List.filter_filter]
  refine List.filter_congr fun f _ => ?_
  cases decide (f.walletId = wallet)
  · simp
  · simp

/-- Whether a row is found for an episode does not depend on the rows of other wallets, if none of
those is. -/
theorem any_alone {stored : List PositionRow} {row : PositionRow}
    (own : ∀ other ∈ stored, other.existingFor row = true → other.legAWalletId = wallet) :
    ((stored.filter fun other => other.legAWalletId = wallet).any fun other =>
      other.existingFor row) = stored.any fun other => other.existingFor row := by
  refine Bool.eq_iff_iff.mpr ?_
  rw [List.any_eq_true, List.any_eq_true]
  constructor
  · intro found
    obtain ⟨other, member, same⟩ := found
    exact ⟨other, (List.mem_filter.mp member).1, same⟩
  · intro found
    obtain ⟨other, member, same⟩ := found
    exact ⟨other, List.mem_filter.mpr ⟨member, decide_eq_true (own other member same)⟩, same⟩

/-- What is inserted for a wallet is what is inserted where it is alone. -/
theorem reconstructPositions_alone
    (same : fills.rows.filter (fun f => f.walletId = wallet) = alone.rows)
    {stored : List PositionRow} {now : Time}
    (own : ∀ g, g.walletId = wallet → ∀ row ∈ episodes userId g (window fills userId now g),
      ∀ other ∈ stored, other.existingFor row = true → other.legAWalletId = wallet) :
    (reconstructPositions fills stored userId now).filter (fun row => row.legAWalletId = wallet) =
      reconstructPositions alone (stored.filter fun row => row.legAWalletId = wallet) userId
        now := by
  have group : ∀ g, ∀ row ∈ reconstructOne stored userId g (window fills userId now g),
      decide (row.legAWalletId = wallet) = decide (g.walletId = wallet) := by
    intro g row inserted
    have row_group := (of_episodes (List.mem_filter.mp inserted).1).group
    rw [← row_group]
    rfl
  have picked := Grouping.filter_perGroup (p := fun g : FillGroup => g.walletId = wallet) group
  refine Eq.trans picked ?_
  unfold reconstructPositions
  rw [queried_alone same]
  refine Grouping.perGroup_congr fun f member => ?_
  have wallets : f.walletId = wallet := of_decide_eq_true (List.mem_filter.mp member).2
  have read := Grouping.group_filter TradeFill.group
    (p := fun g : FillGroup => g.walletId = wallet) (k := f.group) (decide_eq_true wallets)
    (queried fills userId now)
  rw [read]
  refine List.filter_congr fun row emitted => ?_
  rw [any_alone (own f.group wallets row emitted)]

/-! ## A row for each episode -/

/-- Episodes that only rows of their own are found for, and of which there are as many rows, or
none. -/
theorem subperm_of_clear {stored : List PositionRow} {now : Time} {g : FillGroup}
    (clear : ∀ row ∈ episodes userId g (window fills userId now g),
      (∀ other ∈ stored, other.existingFor row = true → other = row) ∧
        (row ∈ stored → (episodes userId g (window fills userId now g)).count row ≤
          stored.count row)) :
    (episodes userId g (window fills userId now g)).Subperm
      (stored ++ reconstructPositions fills stored userId now) := by
  refine List.subperm_ext_iff.mpr fun row emitted => ?_
  obtain ⟨own, enough⟩ := clear row emitted
  rw [List.count_append]
  by_cases known : row ∈ stored
  · exact (enough known).trans (Nat.le_add_right _ _)
  · have fresh : (!stored.any fun other => other.existingFor row) = true := by
      rw [Bool.not_eq_true', List.any_eq_false]
      exact fun other member same => known (own other member same ▸ member)
    have all : (reconstructOne stored userId g (window fills userId now g)).count row =
        (episodes userId g (window fills userId now g)).count row :=
      List.count_filter fresh
    have among : (reconstructOne stored userId g (window fills userId now g)).Sublist
        (reconstructPositions fills stored userId now) :=
      Grouping.sublist_perGroup (fun _ => rfl) g
    have counted := among.count_le row
    omega

/-! ## Runs -/

/-- The tables of the wallet are the same in both, and its episodes have their rows. -/
structure Apart (userId : Nat) (wallet : Option Nat) (x : Worlds) : Prop where
  same : x.Same wallet
  fills : x.all.fills.rows.filter (fun f => f.walletId = wallet) = x.alone.fills.rows
  ownRows : x.all.OwnRows userId wallet

theorem apart_start (userId : Nat) (wallet : Option Nat) : Apart userId wallet {} :=
  ⟨rfl, rfl, fun _ never => nomatch never⟩

theorem Apart.sync {x x' : Worlds} {s : Sync} (apart : Apart userId wallet x)
    (clear : x.all.Clear userId wallet s) (synced : x.sync userId wallet s = some x') :
    Apart userId wallet x' := by
  obtain ⟨all, done, rfl⟩ := Option.map_eq_some_iff.mp synced
  obtain ⟨-, rfl⟩ := FillsDb.sync_cases done
  have fills := Timeline.filter_insertAll x.all.fills x.alone.fills apart.fills s.pulled
  refine ⟨?_, fills, fun now same g own => ?_⟩
  · have stored : (x.all.positions ++ s.recorded.rows).filter
        (fun row => row.legAWalletId = wallet) = x.alone.positions ++ (s.only wallet).recorded.rows := by
      rw [List.filter_append, apart.same]
      rfl
    have own : ∀ g, g.walletId = wallet →
        ∀ row ∈ episodes userId g (window (x.all.fills.insertAll s.pulled) userId s.now g),
          ∀ other ∈ x.all.positions ++ s.recorded.rows, other.existingFor row = true →
            other.legAWalletId = wallet := by
      intro g wallets row emitted other member found
      rw [(clear g wallets row emitted).1 other member found]
      exact (congrArg FillGroup.walletId (of_episodes emitted).group).trans wallets
    have inserted := reconstructPositions_alone fills own
    rw [stored] at inserted
    refine (List.filter_append _ _).trans ?_
    rw [stored]
    exact congrArg (x.alone.positions ++ (s.only wallet).recorded.rows ++ ·) inserted
  · cases same
    exact subperm_of_clear (clear g own)

theorem preserves_apart (userId : Nat) (wallet : Option Nat) :
    Preserves (Worlds.sync userId wallet) (fun x s => x.all.Clear userId wallet s)
      (Apart userId wallet) :=
  fun _ _ _ apart clear synced => apart.sync clear synced

/-- Where only its own rows are found for an episode, wallets do not shadow each other and each
episode has its own row. -/
theorem alwaysUnshadowed_of_clear (userId : Nat) (wallet : Option Nat) :
    AlwaysUnshadowed userId wallet fun x s => x.all.Clear userId wallet s := by
  intro x run
  have apart := run.invariant (preserves_apart userId wallet) (apart_start userId wallet)
  exact ⟨apart.same, apart.ownRows⟩

/-! ## Shadows -/

/-- One bitcoin bought, and sold a minute later. -/
def roundTrip (wallet : Nat) (opened : Time) : List TradeFill :=
  [{ FillsDb.bitcoin "buy" 0 with walletId := some wallet, ts := opened },
    { FillsDb.bitcoin "sell" 0 with walletId := some wallet, ts := opened + 60 }]

/-- Syncs that each find one more round trip. -/
def syncsOf (first second : List TradeFill) : List Sync :=
  [{ traded := first, pulled := first, now := 80 },
    { traded := second, pulled := second, now := 200 }]

/-- The row of wallet 1 shadows the position of wallet 2, and that of the first round trip of a
wallet the second one. -/
theorem alwaysUnshadowed_broken :
    (¬∀ userId wallet x, Run (Worlds.sync userId wallet) (fun _ _ => True) {} x → x.Same wallet) ∧
      ¬∀ userId wallet x, Run (Worlds.sync userId wallet) (fun _ _ => True) {} x →
        x.all.OwnRows userId wallet := by
  constructor
  · intro always
    have rows : (exec (Worlds.sync 1 (some 2)) {} (syncsOf (roundTrip 1 0) (roundTrip 2 10))).map
        (fun x => ((x.all.positions.filter fun row => row.legAWalletId = some 2).length,
          x.alone.positions.length)) = some (0, 1) := by decide +kernel
    obtain ⟨x, reached, counted⟩ := Option.map_eq_some_iff.mp rows
    have same := always 1 (some 2) x (Run.of_exec reached)
    obtain ⟨none, one⟩ := Prod.mk.inj counted
    rw [same, one] at none
    cases none
  · intro always
    let g : FillGroup := (FillsDb.bitcoin "buy" 0).group
    have rows : (exec (Worlds.sync 1 (some 1)) {} (syncsOf (roundTrip 1 0) (roundTrip 1 90))).map
        (fun x => (x.all.syncedAt, x.all.positions.length,
          (episodes 1 g (window x.all.fills 1 200 g)).length)) = some (some 200, 1, 2) := by
      decide +kernel
    obtain ⟨x, reached, counted⟩ := Option.map_eq_some_iff.mp rows
    obtain ⟨synced, counted⟩ := Prod.mk.inj counted
    obtain ⟨one, two⟩ := Prod.mk.inj counted
    have own := always 1 (some 1) x (Run.of_exec reached) 200 synced g rfl
    have bound := own.length_le
    omega

end Fills

end Avalant
