import Avalant.Fills.Reconstruct
import Avalant.Lib.Run

/-!
Syncs of the fills of a user, one after the other.

Between two syncs trades happen at the venues. A sync pulls some fills into the table, and walks
what the table has of the last days. The walk starts flat at the cutoff, so what it finds is what a
walk over everything finds as long as the cutoff does not cut through a position.
-/

namespace Avalant

open Relational Transition

namespace Fills

/-- What has been traded at the venues, and the tables. -/
structure FillsDb where
  history : List TradeFill := []
  fills : Timeline TradeFill.ts := Timeline.empty
  positions : List PositionRow := []
  syncedAt : Option Time := none

/-- Rows that other services record. -/
structure Recorded where
  rows : List PositionRow
  others : ∀ row ∈ rows, row.source ≠ .fillsBackfill

def Recorded.none : Recorded := ⟨[], fun _ member => nomatch member⟩

/-- What is traded and recorded up to a sync, the fills that it adds to the table, and its time. -/
structure Sync where
  traded : List TradeFill
  recorded : Recorded := .none
  pulled : List TradeFill
  now : Time

namespace FillsDb

/-- What a sync leaves: `_sync_one` for the wallets, and `_reconstruct_positions`. -/
def synced (userId : Nat) (db : FillsDb) (s : Sync) : FillsDb :=
  let fills := db.fills.insertAll s.pulled
  let positions := db.positions ++ s.recorded.rows
  { history := db.history ++ s.traded
    fills
    positions := positions ++ reconstructPositions fills positions userId s.now
    syncedAt := some s.now }

/-- A sync; the clock does not go back. -/
def sync (userId : Nat) (db : FillsDb) (s : Sync) : Option FillsDb :=
  if db.syncedAt.any fun earlier => s.now < earlier then none else some (db.synced userId s)

/-- What the user has traded in a group, in the order of the venue. -/
def historyOf (db : FillsDb) (userId : Nat) (g : FillGroup) : List TradeFill :=
  db.history.filter fun f => f.userId = userId ∧ f.group = g

/-! ## Genuine rows -/

/-- Each row that was inserted is an episode of all that was traded in its group. -/
def Genuine (userId : Nat) (db : FillsDb) : Prop :=
  ∀ row ∈ db.positions, row.source = .fillsBackfill →
    row ∈ episodes userId row.group (db.historyOf userId row.group)

/-- After a sync, a sync to which nothing is new inserts nothing. -/
def Quiet (userId : Nat) (ok : FillsDb → Sync → Prop) (db : FillsDb) : Prop :=
  db.syncedAt.isSome = true → ∀ recorded now db', ok db ⟨[], recorded, [], now⟩ →
    db.sync userId ⟨[], recorded, [], now⟩ = some db' →
      db'.positions = db.positions ++ recorded.rows

def AlwaysGenuine (userId : Nat) (ok : FillsDb → Sync → Prop) : Prop :=
  ∀ db, Run (sync userId) ok {} db → db.Genuine userId ∧ db.Quiet userId ok

/-! ## The condition -/

/-- The fills that are read are the last ones of the history, and where they begin the group is flat,
or they close neither the position that is held there nor one they open themselves. -/
def UncutAt (userId : Nat) (g : FillGroup) (history window : List TradeFill) : Prop :=
  ∃ before, history = before ++ window ∧
    ((Transducer.final (Walk.step userId g) {} before).netQty = 0 ∨
      (Walk.closes 0 (window.map TradeFill.signed) = false ∧
        Walk.closes (Transducer.final (Walk.step userId g) {} before).netQty
          (window.map TradeFill.signed) = false))

/-- A sync that cuts through no position. -/
def Uncut (userId : Nat) (db : FillsDb) (sync : Sync) : Prop :=
  ∀ g, UncutAt userId g
    ((db.history ++ sync.traded).filter fun f => f.userId = userId ∧ f.group = g)
    (window (db.fills.insertAll sync.pulled) userId sync.now g)

/-! ## Episodes of a window -/

variable {userId : Nat} {g : FillGroup} {before fills : List TradeFill}

theorem wellFormed_final (userId : Nat) (g : FillGroup) (fills : List TradeFill) :
    (Transducer.final (Walk.step userId g) {} fills).WellFormed :=
  Transducer.final_invariant (I := Walk.WellFormed) Walk.wellFormed_step Walk.wellFormed_start fills

/-- A walk from flat emits what the walk over everything emits from there on. -/
theorem episodes_of_uncut
    (uncut : (Transducer.final (Walk.step userId g) {} before).netQty = 0 ∨
      (Walk.closes 0 (fills.map TradeFill.signed) = false ∧
        Walk.closes (Transducer.final (Walk.step userId g) {} before).netQty
          (fills.map TradeFill.signed) = false)) :
    episodes userId g fills =
      Transducer.output (Walk.step userId g)
        (Transducer.final (Walk.step userId g) {} before) fills := by
  have wellFormed := wellFormed_final userId g before
  rcases uncut with flat | ⟨fresh, held⟩
  · have alike : Walk.Alike {} (Transducer.final (Walk.step userId g) {} before) :=
      Or.inr ⟨⟨rfl, rfl⟩, flat, wellFormed.flat flat⟩
    exact Transducer.output_eq_of_alike Walk.alike_step alike fills
  · rw [Walk.output_of_not_closes wellFormed held]
    exact Walk.output_of_not_closes Walk.wellFormed_start fresh

/-- The episodes of an uncut window are episodes of the history. -/
theorem UncutAt.genuine {history window : List TradeFill} (uncut : UncutAt userId g history window)
    {row : PositionRow} (emitted : row ∈ episodes userId g window) :
    row ∈ episodes userId g history := by
  obtain ⟨before, split, flat⟩ := uncut
  rw [episodes_of_uncut flat] at emitted
  rw [split, episodes, Transducer.output_append]
  exact List.mem_append_right _ emitted

/-! ## What a sync inserts -/

theorem mem_reconstructPositions {fills : Timeline TradeFill.ts} {positions : List PositionRow}
    {now : Time} {row : PositionRow} :
    row ∈ reconstructPositions fills positions userId now ↔
      ∃ g, row ∈ episodes userId g (window fills userId now g) ∧
        ∀ stored ∈ positions, stored.existingFor row = false := by
  have empty : ∀ g, reconstructOne positions userId g [] = [] := fun _ => rfl
  refine (Grouping.mem_perGroup empty).trans (exists_congr fun g => ?_)
  refine List.mem_filter.trans (and_congr_right fun _ => ?_)
  rw [Bool.not_eq_true', List.any_eq_false]
  exact forall₂_congr fun _ _ => Bool.eq_false_iff.symm

variable {db db' : FillsDb} {s : Sync}

theorem sync_cases (synced : db.sync userId s = some db') :
    db.syncedAt.any (fun earlier => s.now < earlier) = false ∧ db' = db.synced userId s := by
  unfold sync at synced
  split at synced
  · cases synced
  case isFalse forward =>
    cases synced
    exact ⟨Bool.eq_false_iff.mpr forward, rfl⟩

theorem historyOf_sync (synced : db.sync userId s = some db') (g : FillGroup) :
    db'.historyOf userId g =
      db.historyOf userId g ++ s.traded.filter fun f => f.userId = userId ∧ f.group = g := by
  obtain ⟨-, rfl⟩ := sync_cases synced
  exact List.filter_append _ _

/-- What is read later is a suffix of what is read now. -/
theorem window_suffix (fills : Timeline TradeFill.ts) (userId : Nat) {now later : Time}
    (past : now ≤ later) (g : FillGroup) :
    ∃ dropped, window fills userId now g = dropped ++ window fills userId later g := by
  have ordered := fills.ordered.filter fun f => f.userId = userId
  have cut : cutoff now ≤ cutoff later := sub_le_sub_right past _
  obtain ⟨dropped, suffix⟩ := Timeline.since_suffix ordered cut
  refine ⟨dropped.filter fun f => f.group = g, ?_⟩
  unfold window queried
  rw [suffix, List.filter_append]

/-! ## The invariant -/

/-- Rows are genuine, and each episode that the history has since the cutoff of the last sync has a
row that is found for it. -/
structure Faithful (userId : Nat) (db : FillsDb) : Prop where
  genuine : db.Genuine userId
  covered : ∀ now, db.syncedAt = some now → ∀ g, ∃ before,
    db.historyOf userId g = before ++ window db.fills userId now g ∧
      ∀ row ∈ Transducer.output (Walk.step userId g)
        (Transducer.final (Walk.step userId g) {} before) (window db.fills userId now g),
        ∃ stored ∈ db.positions, stored.existingFor row = true

theorem faithful_start : ({} : FillsDb).Faithful userId where
  genuine := fun _ none => nomatch none
  covered := fun _ never => nomatch never

theorem Faithful.sync (faithful : db.Faithful userId) (uncut : db.Uncut userId s)
    (synced : db.sync userId s = some db') : db'.Faithful userId := by
  have history := historyOf_sync synced
  obtain ⟨-, rfl⟩ := sync_cases synced
  refine ⟨fun row member inserted => ?_, fun now same g => ?_⟩
  · rw [history]
    rcases List.mem_append.mp member with there | new
    · rcases List.mem_append.mp there with old | other
      · exact Transducer.output_prefix _ (faithful.genuine row old inserted)
      · exact absurd inserted (s.recorded.others row other)
    · obtain ⟨g, emitted, -⟩ := mem_reconstructPositions.mp new
      have own := (of_episodes emitted).group
      rw [own]
      have cut := uncut g
      rw [List.filter_append] at cut
      exact cut.genuine emitted
  · cases same
    obtain ⟨before, split, flat⟩ := uncut g
    rw [List.filter_append] at split
    refine ⟨before, (history g).trans split, fun row walked => ?_⟩
    have emitted : row ∈ episodes userId g
        (window (db.fills.insertAll s.pulled) userId s.now g) := by
      rw [episodes_of_uncut flat]
      exact walked
    by_cases found : ∃ stored ∈ db.positions ++ s.recorded.rows, stored.existingFor row = true
    · obtain ⟨stored, member, same⟩ := found
      exact ⟨stored, List.mem_append_left _ member, same⟩
    · have fresh : ∀ stored ∈ db.positions ++ s.recorded.rows, stored.existingFor row = false :=
        fun stored member => Bool.eq_false_iff.mpr fun same => found ⟨stored, member, same⟩
      have inserted := mem_reconstructPositions.mpr ⟨g, emitted, fresh⟩
      exact ⟨row, List.mem_append_right _ inserted, (of_episodes emitted).existingFor_self⟩

/-- Nothing new, nothing inserted. -/
theorem Faithful.quiet (faithful : db.Faithful userId) {ok : FillsDb → Sync → Prop}
    (meets : ∀ s, ok db s → db.Uncut userId s) : db.Quiet userId ok := by
  intro before recorded now db' admitted synced
  obtain ⟨earlier, last⟩ := Option.isSome_iff_exists.mp before
  have uncut := meets _ admitted
  obtain ⟨forward, rfl⟩ := sync_cases synced
  have later : earlier ≤ now := by
    rw [last] at forward
    simpa using forward
  have none : reconstructPositions db.fills (db.positions ++ recorded.rows) userId now = [] := by
    refine List.eq_nil_iff_forall_not_mem.mpr fun row inserted => ?_
    obtain ⟨g, emitted, fresh⟩ := mem_reconstructPositions.mp inserted
    obtain ⟨before, split, found⟩ := faithful.covered earlier last g
    obtain ⟨dropped, suffix⟩ := window_suffix db.fills userId later g
    obtain ⟨before', split', flat⟩ := uncut g
    have same : before' = before ++ dropped := by
      have whole : before' ++ window db.fills userId now g =
          (before ++ dropped) ++ window db.fills userId now g := by
        rw [List.append_assoc, ← suffix, ← split]
        exact split'.symm.trans (by rw [List.append_nil]; rfl)
      exact List.append_cancel_right whole
    have emitted' : row ∈ Transducer.output (Walk.step userId g)
        (Transducer.final (Walk.step userId g) {} before) (window db.fills userId earlier g) := by
      rw [suffix, Transducer.output_append, ← Transducer.final_append, ← same]
      exact List.mem_append_right _ (episodes_of_uncut flat ▸ emitted)
    obtain ⟨stored, member, known⟩ := found row emitted'
    rw [fresh stored (List.mem_append_left _ member)] at known
    cases known
  change db.positions ++ recorded.rows ++
    reconstructPositions db.fills (db.positions ++ recorded.rows) userId now = _
  rw [none, List.append_nil]

theorem preserves_faithful (userId : Nat) :
    Preserves (FillsDb.sync userId) (Uncut userId) (Faithful userId) :=
  fun _ _ _ faithful uncut synced => faithful.sync uncut synced

/-- Where no sync cuts through a position, the rows agree with the whole history. -/
theorem alwaysGenuine_of_uncut (userId : Nat) : AlwaysGenuine userId (Uncut userId) := by
  intro db run
  have faithful := run.invariant (preserves_faithful userId) faithful_start
  exact ⟨faithful.genuine, faithful.quiet fun _ uncut => uncut⟩

/-! ## A cut -/

/-- A fill of one bitcoin at 100. -/
def bitcoin (side : String) (day : Time) : TradeFill where
  userId := 1
  walletId := some 1
  exchange := "binance"
  market := "futures"
  symbol := "BTC"
  side := some side
  qty := 1
  price := 100
  ts := day * 86400

/-- Bought on day 0, sold on day 5 and bought again on day 6. -/
def threeFills : List TradeFill :=
  [bitcoin "buy" 0, bitcoin "sell" 5, bitcoin "buy" 6]

/-- A sync on day 7, and one on day 10 to which nothing is new. -/
def cutSyncs : List Sync :=
  [{ traded := threeFills, pulled := threeFills, now := 7 * 86400 },
    { traded := [], pulled := [], now := 10 * 86400 }]

/-- The second sync inserts a short that there never was. -/
theorem alwaysGenuine_broken :
    ¬∀ userId, AlwaysGenuine userId fun _ _ => True := by
  intro always
  have inserted : (exec (FillsDb.sync 1) {} cutSyncs).map (fun db =>
      db.positions.all fun row => row.source = .fillsBackfill →
        row ∈ episodes 1 row.group (db.historyOf 1 row.group)) = some false := by decide +kernel
  obtain ⟨db, reached, phantom⟩ := Option.map_eq_some_iff.mp inserted
  have genuine := (always 1 db (Run.of_exec reached)).1
  obtain ⟨row, member, foreign⟩ := List.all_eq_false.mp phantom
  exact foreign (decide_eq_true fun backfilled => genuine row member backfilled)

end FillsDb

end Fills

end Avalant
