import Avalant.Db.Session

/-!
Transactions and their effect on the tables.

A `Txn` is what one commit does: a row-wise rewrite for each table it updates
(its bulk statements followed by its SET clauses) and the rows it inserts. A
rewrite keeps primary keys by its type, so every table stays a table.
-/

namespace Avalant

open Relational

/-- A new `arb_positions` row, with the rows that get its id in
`arb_position_id` in the same transaction. -/
structure PositionInsert where
  row : ArbPosition
  linkTrigger : Option Nat := none
  linkTrades : List Nat := []
  deriving DecidableEq, Repr

/-- A new `trade_positions` row, with the order that gets its id in `position_id`. -/
structure TradeInsert where
  row : TradePosition
  backlink : Option Nat := none
  deriving DecidableEq, Repr

structure Db where
  wallets : Table Wallet
  tradeOrders : Table TradeOrder
  tradePositions : Table TradePosition
  arbPositions : Table ArbPosition
  triggers : Table ArbTriggerOrder
  tradePositionSeq : Nat
  arbPositionSeq : Nat
  triggerSeq : Nat

/-- An update of every row of a table that keeps the primary key. -/
structure Rewrite (α : Type*) [Keyed α] where
  run : α → α
  keeps : ∀ row, key (run row) = key row

/-- No row changes. -/
def Rewrite.id (α : Type*) [Keyed α] : Rewrite α := ⟨fun row => row, fun _ => rfl⟩

instance (α : Type*) [Keyed α] : Inhabited (Rewrite α) := ⟨Rewrite.id α⟩

@[simp] theorem Rewrite.id_run {α : Type*} [Keyed α] (row : α) : (Rewrite.id α).run row = row :=
  rfl

@[simp] theorem Rewrite.map_id {α : Type*} [Keyed α] (row : Option α) :
    row.map (Rewrite.id α).run = row := by
  cases row <;> rfl

/-- Per-row SET clauses. -/
def setClauses {α σ : Type*} [Keyed α] (sets : List (Nat × σ)) (apply : σ → α → α)
    (keeps : ∀ set row, key (apply set row) = key row) : Rewrite α where
  run row :=
    match sets.lookup (key row) with
    | some set => apply set row
    | none => row
  keeps row := by
    split
    · exact keeps _ row
    · rfl

/-- A flush of the rows a query selected rewrites exactly those rows. -/
theorem setClauses_where {α σ : Type*} [Keyed α] {t : Table α} {k : Nat} {row : α}
    (p : α → Bool) (set : α → σ) (apply : σ → α → α)
    (keeps : ∀ set row, key (apply set row) = key row) (found : t.get? k = some row) :
    (setClauses ((t.where_ p).map fun row => (key row, set row)) apply keeps).run row =
      if p row then apply (set row) row else row := by
  have keyed := Table.key_of_get? found
  simp only [setClauses, Table.lookup_where]
  rw [keyed, found]
  by_cases selected : p row = true
  · rw [Option.filter_some_pos selected, if_pos selected]
    rfl
  · rw [Option.filter_some_eq_none.mpr selected, if_neg selected]
    rfl

/-- One transaction. -/
structure Txn where
  orders : Rewrite ArbTriggerOrder := Rewrite.id _
  positions : Rewrite ArbPosition := Rewrite.id _
  trades : Rewrite TradePosition := Rewrite.id _
  newPositions : List PositionInsert := []
  newOrders : List ArbTriggerOrder := []
  newTrades : List TradeInsert := []

/-! ## Inserted rows -/

/-- Give inserted rows the next ids of a sequence. -/
def numbered {α β : Type*} (seq : Nat) (assign : Nat → α → β) (rows : List α) : List β :=
  rows.mapIdx fun i row => assign (seq + i) row

theorem mem_numbered {α β : Type*} {seq : Nat} {assign : Nat → α → β} {rows : List α} {b : β} :
    b ∈ numbered seq assign rows ↔
      ∃ i, ∃ row, rows[i]? = some row ∧ b = assign (seq + i) row := by
  unfold numbered
  rw [List.mem_iff_getElem?]
  constructor
  · intro listed
    rcases listed with ⟨i, at_i⟩
    rw [List.getElem?_mapIdx, Option.map_eq_some_iff] at at_i
    obtain ⟨row, found, rfl⟩ := at_i
    exact ⟨i, row, found, rfl⟩
  · intro given
    rcases given with ⟨i, row, found, rfl⟩
    exact ⟨i, by simp [List.getElem?_mapIdx, found]⟩

/-- `arb_position_id` after the inserts: the id of the inserted position that
links this row, else what it was. -/
def linked (seq : Nat) (inserts : List PositionInsert) (links : PositionInsert → Bool)
    (current : Option Nat) : Option Nat :=
  match inserts.findIdx? links with
  | some i => some (seq + i)
  | none => current

@[simp] theorem linked_nil (seq : Nat) (links : PositionInsert → Bool) (current : Option Nat) :
    linked seq [] links current = current := rfl

/-- A link comes from an insert or was there before. -/
theorem linked_eq_some {seq : Nat} {inserts : List PositionInsert}
    {links : PositionInsert → Bool} {current : Option Nat} {pid : Nat}
    (link : linked seq inserts links current = some pid) :
    (seq ≤ pid ∧ ∃ insert ∈ inserts, links insert = true) ∨ current = some pid := by
  unfold linked at link
  cases found : inserts.findIdx? links with
  | none => exact Or.inr (by simpa [found] using link)
  | some i =>
      simp only [found, Option.some.injEq] at link
      obtain ⟨inside, satisfied, -⟩ := List.findIdx?_eq_some_iff_getElem.mp found
      exact Or.inl ⟨by omega, inserts[i], List.getElem_mem inside, satisfied⟩

theorem linked_of_none {seq : Nat} {inserts : List PositionInsert}
    {links : PositionInsert → Bool} (current : Option Nat)
    (none_links : ∀ insert ∈ inserts, links insert = false) :
    linked seq inserts links current = current := by
  have absent : inserts.findIdx? links = none := by
    rw [List.findIdx?_eq_none_iff]
    exact none_links
  simp [linked, absent]

/-! ## Commit -/

/-- The trigger row after a transaction that inserts `inserts`. -/
def Txn.order (x : Txn) (seq : Nat) (row : ArbTriggerOrder) : ArbTriggerOrder :=
  let row' := x.orders.run row
  { row' with
    arbPositionId :=
      linked seq x.newPositions (fun insert => insert.linkTrigger == some row.id)
        row'.arbPositionId }

/-- The single-leg position row after a transaction. -/
def Txn.trade (x : Txn) (seq : Nat) (row : TradePosition) : TradePosition :=
  let row' := x.trades.run row
  { row' with
    arbPositionId :=
      linked seq x.newPositions (fun insert => insert.linkTrades.contains row.id)
        row'.arbPositionId }

theorem Txn.order_id (x : Txn) (seq : Nat) (row : ArbTriggerOrder) :
    (x.order seq row).id = row.id :=
  x.orders.keeps row

theorem Txn.trade_id (x : Txn) (seq : Nat) (row : TradePosition) :
    (x.trade seq row).id = row.id :=
  x.trades.keeps row

@[simp] theorem Txn.order_status (x : Txn) (seq : Nat) (row : ArbTriggerOrder) :
    (x.order seq row).status = (x.orders.run row).status := rfl

/-- Commit a transaction. -/
def Db.commit (d : Db) (x : Txn) : Db where
  wallets := d.wallets
  tradeOrders :=
    d.tradeOrders.map
      (fun row =>
        { row with
          positionId :=
            match x.newTrades.findIdx? fun insert => insert.backlink == some row.id with
            | some i => some (d.tradePositionSeq + i)
            | none => row.positionId })
      (fun _ => rfl)
  tradePositions :=
    (d.tradePositions.map (x.trade d.arbPositionSeq) (x.trade_id _)).insertAll
      (numbered d.tradePositionSeq (fun id insert => { insert.row with id }) x.newTrades)
  arbPositions :=
    (d.arbPositions.map x.positions.run x.positions.keeps).insertAll
      (numbered d.arbPositionSeq (fun id insert => { insert.row with id }) x.newPositions)
  triggers :=
    (d.triggers.map (x.order d.arbPositionSeq) (x.order_id _)).insertAll
      (numbered d.triggerSeq (fun id row => { row with id }) x.newOrders)
  tradePositionSeq := d.tradePositionSeq + x.newTrades.length
  arbPositionSeq := d.arbPositionSeq + x.newPositions.length
  triggerSeq := d.triggerSeq + x.newOrders.length

namespace Db

variable {d : Db} {x : Txn}

theorem order_commit_of_some {tid : Nat} {row : ArbTriggerOrder}
    (found : d.triggers.get? tid = some row) :
    (d.commit x).triggers.get? tid = some (x.order d.arbPositionSeq row) :=
  Table.get?_insertAll_of_some _ (by simp [found])

theorem position_commit_of_some {pid : Nat} {row : ArbPosition}
    (found : d.arbPositions.get? pid = some row) :
    (d.commit x).arbPositions.get? pid = some (x.positions.run row) :=
  Table.get?_insertAll_of_some _ (by simp [found])

theorem trade_commit_of_some {id : Nat} {row : TradePosition}
    (found : d.tradePositions.get? id = some row) :
    (d.commit x).tradePositions.get? id = some (x.trade d.arbPositionSeq row) :=
  Table.get?_insertAll_of_some _ (by simp [found])

/-- Every trigger row after a commit is an old row rewritten or an inserted row. -/
theorem order_commit {tid : Nat} {row : ArbTriggerOrder}
    (found : (d.commit x).triggers.get? tid = some row) :
    (∃ old, d.triggers.get? tid = some old ∧ row = x.order d.arbPositionSeq old) ∨
      (d.triggers.get? tid = none ∧ d.triggerSeq ≤ tid ∧ tid < (d.commit x).triggerSeq ∧
        ∃ new ∈ x.newOrders, row = { new with id := tid }) := by
  rcases Table.get?_insertAll found with before | ⟨absent, member, keyed⟩
  · rw [Table.get?_map, Option.map_eq_some_iff] at before
    obtain ⟨old, foundOld, rfl⟩ := before
    exact Or.inl ⟨old, foundOld, rfl⟩
  · rw [Table.get?_map, Option.map_eq_none_iff] at absent
    obtain ⟨i, new, foundNew, rfl⟩ := mem_numbered.mp member
    obtain ⟨inside, rfl⟩ := List.getElem?_eq_some_iff.mp foundNew
    simp only [key_arbTriggerOrder] at keyed
    subst keyed
    exact Or.inr ⟨absent, by omega, by simp only [commit]; omega, _, List.getElem_mem inside, rfl⟩

/-- Every position row after a commit is an old row rewritten or an inserted row. -/
theorem position_commit {pid : Nat} {row : ArbPosition}
    (found : (d.commit x).arbPositions.get? pid = some row) :
    (∃ old, d.arbPositions.get? pid = some old ∧ row = x.positions.run old) ∨
      (d.arbPositions.get? pid = none ∧ d.arbPositionSeq ≤ pid ∧
        pid < (d.commit x).arbPositionSeq ∧
        ∃ new ∈ x.newPositions, row = { new.row with id := pid }) := by
  rcases Table.get?_insertAll found with before | ⟨absent, member, keyed⟩
  · rw [Table.get?_map, Option.map_eq_some_iff] at before
    obtain ⟨old, foundOld, rfl⟩ := before
    exact Or.inl ⟨old, foundOld, rfl⟩
  · rw [Table.get?_map, Option.map_eq_none_iff] at absent
    obtain ⟨i, new, foundNew, rfl⟩ := mem_numbered.mp member
    obtain ⟨inside, rfl⟩ := List.getElem?_eq_some_iff.mp foundNew
    simp only [key_arbPosition] at keyed
    subst keyed
    exact Or.inr ⟨absent, by omega, by simp only [commit]; omega, _, List.getElem_mem inside, rfl⟩

/-- A transaction that neither updates nor inserts positions. -/
theorem position_commit_id (noWrites : x.positions = Rewrite.id _)
    (noInserts : x.newPositions = []) (pid : Nat) :
    (d.commit x).arbPositions.get? pid = d.arbPositions.get? pid := by
  simp [commit, noWrites, noInserts, numbered, Table.insertAll]

/-- Ids come from the sequences: no row has an id its sequence has not passed. -/
structure Sequenced (d : Db) : Prop where
  position : ∀ ⦃pid row⦄, d.arbPositions.get? pid = some row → pid < d.arbPositionSeq
  order : ∀ ⦃tid row⦄, d.triggers.get? tid = some row → tid < d.triggerSeq

theorem Sequenced.commit (sequenced : d.Sequenced) (x : Txn) : (d.commit x).Sequenced where
  position pid row found := by
    rcases position_commit found with ⟨old, foundOld, -⟩ | ⟨-, -, below, -⟩
    · have before := sequenced.position foundOld
      simp only [Db.commit]
      omega
    · exact below
  order tid row found := by
    rcases order_commit found with ⟨old, foundOld, -⟩ | ⟨-, -, below, -⟩
    · have before := sequenced.order foundOld
      simp only [Db.commit]
      omega
    · exact below

end Db

end Avalant
