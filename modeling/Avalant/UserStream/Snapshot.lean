import Avalant.Lib.Replica
import Mathlib.Data.Rat.Init

/-!
The snapshot of one user stream: the positions of a wallet and the status of its stream.

The process of the supervisor keeps the positions in a dictionary and mirrors them in a
Redis hash that expires; the other processes read the hash. Times are nanoseconds.
-/

namespace Avalant

namespace UserStream

open Replica

inductive Side
  | buy
  | sell
  deriving DecidableEq

def Side.other : Side → Side
  | .buy => .sell
  | .sell => .buy

/-- A payload of the snapshot. A position that is closed has no side. -/
structure Row where
  symbol : String
  side : Option Side
  quantity : ℚ
  deriving DecidableEq

abbrev Bucket := Store String Row

inductive Status
  | init
  | live
  | degraded
  | dead
  deriving DecidableEq

def ttlPositions : Nat := 600 * 1000000000

def ttlStatus : Nat := 60 * 1000000000

structure Snapshot where
  localPositions : Option Bucket
  hash : Bucket
  expires : Nat
  status : Option (Status × Nat)

/-- The process of the supervisor, or another. -/
inductive Process
  | fetcher
  | web

namespace Snapshot

def empty : Snapshot := ⟨none, ∅, 0, none⟩

/-- What is left of the hash. -/
def hashAt (s : Snapshot) (now : Nat) : Bucket :=
  if now < s.expires then s.hash else ∅

/-- `qty=0` deletes the symbol. -/
def written (row : Row) : Option Row :=
  if row.quantity = 0 then none else some row

def updatePosition (s : Snapshot) (now : Nat) (symbol : String) (row : Row) : Snapshot :=
  { s with
    localPositions := some (put (s.localPositions.getD ∅) symbol (written row))
    hash := put (s.hashAt now) symbol (written row)
    expires := now + ttlPositions }

def setStatus (s : Snapshot) (now : Nat) (status : Status) : Snapshot :=
  { s with status := some (status, now) }

def getStatus (s : Snapshot) (now : Nat) : Option Status :=
  (s.status.filter fun e => now < e.2 + ttlStatus).map Prod.fst

def bucket (s : Snapshot) (now : Nat) : Process → Bucket
  | .fetcher => s.localPositions.getD (s.hashAt now)
  | .web => s.hashAt now

def getPositions (s : Snapshot) (now : Nat) (process : Process) : List Row :=
  (s.bucket now process).entries.map fun e => e.2

/-- `clear_wallet`. -/
def clearWallet (_ : Snapshot) : Snapshot := empty

/-- The hash has not expired, and both stores have the same rows, each under its symbol. -/
structure Mirrored (s : Snapshot) (now : Nat) : Prop where
  same : ∀ symbol, (s.localPositions.getD ∅).lookup symbol = s.hash.lookup symbol
  fresh : s.hash.entries = [] ∨ now < s.expires
  keyed : ∀ symbol row, s.hash.lookup symbol = some row → row.symbol = symbol

section

variable {s : Snapshot} {now : Nat} {symbol : String} {row : Row}

theorem lookup_hashAt (fresh : s.hash.entries = [] ∨ now < s.expires) :
    (s.hashAt now).lookup symbol = s.hash.lookup symbol := by
  unfold hashAt
  split
  case isTrue => rfl
  case isFalse expired =>
    have none_ : s.hash = ∅ := AList.ext (fresh.resolve_right expired)
    rw [none_]

/-- Every process reads the rows of the hash. -/
theorem Mirrored.lookup_bucket (mirrored : s.Mirrored now) (process : Process) :
    (s.bucket now process).lookup symbol = s.hash.lookup symbol := by
  cases process with
  | web => exact lookup_hashAt mirrored.fresh
  | fetcher =>
      have same := mirrored.same symbol
      unfold bucket
      cases held : s.localPositions with
      | none => exact lookup_hashAt mirrored.fresh
      | some own =>
          rw [held] at same
          exact same

/-- A position is written to both. -/
theorem Mirrored.updatePosition (mirrored : s.Mirrored now) (keyed : row.symbol = symbol) :
    (s.updatePosition now symbol row).Mirrored now where
  same symbol' := by
    unfold Snapshot.updatePosition
    rw [Option.getD_some]
    by_cases here : symbol' = symbol
    · rw [here, lookup_put_self, lookup_put_self]
    · rw [lookup_put_of_ne here, lookup_put_of_ne here, lookup_hashAt mirrored.fresh]
      exact mirrored.same symbol'
  fresh := Or.inr (Nat.lt_add_of_pos_right (by decide))
  keyed symbol' row' held := by
    unfold Snapshot.updatePosition at held
    by_cases here : symbol' = symbol
    · rw [here, lookup_put_self] at held
      unfold written at held
      split at held
      · cases held
      · cases held
        rw [here, keyed]
    · rw [lookup_put_of_ne here, lookup_hashAt mirrored.fresh] at held
      exact mirrored.keyed symbol' row' held

theorem lookup_updatePosition (mirrored : s.Mirrored now) (symbol' : String) :
    (s.updatePosition now symbol row).hash.lookup symbol' =
      (put s.hash symbol (written row)).lookup symbol' := by
  unfold Snapshot.updatePosition
  by_cases here : symbol' = symbol
  · rw [here, lookup_put_self, lookup_put_self]
  · rw [lookup_put_of_ne here, lookup_put_of_ne here, lookup_hashAt mirrored.fresh]

theorem mirrored_empty : empty.Mirrored now where
  same _ := rfl
  fresh := Or.inl rfl
  keyed _ _ held := nomatch held

/-- The rows that a process reads. -/
theorem Mirrored.mem_getPositions (mirrored : s.Mirrored now) {process : Process} :
    row ∈ s.getPositions now process ↔ s.hash.lookup row.symbol = some row := by
  unfold getPositions
  rw [List.mem_map]
  constructor
  · intro given
    rcases given with ⟨⟨symbol, row⟩, mem, rfl⟩
    have held := AList.mem_lookup_iff.mpr mem
    rw [Option.mem_def, mirrored.lookup_bucket] at held
    rw [mirrored.keyed symbol row held]
    exact held
  · intro held
    refine ⟨⟨row.symbol, row⟩, AList.mem_lookup_iff.mp ?_, rfl⟩
    rw [Option.mem_def, mirrored.lookup_bucket]
    exact held

/-- A process reads one row for each symbol. -/
theorem Mirrored.nodup_getPositions (mirrored : s.Mirrored now) (process : Process) :
    ((s.getPositions now process).map Row.symbol).Nodup := by
  have keys : (s.getPositions now process).map Row.symbol = (s.bucket now process).keys := by
    unfold getPositions
    rw [List.map_map]
    refine List.map_congr_left fun e mem => ?_
    have held := AList.mem_lookup_iff.mpr mem
    rw [Option.mem_def, mirrored.lookup_bucket] at held
    exact mirrored.keyed e.1 e.2 held
  rw [keys]
  exact AList.keys_nodup _

end

end Snapshot

end UserStream

end Avalant
