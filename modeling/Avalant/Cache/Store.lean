import Mathlib.Data.List.AList
import Mathlib.Data.Rat.Init

/-!
The in-memory orderbook cache of the fetcher.

Every writer and reader takes the lock of the store, so each operation is one
step. Times are nanoseconds; the time of an entry that was created by a request
and has had no book yet is missing.
-/

namespace Avalant

abbrev Instant := Nat

/-- `t.UnixMilli()`. -/
def unixMilli (t : Instant) : Nat := t / 1000000

theorem unixMilli_le {s t : Instant} (le : s ≤ t) : unixMilli s ≤ unixMilli t :=
  Nat.div_le_div_right le

/-- A price and a size. -/
abbrev Level := ℚ × ℚ

structure Depth where
  bids : List Level
  asks : List Level
  deriving DecidableEq

/-- `exchange + ":" + symbol`. -/
structure Pair where
  exchange : String
  symbol : String
  deriving DecidableEq, Repr

/-- The entries of a map that pass a test. -/
theorem lookup_filter {α β : Type} [DecidableEq α] (m : AList fun _ : α => β)
    (test : α → β → Bool) (key : α)
    (distinct : (m.entries.filter fun e => test e.1 e.2).NodupKeys) :
    (⟨m.entries.filter fun e => test e.1 e.2, distinct⟩ : AList fun _ : α => β).lookup key =
      (m.lookup key).filter (test key) := by
  apply Option.ext
  intro b
  rw [← Option.mem_def, ← Option.mem_def, AList.mem_lookup_iff, Option.mem_filter_iff,
    AList.mem_lookup_iff]
  exact List.mem_filter

namespace Cache

structure Entry where
  depth : Depth
  updatedAt : Option Instant
  lastRequestAt : Instant
  source : String
  deriving DecidableEq

structure Store where
  books : AList fun _ : Pair => Entry
  versions : AList fun _ : String => Nat

namespace Store

def empty : Store := ⟨∅, ∅⟩

/-- The update counter of a venue. -/
def version (s : Store) (exchange : String) : Nat :=
  (s.versions.lookup exchange).getD 0

def bump (s : Store) (exchange : String) : AList fun _ : String => Nat :=
  s.versions.insert exchange (s.version exchange + 1)

/-- `Store`: the book of a pair is overwritten. -/
def store (s : Store) (pair : Pair) (depth : Depth) (source : String) (now : Instant) : Store where
  books := s.books.insert pair
    { depth, updatedAt := some now, source
      lastRequestAt := ((s.books.lookup pair).map Entry.lastRequestAt).getD now }
  versions := s.bump pair.exchange

/-- `Touch`: a request for a pair, which may not have a book yet. -/
def touch (s : Store) (pair : Pair) (now : Instant) : Store :=
  { s with
    books := s.books.insert pair
      (((s.books.lookup pair).map fun e => { e with lastRequestAt := now }).getD
        { depth := ⟨[], []⟩, updatedAt := none, lastRequestAt := now, source := "" }) }

def get (s : Store) (pair : Pair) : Option Entry :=
  s.books.lookup pair

/-- The entries that pass a test. -/
def keep (s : Store) (test : Entry → Bool) : Store :=
  { s with books := ⟨s.books.entries.filter fun e => test e.2,
      s.books.nodupKeys.sublist List.filter_sublist⟩ }

/-- `Prune`: entries that nobody has asked for of late are dropped. -/
def prune (s : Store) (idle : Nat) (now : Instant) : Store :=
  s.keep fun e => !decide (e.lastRequestAt + idle < now)

/-- `EvictStale`: entries that have had no book of late are dropped. -/
def evictStale (s : Store) (staleAfter : Nat) (now : Instant) : Store :=
  s.keep fun e => e.updatedAt.any fun t => !decide (t + staleAfter < now)

/-! ## What an operation leaves -/

variable {s : Store} {pair pair' : Pair} {depth : Depth} {source exchange : String} {now : Instant}

theorem get_store_self : (s.store pair depth source now).get pair =
    some { depth, updatedAt := some now, source
           lastRequestAt := ((s.get pair).map Entry.lastRequestAt).getD now } :=
  AList.lookup_insert _

theorem get_store_of_ne (other : pair' ≠ pair) :
    (s.store pair depth source now).get pair' = s.get pair' :=
  AList.lookup_insert_ne other

theorem get_keep {test : Entry → Bool} (s : Store) (pair : Pair) :
    (s.keep test).get pair = (s.get pair).filter test :=
  lookup_filter s.books (fun _ => test) pair _

end Store

end Cache

end Avalant
