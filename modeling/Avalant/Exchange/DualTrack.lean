import Avalant.Exchange.Overlay

/-!
Adapters that keep the depth and the best prices of a symbol apart.

Every frame that is for a symbol changes one of the two and emits both, merged. The adapters differ
in how they read a frame, in what a frame of best prices does to those they have, and in how they
merge.
-/

namespace Avalant

namespace Exchange

open Gate (BboLevel Ladders)
open Transition

/-- The rows of both sides of a frame. A cell is what `strconv.ParseFloat` makes of it. -/
structure Rows where
  bids : List (List (Option ℚ)) := []
  asks : List (List (Option ℚ)) := []

/-- `parseLvl`: the first row. -/
def parseLvl (rows : List (List (Option ℚ))) : Option (ℚ × ℚ) :=
  (rows.head?.bind rowLevel).map fun level => (level.p, level.s)

/-- What a frame brings. -/
inductive Update
  | depth (full : Bool) (rows : Rows)
  | best (full : Bool) (rows : Rows)

structure DualTrack where
  books : AList fun _ : String => Ladders
  bbo : AList fun _ : String => BboLevel

/-- One adapter. -/
structure TwoTrack (μ : Type) where
  /-- The token of a frame, and what it brings. -/
  read : μ → Option (String × Update)
  /-- A frame of best prices, over those of its symbol. -/
  setBest : Bool → Rows → BboLevel → BboLevel
  merge : Depth → Option BboLevel → Depth

/-- The rows of a frame, over a book. A snapshot replaces it. -/
def applyDepth (full : Bool) (rows : Rows) (book : Ladders) : Ladders :=
  let book : Ladders := if full then ⟨∅, ∅⟩ else book
  ⟨applyRows book.bids rows.bids, applyRows book.asks rows.asks⟩

/-- Before the first frame of best prices. -/
def noBest : BboLevel := ⟨0, 0, 0, 0⟩

namespace DualTrack

def new : DualTrack := ⟨∅, ∅⟩

def bookFor (a : DualTrack) (token : String) : Ladders :=
  (a.books.lookup token).getD ⟨∅, ∅⟩

variable {μ : Type} (adapter : TwoTrack μ)

def apply (a : DualTrack) (token : String) : Update → DualTrack
  | .depth full rows =>
      { a with books := a.books.insert token (applyDepth full rows (a.bookFor token)) }
  | .best full rows =>
      let b := adapter.setBest full rows ((a.bbo.lookup token).getD noBest)
      { a with bbo := a.bbo.insert token b }

def mergedSnapshot (a : DualTrack) (token : String) : Snapshot :=
  ⟨token, adapter.merge (a.bookFor token).depth (a.bbo.lookup token), none⟩

def parse (a : DualTrack) (msg : μ) : DualTrack × Parsed :=
  match adapter.read msg with
  | none => (a, .nothing)
  | some (token, update) =>
      let a := a.apply adapter token update
      (a, .snapshot (a.mergedSnapshot adapter token))

end DualTrack

/-! ## The two streams of a symbol -/

variable {μ : Type} (adapter : TwoTrack μ) (token : String)

/-- What a frame brings for a token. -/
def TwoTrack.updateFor (msg : μ) : Option Update :=
  (adapter.read msg).bind fun read => if read.1 = token then some read.2 else none

/-- The depth and the best prices that a stream has brought. -/
def Update.over (streams : Ladders × Option BboLevel) : Update → Ladders × Option BboLevel
  | .depth full rows => (applyDepth full rows streams.1, streams.2)
  | .best full rows => (streams.1, some (adapter.setBest full rows (streams.2.getD noBest)))

/-- The depth and the best prices of a token, as the frames have brought them. -/
def TwoTrack.streams (msgs : List μ) : Ladders × Option BboLevel :=
  (msgs.filterMap (adapter.updateFor token)).foldl (Update.over adapter) (⟨∅, ∅⟩, none)

variable {adapter token} {a a' : DualTrack} {msg : μ}

/-- What an adapter keeps of a token. -/
def DualTrack.streamsOf (a : DualTrack) (token : String) : Ladders × Option BboLevel :=
  (a.bookFor token, a.bbo.lookup token)

theorem DualTrack.apply_streamsOf (a : DualTrack) (token : String) (update : Update) :
    (a.apply adapter token update).streamsOf token = update.over adapter (a.streamsOf token) := by
  cases update with
  | depth full rows => simp [DualTrack.apply, DualTrack.streamsOf, Update.over, DualTrack.bookFor]
  | best full rows => simp [DualTrack.apply, DualTrack.streamsOf, Update.over, DualTrack.bookFor]

theorem DualTrack.apply_streamsOf_of_ne {token' : String} (other : token' ≠ token) (a : DualTrack)
    (update : Update) : (a.apply adapter token update).streamsOf token' = a.streamsOf token' := by
  cases update with
  | depth full rows =>
      simp [DualTrack.apply, DualTrack.streamsOf, DualTrack.bookFor, AList.lookup_insert_ne other]
  | best full rows =>
      simp [DualTrack.apply, DualTrack.streamsOf, DualTrack.bookFor, AList.lookup_insert_ne other]

/-- One frame: an update of its token, and of no other. -/
theorem DualTrack.parse_streamsOf (a : DualTrack) (msg : μ) (token : String) :
    (a.parse adapter msg).1.streamsOf token =
      match adapter.updateFor token msg with
      | none => a.streamsOf token
      | some update => update.over adapter (a.streamsOf token) := by
  unfold DualTrack.parse TwoTrack.updateFor
  cases known : adapter.read msg with
  | none => rfl
  | some read =>
      by_cases own : read.1 = token
      · subst own
        simp [DualTrack.apply_streamsOf]
      · have other : token ≠ read.1 := fun same => own same.symm
        simp [own, DualTrack.apply_streamsOf_of_ne other]

/-- What an adapter keeps of a token is what the frames have brought for it. -/
theorem streamsOf_of_exec {ms : List μ}
    (executed : exec (goOn (DualTrack.parse adapter)) DualTrack.new ms = some a) :
    a.streamsOf token = adapter.streams token ms := by
  have followed := exec_filterMap (fun streams update => some (Update.over adapter streams update))
    (fun a : DualTrack => a.streamsOf token) (adapter.updateFor token)
    (fun a msg a' update _ goes own => by
      rcases goOn_eq_some.mp goes with ⟨-, rfl⟩
      rw [DualTrack.parse_streamsOf, own])
    (fun a msg a' _ goes other => by
      rcases goOn_eq_some.mp goes with ⟨-, rfl⟩
      rw [DualTrack.parse_streamsOf, other])
    (fun _ _ => trivial) executed
  rw [exec_total] at followed
  exact (Option.some.inj followed).symm

/-- What is emitted is the two streams of its symbol, merged. -/
theorem depth_of_emits {ms : List μ} {snap : Snapshot}
    (emits : Emits (DualTrack.parse adapter) DualTrack.new ms snap) :
    snap.depth = adapter.merge (adapter.streams snap.symbol ms).1.depth
      (adapter.streams snap.symbol ms).2 := by
  rcases emits.exec with ⟨before, m, a, rfl, emitted, executed⟩
  rw [← streamsOf_of_exec executed]
  unfold DualTrack.parse at emitted ⊢
  split at emitted
  · cases emitted
  · cases emitted
    rfl

end Exchange

end Avalant
