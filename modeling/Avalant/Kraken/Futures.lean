import Avalant.Exchange.Session
import Avalant.Lib.Go

/-!
The orderbook adapter of Kraken futures.

A snapshot frame replaces the book of a product, and a delta sets one level. Deltas have the next
number, or the session ends; while a book has the number 0 there is no number yet, and the check
is left out.
-/

namespace Avalant

namespace Kraken

open Exchange
open Gate (BookLevel Ladders seedSide setLevel)
open Transition

/-- A decoded frame. The rows of a snapshot are prices and quantities. -/
structure Message where
  feed : String := ""
  event : String := ""
  productId : String := ""
  side : String := ""
  price : ℚ := 0
  qty : ℚ := 0
  seq : ℤ := 0
  bids : List BookLevel := []
  asks : List BookLevel := []

structure Book where
  ladders : Ladders
  /-- 0 is no number yet. -/
  lastSeq : ℤ

def Book.new : Book := ⟨⟨∅, ∅⟩, 0⟩

structure Futures where
  books : AList fun _ : String => Book

/-- The token of a product: `PF_<TOKEN>USD`, where XBT is BTC. -/
def token? (pid : String) : Option String :=
  if Go.hasPrefix pid "PF_" && Go.hasSuffix pid "USD" then
    let token := Go.trimSuffix (Go.trimPrefix pid "PF_") "USD"
    some (if token = "XBT" then "BTC" else token)
  else none

/-- The book with one level set. Other sides than `buy` and `sell` are skipped. -/
def setSide (ladders : Ladders) (change : String × BookLevel) : Ladders :=
  if change.1 = "buy" then { ladders with bids := setLevel ladders.bids change.2 }
  else if change.1 = "sell" then { ladders with asks := setLevel ladders.asks change.2 }
  else ladders

namespace Futures

def new : Futures := ⟨∅⟩

def bookFor (a : Futures) (token : String) : Book :=
  (a.books.lookup token).getD Book.new

def setBook (a : Futures) (token : String) (bk : Book) : Futures :=
  ⟨a.books.insert token bk⟩

def parse (a : Futures) (msg : Message) : Futures × Parsed :=
  if msg.event ≠ "" then (a, .nothing)
  else
    match token? msg.productId with
    | none => (a, .nothing)
    | some token =>
        let bk := a.bookFor token
        if msg.feed = "book_snapshot" then
          let ladders : Ladders := ⟨seedSide msg.bids, seedSide msg.asks⟩
          (a.setBook token ⟨ladders, msg.seq⟩, .snapshot ⟨token, ladders.depth, none⟩)
        else if msg.feed = "book" then
          if bk.lastSeq ≠ 0 ∧ msg.seq ≠ bk.lastSeq + 1 then (a.setBook token Book.new, .resync)
          else
            let ladders := setSide bk.ladders (msg.side, ⟨msg.price, msg.qty⟩)
            (a.setBook token ⟨ladders, msg.seq⟩,
              if msg.side = "buy" ∨ msg.side = "sell" then .snapshot ⟨token, ladders.depth, none⟩
              else .nothing)
        else (a.setBook token bk, .nothing)

/-- `OnReconnect`. -/
def onReconnect (_ : Futures) : Futures := new

@[simp] theorem bookFor_setBook_self (a : Futures) (token : String) (bk : Book) :
    (a.setBook token bk).bookFor token = bk := by
  simp [bookFor, setBook]

theorem bookFor_setBook_of_ne {token token' : String} (other : token' ≠ token) (a : Futures)
    (bk : Book) : (a.setBook token bk).bookFor token' = a.bookFor token' := by
  simp [bookFor, setBook, AList.lookup_insert_ne other]

end Futures

/-! ## The frames of one product -/

/-- What a frame is for the book of a token. -/
def frameOf (token : String) (msg : Message) : Option (BookFrame (String × BookLevel)) :=
  if msg.event ≠ "" ∨ token? msg.productId ≠ some token then none
  else if msg.feed = "book_snapshot" then
    some (.full msg.seq ⟨seedSide msg.bids, seedSide msg.asks⟩)
  else if msg.feed = "book" then some (.change msg.seq (msg.side, ⟨msg.price, msg.qty⟩))
  else none

/-- The book of a token, as a copy of the venue's. -/
def Futures.copyOf (a : Futures) (token : String) : Numbered.Copy Ladders :=
  ⟨(a.bookFor token).ladders, (a.bookFor token).lastSeq⟩

section

variable {a a' : Futures} {msg : Message} {token : String}

theorem copyOf_setBook_self (a : Futures) (token : String) (bk : Book) :
    (a.setBook token bk).copyOf token = ⟨bk.ladders, bk.lastSeq⟩ := by
  unfold Futures.copyOf
  rw [Futures.bookFor_setBook_self]

theorem copyOf_setBook_of_ne {token' : String} (other : token' ≠ token) (a : Futures) (bk : Book) :
    (a.setBook token bk).copyOf token' = a.copyOf token' := by
  unfold Futures.copyOf
  rw [Futures.bookFor_setBook_of_ne other]

/-- Frames that are for no book change nothing and emit nothing. -/
theorem parse_of_noToken (skipped : msg.event ≠ "" ∨ token? msg.productId = none) :
    a.parse msg = (a, .nothing) := by
  unfold Futures.parse
  split
  · rfl
  case isFalse data =>
    rcases skipped with event | unknown
    · exact absurd event data
    · rw [unknown]

/-- A frame of a session that goes on, for the book of its token. -/
theorem receive_copyOf {frame : BookFrame (String × BookLevel)}
    (goes : goOn Futures.parse a msg = some a') (own : frameOf token msg = some frame) :
    Numbered.receive setSide Follows (a.copyOf token) frame = some (a'.copyOf token) := by
  rcases goOn_eq_some.mp goes with ⟨kept, rfl⟩
  unfold frameOf at own
  split at own
  · cases own
  case isFalse known =>
    rw [not_or, not_not, not_not] at known
    unfold Futures.parse at kept ⊢
    rw [if_neg (not_not.mpr known.1), known.2] at kept ⊢
    dsimp only at kept ⊢
    split at own
    case isTrue full =>
      cases own
      rw [if_pos full, copyOf_setBook_self]
      rfl
    case isFalse notFull =>
      rw [if_neg notFull] at kept ⊢
      split at own
      case isFalse => cases own
      case isTrue delta =>
        cases own
        rw [if_pos delta] at kept ⊢
        split at kept
        case isTrue => exact absurd rfl kept
        case isFalse next =>
          have follows : Follows (a.copyOf token).last msg.seq := by
            rw [← not_follows_iff, not_not] at next
            exact next
          rw [if_neg next, copyOf_setBook_self]
          exact if_pos follows

/-- A frame of another token leaves the book. -/
theorem copyOf_of_other (goes : goOn Futures.parse a msg = some a')
    (other : frameOf token msg = none) : a'.copyOf token = a.copyOf token := by
  rcases goOn_eq_some.mp goes with ⟨-, rfl⟩
  by_cases event : msg.event = ""
  · cases known : token? msg.productId with
    | none => rw [parse_of_noToken (.inr known)]
    | some token' =>
        unfold Futures.parse
        rw [if_neg (not_not.mpr event), known]
        dsimp only
        by_cases same : token' = token
        · subst same
          unfold frameOf at other
          rw [if_neg (by simp [event, known])] at other
          split at other
          · cases other
          case isFalse notFull =>
            split at other
            · cases other
            case isFalse notDelta =>
              rw [if_neg notFull, if_neg notDelta, copyOf_setBook_self]
              rfl
        · have apart : token ≠ token' := fun eq => same eq.symm
          split
          · exact copyOf_setBook_of_ne apart _ _
          · split
            · split
              · exact copyOf_setBook_of_ne apart _ _
              · exact copyOf_setBook_of_ne apart _ _
            · exact copyOf_setBook_of_ne apart _ _
  · rw [parse_of_noToken (.inl event)]

/-- What is emitted is the book of its symbol. -/
theorem depth_of_emitted {snap : Snapshot} (emitted : (a.parse msg).2 = .snapshot snap) :
    snap.depth = ((a.parse msg).1.copyOf snap.symbol).state.depth := by
  unfold Futures.parse at emitted ⊢
  split at emitted
  · cases emitted
  case isFalse data =>
    rw [if_neg data]
    split at emitted
    · cases emitted
    case h_2 token known =>
      dsimp only at emitted ⊢
      split at emitted
      case isTrue full =>
        cases emitted
        rw [if_pos full, copyOf_setBook_self]
      case isFalse notFull =>
        rw [if_neg notFull]
        split at emitted
        case isFalse => cases emitted
        case isTrue delta =>
          rw [if_pos delta]
          split at emitted
          · cases emitted
          case isFalse next =>
            rw [if_neg next]
            dsimp only at emitted
            split at emitted
            · cases emitted
              rw [copyOf_setBook_self]
            · cases emitted

/-- Every snapshot of a session is a full book of its symbol that the session has received, or the
empty one, and all deltas since, each with the next number or after the number 0. -/
theorem foldOf_emitted {ms : List Message} {snap : Snapshot}
    (emits : Emits Futures.parse Futures.new ms snap) :
    FoldOf setSide Follows (opening :: ms.filterMap (frameOf snap.symbol)) snap := by
  rcases emits.exec with ⟨before, m, a, -, emitted, executed⟩
  have accepted := exec_filterMap (Numbered.receive setSide Follows)
    (fun a : Futures => a.copyOf snap.symbol) (frameOf snap.symbol)
    (fun _ _ _ _ _ goes own => receive_copyOf goes own)
    (fun _ _ _ _ goes other => copyOf_of_other goes other) (fun _ _ => trivial) executed
  exact .of_exec accepted (depth_of_emitted emitted)

end

end Kraken

end Avalant
