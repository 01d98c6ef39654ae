import Avalant.Exchange.Overlay
import Avalant.Lib.Go

/-!
The best prices of Gate futures, merged over the book.

The adapter gets updates and tickers from the connection, and answers of the REST interface while
the connection goes on. Tickers with a side missing are dropped.
-/

namespace Avalant

namespace Gate

open Exchange

/-- `futures.book_ticker`. Prices are what `strconv.ParseFloat` makes of them. -/
structure BookTicker where
  s : String
  /-- In milliseconds. -/
  t : ℤ
  best : BboLevel

/-- What reaches the adapter, in the order in which it takes the lock. -/
inductive Input
  | ticker (msg : BookTicker)
  | update (contract : String) (t : ℤ) (ev : Event)
  | seed (token : String) (doc : Doc)

def eventTime (t : ℤ) : Option ℤ :=
  if 0 < t then some t else none

def token? (contract : String) : Option String :=
  if Go.hasSuffix contract "_USDT" then some (Go.trimSuffix contract "_USDT") else none

namespace Futures

def parseBookTicker (a : Futures) (msg : BookTicker) : Futures × Parsed :=
  match token? msg.s with
  | none => (a, .nothing)
  | some token =>
      if msg.best.bidPx ≤ 0 ∨ msg.best.askPx ≤ 0 then (a, .nothing)
      else
        let a := { a with bbo := a.bbo.insert token msg.best }
        (a, .snapshot ⟨token, a.mergedSnapshot token, eventTime msg.t⟩)

/-- An update of the connection. -/
def parseUpdate (a : Futures) (contract : String) (t : ℤ) (ev : Event) : Futures × Parsed :=
  match token? contract with
  | none => (a, .nothing)
  | some token =>
      let (a', emitted, _) := a.parseDepthUpdate token ev
      (a', match emitted with
        | some depth => .snapshot ⟨token, depth, eventTime t⟩
        | none => .nothing)

def receive (a : Futures) : Input → Futures × Parsed
  | .ticker msg => a.parseBookTicker msg
  | .update contract t ev => a.parseUpdate contract t ev
  | .seed token doc => (a.seedREST token doc, .nothing)

/-- The depth of a token: none before its book is seeded. -/
def depthOf (a : Futures) (token : String) : Depth :=
  match a.books.lookup token with
  | some bk => if bk.seeded then bk.ladders.depth else ⟨[], []⟩
  | none => ⟨[], []⟩

theorem mergedSnapshot_eq (a : Futures) (token : String) :
    a.mergedSnapshot token = merge (a.depthOf token) (a.bbo.lookup token) := rfl

theorem sorted_depthOf (a : Futures) (token : String) : Sorted (a.depthOf token) := by
  unfold depthOf
  split
  · split
    · exact sorted_depth _
    · exact sorted_nil
  · exact sorted_nil

variable {a : Futures}

/-- What an update emits is the merged book. -/
theorem parseDepthUpdate_emits {token : String} {ev : Event} {depth : Depth}
    (emitted : (a.parseDepthUpdate token ev).2.1 = some depth) :
    depth = (a.parseDepthUpdate token ev).1.mergedSnapshot token := by
  unfold Futures.parseDepthUpdate at emitted ⊢
  generalize (a.bookFor token).parseDepthUpdate ev = parsed at emitted ⊢
  rcases parsed with ⟨bk, verdict⟩
  cases verdict with
  | quiet => cases emitted
  | applied =>
      cases emitted
      rfl
  | reseed => cases emitted

theorem parseUpdate_emits {contract : String} {t : ℤ} {ev : Event} {snap : Snapshot}
    (emitted : (a.parseUpdate contract t ev).2 = .snapshot snap) :
    snap.depth = (a.parseUpdate contract t ev).1.mergedSnapshot snap.symbol := by
  unfold parseUpdate at emitted ⊢
  cases known : token? contract with
  | none =>
      rw [known] at emitted
      cases emitted
  | some token =>
      rw [known] at emitted
      dsimp only at emitted ⊢
      cases applied : (a.parseDepthUpdate token ev).2.1 with
      | none =>
          rw [applied] at emitted
          cases emitted
      | some depth =>
          rw [applied] at emitted
          cases emitted
          exact parseDepthUpdate_emits applied

theorem parseBookTicker_emits {msg : BookTicker} {snap : Snapshot}
    (emitted : (a.parseBookTicker msg).2 = .snapshot snap) :
    snap.depth = (a.parseBookTicker msg).1.mergedSnapshot snap.symbol := by
  unfold parseBookTicker at emitted ⊢
  cases known : token? msg.s with
  | none =>
      rw [known] at emitted
      cases emitted
  | some token =>
      rw [known] at emitted
      dsimp only at emitted ⊢
      split at emitted
      · cases emitted
      case isFalse both =>
        cases emitted
        rw [if_neg both]

/-- Whatever the adapter gets, what it emits is the merged book. -/
theorem receive_emits {input : Input} {snap : Snapshot}
    (emitted : (a.receive input).2 = .snapshot snap) :
    snap.depth = (a.receive input).1.mergedSnapshot snap.symbol := by
  cases input with
  | ticker msg => exact parseBookTicker_emits emitted
  | update contract t ev => exact parseUpdate_emits emitted
  | seed token doc => cases emitted

end Futures

end Gate

end Avalant
