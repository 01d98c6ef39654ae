import Avalant.Exchange.Overlay
import Avalant.Lib.Go

/-!
The orderbook adapter of HTX futures.

Frames of the depth channel replace the book of a symbol or set some of its levels. Updates have
the next version, or the session ends; while a book has the version 0 there is no version yet, and
the check is left out. Frames of the best prices come from a channel of their own.
-/

namespace Avalant

namespace Htx

open Exchange
open Gate (BboLevel BookLevel Ladders Side setLevel)
open Transition

/-- `tick` of a frame. Rows and best prices are a price and a size. -/
structure Tick where
  bids : List (List ℚ) := []
  asks : List (List ℚ) := []
  event : String := ""
  version : ℤ := 0
  bid : List ℚ := []
  ask : List ℚ := []

structure Message where
  ch : String := ""
  /-- In milliseconds. -/
  ts : ℤ := 0
  tick : Tick := {}

structure Book where
  ladders : Ladders
  /-- 0 is no version yet. -/
  lastVersion : ℤ

def Book.new : Book := ⟨⟨∅, ∅⟩, 0⟩

structure Futures where
  books : AList fun _ : String => Book
  bbo : AList fun _ : String => BboLevel

/-- The token of `market.<TOKEN>-USDT.<channel>`. -/
def token? (ch : String) : Option String :=
  match (Go.split ch '.')[1]? with
  | none => none
  | some pair => if Go.hasSuffix pair "-USDT" then some (Go.trimSuffix pair "-USDT") else none

def rowLevel : List ℚ → Option BookLevel
  | p :: s :: _ => some ⟨p, s⟩
  | _ => none

/-- The rows of a frame, over a book. -/
def applyTick (ladders : Ladders) (rows : List (List ℚ) × List (List ℚ)) : Ladders :=
  ⟨(rows.1.filterMap rowLevel).foldl setLevel ladders.bids,
    (rows.2.filterMap rowLevel).foldl setLevel ladders.asks⟩

def Tick.rows (tick : Tick) : List (List ℚ) × List (List ℚ) := (tick.bids, tick.asks)

namespace Futures

def new : Futures := ⟨∅, ∅⟩

def bookFor (a : Futures) (token : String) : Book :=
  (a.books.lookup token).getD Book.new

def setBook (a : Futures) (token : String) (bk : Book) : Futures :=
  { a with books := a.books.insert token bk }

def mergedSnapshot (a : Futures) (token : String) : Snapshot :=
  ⟨token, merge (a.bookFor token).ladders.depth (a.bbo.lookup token), none⟩

def parseBBO (a : Futures) (msg : Message) : Futures × Parsed :=
  if (Go.split msg.ch '.').length < 3 then (a, .nothing)
  else
    match token? msg.ch, msg.tick.bid, msg.tick.ask with
    | some token, bidPx :: bidSz :: _, askPx :: askSz :: _ =>
        if bidPx ≤ 0 ∨ askPx ≤ 0 then (a, .nothing)
        else
          let a := { a with bbo := a.bbo.insert token ⟨bidPx, bidSz, askPx, askSz⟩ }
          (a, .snapshot { a.mergedSnapshot token with
            eventTime := if 0 < msg.ts then some msg.ts else none })
    | _, _, _ => (a, .nothing)

def parseDepth (a : Futures) (msg : Message) : Futures × Parsed :=
  match token? msg.ch with
  | none => (a, .nothing)
  | some token =>
      let bk := a.bookFor token
      if msg.tick.event = "snapshot" then
        let a := a.setBook token ⟨applyTick ⟨∅, ∅⟩ msg.tick.rows, msg.tick.version⟩
        (a, .snapshot (a.mergedSnapshot token))
      else if msg.tick.event = "update" then
        if bk.lastVersion ≠ 0 ∧ msg.tick.version ≠ bk.lastVersion + 1 then
          (a.setBook token Book.new, .resync)
        else
          let a := a.setBook token ⟨applyTick bk.ladders msg.tick.rows, msg.tick.version⟩
          (a, .snapshot (a.mergedSnapshot token))
      else
        let a := a.setBook token { bk with ladders := applyTick bk.ladders msg.tick.rows }
        (a, .snapshot (a.mergedSnapshot token))

def parse (a : Futures) (msg : Message) : Futures × Parsed :=
  if !Go.hasPrefix msg.ch "market." then (a, .nothing)
  else if Go.contains msg.ch ".bbo" then a.parseBBO msg
  else if Go.contains msg.ch ".depth." then a.parseDepth msg
  else (a, .nothing)

/-- `OnReconnect`. -/
def onReconnect (_ : Futures) : Futures := new

variable {token token' : String}

@[simp] theorem bookFor_setBook_self (a : Futures) (token : String) (bk : Book) :
    (a.setBook token bk).bookFor token = bk := by
  simp [bookFor, setBook]

theorem bookFor_setBook_of_ne (other : token' ≠ token) (a : Futures) (bk : Book) :
    (a.setBook token bk).bookFor token' = a.bookFor token' := by
  simp [bookFor, setBook, AList.lookup_insert_ne other]

@[simp] theorem bbo_setBook (a : Futures) (token : String) (bk : Book) :
    (a.setBook token bk).bbo = a.bbo := rfl

end Futures

/-! ## The depth of one symbol -/

/-- Snapshots and updates of depth channels. -/
def IsDepth (msg : Message) : Prop :=
  Go.contains msg.ch ".bbo" = false ∧ (msg.tick.event = "snapshot" ∨ msg.tick.event = "update")

/-- What a frame is for the book of a token. -/
def frameOf (token : String) (msg : Message) :
    Option (BookFrame (List (List ℚ) × List (List ℚ))) :=
  if Go.hasPrefix msg.ch "market." ∧ Go.contains msg.ch ".depth." ∧ token? msg.ch = some token then
    if msg.tick.event = "snapshot" then
      some (.full msg.tick.version (applyTick ⟨∅, ∅⟩ msg.tick.rows))
    else some (.change msg.tick.version msg.tick.rows)
  else none

/-- The book of a token, as a copy of the venue's. -/
def Futures.copyOf (a : Futures) (token : String) : Numbered.Copy Ladders :=
  ⟨(a.bookFor token).ladders, (a.bookFor token).lastVersion⟩

section

variable {a a' : Futures} {msg : Message} {token : String}

theorem copyOf_setBook_self (a : Futures) (token : String) (bk : Book) :
    (a.setBook token bk).copyOf token = ⟨bk.ladders, bk.lastVersion⟩ := by
  unfold Futures.copyOf
  rw [Futures.bookFor_setBook_self]

theorem copyOf_setBook_of_ne {token' : String} (other : token' ≠ token) (a : Futures) (bk : Book) :
    (a.setBook token bk).copyOf token' = a.copyOf token' := by
  unfold Futures.copyOf
  rw [Futures.bookFor_setBook_of_ne other]

/-- Of the depth channels, the frames that are parsed. -/
theorem parse_of_isDepth (depth : IsDepth msg) :
    a.parse msg =
      if Go.hasPrefix msg.ch "market." ∧ Go.contains msg.ch ".depth." then a.parseDepth msg
      else (a, .nothing) := by
  unfold Futures.parse
  rw [depth.1]
  cases Go.hasPrefix msg.ch "market." with
  | false => simp
  | true =>
      cases Go.contains msg.ch ".depth." with
      | false => simp
      | true => simp

/-- What a frame of a depth channel does to the book of its token. -/
theorem parseDepth_cases (depth : IsDepth msg) {token : String} (known : token? msg.ch = some token)
    (kept : (a.parseDepth msg).2 ≠ .resync) :
    ∃ bk, (a.parseDepth msg).1 = a.setBook token bk ∧
      (a.parseDepth msg).2 = .snapshot ((a.setBook token bk).mergedSnapshot token) ∧
      ((msg.tick.event = "snapshot" ∧
          bk = ⟨applyTick ⟨∅, ∅⟩ msg.tick.rows, msg.tick.version⟩) ∨
        (msg.tick.event ≠ "snapshot" ∧ Follows (a.bookFor token).lastVersion msg.tick.version ∧
          bk = ⟨applyTick (a.bookFor token).ladders msg.tick.rows, msg.tick.version⟩)) := by
  unfold Futures.parseDepth at kept ⊢
  rw [known] at kept ⊢
  dsimp only at kept ⊢
  by_cases full : msg.tick.event = "snapshot"
  · rw [if_pos full]
    exact ⟨_, rfl, rfl, .inl ⟨full, rfl⟩⟩
  · have update : msg.tick.event = "update" := depth.2.resolve_left full
    rw [if_neg full, if_pos update] at kept ⊢
    split at kept
    case isTrue => exact absurd rfl kept
    case isFalse next =>
      rw [if_neg next]
      rw [← not_follows_iff, not_not] at next
      exact ⟨_, rfl, rfl, .inr ⟨full, next, rfl⟩⟩

/-- A frame of a session that goes on, for the book of its token. -/
theorem receive_copyOf {frame : BookFrame (List (List ℚ) × List (List ℚ))} (depth : IsDepth msg)
    (goes : goOn Futures.parse a msg = some a') (own : frameOf token msg = some frame) :
    Numbered.receive applyTick Follows (a.copyOf token) frame = some (a'.copyOf token) := by
  rcases goOn_eq_some.mp goes with ⟨kept, rfl⟩
  unfold frameOf at own
  split at own
  case isFalse => cases own
  case isTrue channel =>
    rw [parse_of_isDepth depth, if_pos ⟨channel.1, channel.2.1⟩] at kept ⊢
    rcases parseDepth_cases depth channel.2.2 kept with ⟨bk, state, -, ⟨full, rfl⟩ |
      ⟨notFull, next, rfl⟩⟩
    · rw [if_pos full] at own
      cases own
      rw [state, copyOf_setBook_self]
      rfl
    · rw [if_neg notFull] at own
      cases own
      rw [state, copyOf_setBook_self]
      exact if_pos next

/-- A frame of another token leaves the book. -/
theorem copyOf_of_other (depth : IsDepth msg) (goes : goOn Futures.parse a msg = some a')
    (other : frameOf token msg = none) : a'.copyOf token = a.copyOf token := by
  rcases goOn_eq_some.mp goes with ⟨kept, rfl⟩
  rw [parse_of_isDepth depth] at kept ⊢
  split at kept
  case isFalse channel => rw [if_neg channel]
  case isTrue channel =>
    rw [if_pos channel]
    cases known : token? msg.ch with
    | none =>
        unfold Futures.parseDepth
        rw [known]
    | some token' =>
        rcases parseDepth_cases depth known kept with ⟨bk, state, -, -⟩
        have apart : token ≠ token' := by
          rintro rfl
          unfold frameOf at other
          rw [if_pos ⟨channel.1, channel.2, known⟩] at other
          split at other
          · cases other
          · cases other
        rw [state]
        exact copyOf_setBook_of_ne apart _ _

/-- The depth channels leave the best prices, and emit the book of their symbol. -/
theorem bbo_of_isDepth (depth : IsDepth msg) (goes : goOn Futures.parse a msg = some a') :
    a'.bbo = a.bbo := by
  rcases goOn_eq_some.mp goes with ⟨kept, rfl⟩
  rw [parse_of_isDepth depth] at kept ⊢
  split at kept
  case isFalse channel => rw [if_neg channel]
  case isTrue channel =>
    rw [if_pos channel]
    cases known : token? msg.ch with
    | none =>
        unfold Futures.parseDepth
        rw [known]
    | some token' =>
        rcases parseDepth_cases depth known kept with ⟨bk, state, -, -⟩
        rw [state, Futures.bbo_setBook]

/-- Where no best prices have come, what is emitted is the book of its symbol. -/
theorem depth_of_emitted {snap : Snapshot} (depth : IsDepth msg)
    (alone : (a.parse msg).1.bbo = ∅) (emitted : (a.parse msg).2 = .snapshot snap) :
    snap.depth = ((a.parse msg).1.copyOf snap.symbol).state.depth := by
  rw [parse_of_isDepth depth] at alone emitted ⊢
  split at emitted
  case isFalse => cases emitted
  case isTrue channel =>
    rw [if_pos channel] at alone ⊢
    cases known : token? msg.ch with
    | none =>
        unfold Futures.parseDepth at emitted
        rw [known] at emitted
        cases emitted
    | some token =>
        have kept : (a.parseDepth msg).2 ≠ .resync := by
          rw [emitted]
          intro same
          cases same
        rcases parseDepth_cases depth known kept with ⟨bk, state, answer, -⟩
        rw [emitted] at answer
        cases answer
        rw [state] at alone ⊢
        unfold Futures.mergedSnapshot
        rw [alone]
        rfl

/-- Every snapshot of a session is a full book of its symbol that the session has received, or the
empty one, and all updates since, each with the next version or after the version 0. -/
theorem foldOf_emitted {ms : List Message} {snap : Snapshot} (depth : ∀ msg ∈ ms, IsDepth msg)
    (emits : Emits Futures.parse Futures.new ms snap) :
    FoldOf applyTick Follows (opening :: ms.filterMap (frameOf snap.symbol)) snap := by
  rcases emits.exec with ⟨before, m, a, rfl, emitted, executed⟩
  have accepted := exec_filterMap (Numbered.receive applyTick Follows)
    (fun a : Futures => a.copyOf snap.symbol) (frameOf snap.symbol)
    (fun _ _ _ _ depth goes own => receive_copyOf depth goes own)
    (fun _ _ _ depth goes other => copyOf_of_other depth goes other) depth executed
  have run : Run (goOn Futures.parse) (fun _ msg => IsDepth msg) Futures.new (a.parse m).1 :=
    .of_exec_of_forall (fun msg member _ => depth msg member) executed
  have alone : (a.parse m).1.bbo = ∅ :=
    run.invariant (I := fun a => a.bbo = ∅)
      (fun _ _ _ alone depth goes => (bbo_of_isDepth depth goes).trans alone) rfl
  have last : IsDepth m := depth m (List.mem_append_right _ List.mem_cons_self)
  exact .of_exec accepted (depth_of_emitted last alone emitted)

end

end Htx

end Avalant
