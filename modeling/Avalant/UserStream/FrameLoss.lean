import Avalant.UserStream.Frames

/-!
What an account frame leaves in the snapshot.

One event is made of a frame, so a frame that lists several positions is kept when
the snapshot already has the others as the frame has them. A USDT balance takes the place of
every position of a Binance frame, and a Hyperliquid frame takes no symbol out.
-/

namespace Avalant

namespace UserStream

open Replica

/-! ## What a frame lists -/

/-- A position of a frame. In hedge mode it is about one side of the symbol. -/
structure Position where
  hedgeSide : Option Side
  row : Row
  deriving DecidableEq

def PositionUpdate.position (update : PositionUpdate) (hedgeSide : Option Side) : Position :=
  ⟨hedgeSide, update.row⟩

/-- A stored entry is what the frame gives: the row, or none of the side when it is flat. -/
def Position.ShownBy (p : Position) (held : Option Row) : Prop :=
  if p.row.quantity = 0 then
    match p.hedgeSide with
    | none => held = none
    | some side => held.bind Row.side ≠ some side
  else held = some p.row

instance : (p : Position) → (held : Option Row) → Decidable (p.ShownBy held)
  | ⟨none, row⟩, held =>
      inferInstanceAs (Decidable (if row.quantity = 0 then held = none else held = some row))
  | ⟨some side, row⟩, held =>
      inferInstanceAs (Decidable
        (if row.quantity = 0 then held.bind Row.side ≠ some side else held = some row))

namespace Frame

/-- The positions of USDT contracts, in the order of the frame. -/
def listed (instruments : Instruments) : Frame → List Position
  | binance raw =>
      if raw.e = "ACCOUNT_UPDATE" then
        raw.positions.filterMap fun p => p.update.map (·.position p.hedgeSide)
      else []
  | bybit (.position data) => data.filterMap fun p => p.update.map (·.position p.hedgeSide)
  | okx (.positions data) =>
      data.filterMap fun p => (p.update instruments).map (·.position p.hedgeSide)
  | gate (.positions event result) =>
      if event = "update" then
        result.filterMap fun p => p.update.map (·.position p.hedgeSide)
      else []
  | hyperliquid (.webData2 positions _) => positions.map fun p => p.update.position none
  | _ => []

/-- The frame is the whole state of the account. -/
def isWhole : Frame → Bool
  | hyperliquid (.webData2 _ _) => true
  | _ => false

/-- The position that gets the one event: the first that is listed, unless a USDT balance
stands before it, or it is flat in a whole state. -/
def carried (instruments : Instruments) (frame : Frame) : Option Position :=
  match frame with
  | binance raw =>
      if raw.balances.any BinanceBalance.isUsdt then none else (frame.listed instruments).head?
  | hyperliquid _ => (frame.listed instruments).find? fun p => p.row.quantity ≠ 0
  | _ => (frame.listed instruments).head?

end Frame

/-! ## Frames that are kept -/

namespace Snapshot

/-- The positions that a process has of its own, or that the others read. -/
def store (s : Snapshot) (now : Nat) : Process → Bucket
  | .fetcher => s.localPositions.getD ∅
  | .web => s.hashAt now

end Snapshot

namespace Stream

/-- What the snapshot has of a symbol. -/
def held (s : Stream) (process : Process) (symbol : String) : Option Row :=
  (s.snapshot.store s.now process).lookup symbol

/-- After a frame the snapshot has what the frame gives of every position it lists, and of a
whole state nothing else. -/
def KeepsFrame (instruments : Instruments) (s : Stream) (frame : Frame) : Prop :=
  ∀ process,
    (∀ p ∈ frame.listed instruments,
      p.ShownBy ((s.handle instruments frame).held process p.row.symbol)) ∧
    (frame.isWhole = true → ∀ symbol ∉ (frame.listed instruments).map (·.row.symbol),
      (s.handle instruments frame).held process symbol = none)

/-- The entries of the symbol of the event agree with it, the positions of the other symbols are
in the snapshot already, and a whole state lists every symbol of the snapshot. -/
def SparesFrame (instruments : Instruments) (s : Stream) (frame : Frame) : Prop :=
  ∀ process,
    (∀ p ∈ frame.listed instruments, ∀ c ∈ frame.carried instruments,
      p.row.symbol = c.row.symbol → p.ShownBy (Snapshot.written c.row)) ∧
    (∀ p ∈ frame.listed instruments,
      (∀ c ∈ frame.carried instruments, p.row.symbol ≠ c.row.symbol) →
      p.ShownBy (s.held process p.row.symbol)) ∧
    (frame.isWhole = true → ∀ symbol ∉ (frame.listed instruments).map (·.row.symbol),
      s.held process symbol = none)

end Stream

/-! ## The event of a frame -/

/-- The row of an event that is about a position. -/
def UserStreamEvent.row? : UserStreamEvent → Option Row
  | .positionUpdate update => some update.row
  | .balanceUpdate _ => none

section

variable {instruments : Instruments}

/-- The first entry of a list that has an update is the first position that is listed. -/
theorem row_findSome? {α : Type} (update : α → Option PositionUpdate)
    (hedgeSide : α → Option Side) (data : List α) :
    ((data.findSome? update).map UserStreamEvent.positionUpdate).bind UserStreamEvent.row? =
      (data.filterMap fun p => (update p).map (·.position (hedgeSide p))).head?.map Position.row := by
  induction data with
  | nil => rfl
  | cons p data ih =>
      cases known : update p with
      | none =>
          rw [List.findSome?_cons, known, List.filterMap_cons, known]
          exact ih
      | some u =>
          rw [List.findSome?_cons, known, List.filterMap_cons, known]
          rfl

/-- The first open position. -/
theorem row_findSome?_open (positions : List HyperliquidPosition) :
    (positions.findSome? HyperliquidPosition.open?).map (·.row) =
      ((positions.map fun p => p.update.position none).find? fun p =>
        p.row.quantity ≠ 0).map Position.row := by
  induction positions with
  | nil => rfl
  | cons p positions ih =>
      have flat : (p.update.position none).row.quantity = 0 ↔ Number.orZero p.szi = 0 := abs_eq_zero
      by_cases closed : Number.orZero p.szi = 0
      · have skipped : p.open? = none := if_pos closed
        rw [List.findSome?_cons, skipped, List.map_cons, List.find?_cons_of_neg (by simpa using flat.mpr closed)]
        exact ih
      · have taken : p.open? = some p.update := if_neg closed
        rw [List.findSome?_cons, taken, List.map_cons, List.find?_cons_of_pos (by simpa using mt flat.mp closed)]
        rfl

/-- The event of a frame is about the position that it carries. -/
theorem Frame.row_parseEvent (frame : Frame) :
    (frame.parseEvent instruments).bind UserStreamEvent.row? =
      (frame.carried instruments).map Position.row := by
  cases frame with
  | binance raw =>
      simp only [parseEvent, BinanceFrame.parseEvent, carried, listed]
      split
      case isTrue update =>
        cases found : raw.balances.find? BinanceBalance.isUsdt with
        | none =>
            have none_ : raw.balances.any BinanceBalance.isUsdt = false := by
              rw [List.any_eq_false]
              exact List.find?_eq_none.mp found
            rw [none_]
            exact row_findSome? _ _ _
        | some b =>
            have some_ : raw.balances.any BinanceBalance.isUsdt = true :=
              List.any_eq_true.mpr ⟨b, List.mem_of_find?_eq_some found, List.find?_some found⟩
            rw [some_]
            rfl
      case isFalse =>
        split
        · rfl
        · rfl
  | bybit raw =>
      cases raw with
      | position data => exact row_findSome? _ _ _
      | wallet data =>
          change ((data.flatten.find? BybitCoin.isUsdt).map _).bind _ = none
          cases data.flatten.find? BybitCoin.isUsdt with
          | none => rfl
          | some c => rfl
      | execution => rfl
      | other => rfl
  | okx raw =>
      cases raw with
      | positions data => exact row_findSome? _ _ _
      | account data =>
          change ((data.flatten.find? OkxDetail.isUsdt).map _).bind _ = none
          cases data.flatten.find? OkxDetail.isUsdt with
          | none => rfl
          | some d => rfl
      | other => rfl
  | gate raw =>
      cases raw with
      | positions event result =>
          simp only [parseEvent, GateFrame.parseEvent, carried, listed]
          split
          · exact row_findSome? _ _ _
          · rfl
      | balances event result =>
          simp only [parseEvent, GateFrame.parseEvent, carried, listed]
          split
          · cases result with
            | nil => rfl
            | cons b result => rfl
          · rfl
      | other => rfl
  | hyperliquid raw =>
      cases raw with
      | webData2 positions accountValue =>
          simp only [parseEvent, HyperliquidFrame.parseEvent, carried, listed]
          rw [← row_findSome?_open]
          cases positions.findSome? HyperliquidPosition.open? with
          | some update => rfl
          | none => cases Number.float accountValue with
            | none => rfl
            | some bal => rfl
      | other => rfl

/-! ## The snapshot after a frame -/

namespace Stream

theorem held_dispatchEvent (s : Stream) (e : Event) (process : Process) (symbol : String) :
    (s.dispatchEvent e).held process symbol =
      if symbol = e.symbol then Snapshot.written e.row else s.held process symbol := by
  have written : ∀ t : Bucket, (put t e.symbol (Snapshot.written e.row)).lookup symbol =
      if symbol = e.symbol then Snapshot.written e.row else t.lookup symbol := by
    intro t
    split
    case isTrue same => rw [same, lookup_put_self]
    case isFalse other => exact lookup_put_of_ne other
  cases process with
  | fetcher => exact written _
  | web =>
      have fresh : s.now < s.now + ttlPositions := Nat.lt_add_of_pos_right (by decide)
      have kept : ((s.dispatchEvent e).snapshot.hashAt s.now) =
          put (s.snapshot.hashAt s.now) e.symbol (Snapshot.written e.row) := if_pos fresh
      change ((s.dispatchEvent e).snapshot.hashAt s.now).lookup symbol = _
      rw [kept]
      exact written _

/-- A frame overwrites the symbol of the position that it carries, and no other. -/
theorem held_handle (s : Stream) (frame : Frame) (process : Process) (symbol : String) :
    (s.handle instruments frame).held process symbol =
      match frame.carried instruments with
      | none => s.held process symbol
      | some c => if symbol = c.row.symbol then Snapshot.written c.row else s.held process symbol := by
  have row : (frame.parseEvent instruments).bind UserStreamEvent.row? =
      (frame.carried instruments).map Position.row := frame.row_parseEvent
  unfold handle
  cases parsed : frame.parseEvent instruments with
  | none =>
      rw [parsed] at row
      rw [Option.map_eq_none_iff.mp row.symm]
      rfl
  | some event =>
      rw [parsed] at row
      cases event with
      | balanceUpdate balance =>
          rw [Option.map_eq_none_iff.mp row.symm]
          rfl
      | positionUpdate update =>
          obtain ⟨c, carried, same⟩ := Option.map_eq_some_iff.mp row.symm
          rw [carried]
          dsimp only
          rw [same]
          exact held_dispatchEvent s update.toEvent process symbol

end Stream

theorem Frame.mem_listed_of_carried {frame : Frame} {c : Position}
    (carried : frame.carried instruments = some c) : c ∈ frame.listed instruments := by
  unfold Frame.carried at carried
  split at carried
  · split at carried
    · cases carried
    · exact List.mem_of_head? carried
  · exact List.mem_of_find?_eq_some carried
  · exact List.mem_of_head? carried

/-- A frame is kept if and only if nothing that it lists needs a second event. -/
theorem keepsFrame_iff_spares (s : Stream) (frame : Frame) :
    s.KeepsFrame instruments frame ↔ s.SparesFrame instruments frame := by
  refine forall_congr' fun process => ?_
  cases carried : frame.carried instruments with
  | none =>
      have held : ∀ symbol, (s.handle instruments frame).held process symbol =
          s.held process symbol := by
        intro symbol
        rw [Stream.held_handle, carried]
      simp only [held]
      constructor
      · intro kept
        refine ⟨fun p _ c known => ?_, fun p listed _ => kept.1 p listed, kept.2⟩
        cases known
      · intro spared
        refine ⟨fun p listed => spared.2.1 p listed fun c known => ?_, spared.2.2⟩
        cases known
  | some c =>
      have held : ∀ symbol, (s.handle instruments frame).held process symbol =
          if symbol = c.row.symbol then Snapshot.written c.row else s.held process symbol := by
        intro symbol
        rw [Stream.held_handle, carried]
      have known : c.row.symbol ∈ (frame.listed instruments).map (·.row.symbol) :=
        List.mem_map_of_mem (Frame.mem_listed_of_carried carried)
      simp only [held]
      constructor
      · intro kept
        refine ⟨fun p listed c' same symbol => ?_, fun p listed others => ?_,
          fun whole symbol unlisted => ?_⟩
        · cases same
          have shown := kept.1 p listed
          rw [if_pos symbol] at shown
          exact shown
        · have shown := kept.1 p listed
          rw [if_neg (others c rfl)] at shown
          exact shown
        · have gone := kept.2 whole symbol unlisted
          rw [if_neg (ne_of_mem_of_not_mem known unlisted).symm] at gone
          exact gone
      · intro spared
        obtain ⟨agrees, stored, covers⟩ := spared
        refine ⟨fun p listed => ?_, fun whole symbol unlisted => ?_⟩
        · split
          case isTrue same => exact agrees p listed c rfl same
          case isFalse other =>
            refine stored p listed fun c' known' => ?_
            cases known'
            exact other
        · rw [if_neg (ne_of_mem_of_not_mem known unlisted).symm]
          exact covers whole symbol unlisted

end

/-! ## Frames that lose a position -/

/-- A trade on Binance: the balance of the account and the position that was opened. -/
def binanceTrade : Frame := .binance {
  e := "ACCOUNT_UPDATE"
  balances := [⟨some "USDT", some (.text 900)⟩]
  positions := [{ s := some "BTCUSDT", pa := some (.text 1) }] }

/-- BTC is closed and ETH is opened in one frame. -/
def bybitTwo : Frame := .bybit (.position [
  { symbol := some "BTCUSDT", size := some (.text 0), side := some "" },
  { symbol := some "ETHUSDT", size := some (.text 2), side := some "Sell" }])

/-- An account that has ETH alone. -/
def hyperliquidEth : Frame := .hyperliquid (.webData2
  [{ coin := some "ETH", szi := some (.text (-2)) }] (some (.text 900)))

/-- A stream that has stored BTC. -/
def withBtc : Stream :=
  (Stream.initial false).dispatchEvent ⟨"BTC", some .buy, 1⟩

theorem keepsFrame_broken :
    ¬(Stream.initial false).KeepsFrame (fun _ => none) binanceTrade ∧
    ¬withBtc.KeepsFrame (fun _ => none) bybitTwo ∧
    ¬withBtc.KeepsFrame (fun _ => none) hyperliquidEth := by
  refine ⟨fun kept => ?_, fun kept => ?_, fun kept => ?_⟩
  · have shown := (kept .fetcher).1 ⟨none, "BTC", some .buy, 1⟩ (by decide +kernel)
    revert shown
    decide +kernel
  · have shown := (kept .fetcher).1 ⟨none, "ETH", some .sell, 2⟩ (by decide +kernel)
    revert shown
    decide +kernel
  · have gone := (kept .fetcher).2 rfl "BTC" (by decide +kernel)
    revert gone
    decide +kernel

end UserStream

end Avalant
