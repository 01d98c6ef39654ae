import Avalant.Bybit.Futures
import Avalant.Lib.Ascii
import Avalant.Okx.Futures

/-!
The adapters of Binance, Aster, Bitget and BingX, each with a stream of best prices over one of
depth.

Binance, Aster and BingX are sent the whole depth each time, Bitget changes of it, too. BingX keeps
the levels in the order in which they come, the others by their prices. In each the best prices are
put over the depth as in `merge`.
-/

namespace Avalant

namespace Exchange

open Gate (BboLevel Ladders)
open Ladder (Ordered)
open Transition

abbrev Cells := List (List (Option ℚ))

/-- Rows of which a number that does not parse is 0. -/
def zeroed (rows : Cells) : Cells :=
  rows.filterMap fun
    | px :: sz :: _ => some [some (px.getD 0), some (sz.getD 0)]
    | _ => none

/-- Rows with a size. -/
def positive (rows : Cells) : Cells :=
  rows.filter fun row => (rowLevel row).any fun level => 0 < level.s

/-- The time of a frame: that of the matching engine, or else that of the event. -/
def frameTime (tradeTs evTime : ℤ) : Option ℤ :=
  if 0 < tradeTs then some tradeTs else if 0 < evTime then some evTime else none

/-- One row a side. -/
def bestRows (bid bidSz ask askSz : Option ℚ) : Rows :=
  ⟨[[some (bid.getD 0), some (bidSz.getD 0)]], [[some (ask.getD 0), some (askSz.getD 0)]]⟩

/-- Both sides are replaced. -/
def setBoth (_ : Bool) (rows : Rows) (_ : BboLevel) : BboLevel :=
  let bid := (parseLvl rows.bids).getD (0, 0)
  let ask := (parseLvl rows.asks).getD (0, 0)
  ⟨bid.1, bid.2, ask.1, ask.2⟩

/-! ## Binance and Aster -/

/-- `b` or `a` of the object of a frame: a price, or rows. -/
inductive Field
  | missing
  | price (price : Option ℚ)
  | rows (rows : Cells)

namespace Field

/-- As a string; rows do not decode. -/
def price? : Field → Option (Option ℚ)
  | missing => some none
  | price p => some p
  | rows _ => none

/-- As rows; a string does not decode. -/
def rows? : Field → Option Cells
  | missing => some []
  | price _ => none
  | rows cells => some cells

end Field

structure StreamMessage where
  stream : String
  /-- It has a `result`, as an answer to a request has. -/
  result : Bool
  symbol : String
  evTime : ℤ
  tradeTs : ℤ
  b : Field
  bidQty : Option ℚ
  a : Field
  askQty : Option ℚ
  bids : Cells
  asks : Cells
  /-- What `IsTrading` answers; Aster only asks for the best prices. -/
  trading : Bool

namespace StreamMessage

/-- The symbol of the stream, or else of the object. -/
def sym (msg : StreamMessage) : String :=
  let head :=
    match Go.split msg.stream '@' with
    | head :: _ :: _ => Ascii.upper head
    | _ => ""
  if head = "" then Ascii.upper msg.symbol else head

def token? (msg : StreamMessage) : Option String :=
  if Go.hasSuffix msg.sym "USDT" then some (Go.trimSuffix msg.sym "USDT") else none

def isBookTicker (msg : StreamMessage) : Bool := Go.hasSuffix msg.stream "@bookTicker"

def time (msg : StreamMessage) : Option ℤ := frameTime msg.tradeTs msg.evTime

/-- The rows under their short names, or else under their long ones. -/
def depthRows (msg : StreamMessage) (b a : Cells) : Rows :=
  if b.length = 0 ∧ a.length = 0 then ⟨msg.bids, msg.asks⟩ else ⟨b, a⟩

end StreamMessage

namespace Binance

/-- `parseBookTicker`. -/
def readBest (msg : StreamMessage) : Option Update :=
  match msg.b.price?, msg.a.price? with
  | some bid, some ask => some (.best true (bestRows bid msg.bidQty ask msg.askQty))
  | _, _ => none

/-- `parseDepth`. -/
def readDepth (msg : StreamMessage) : Option Update :=
  match msg.b.rows?, msg.a.rows? with
  | some b, some a =>
      let rows := msg.depthRows b a
      some (.depth true ⟨positive rows.bids, positive rows.asks⟩)
  | _, _ => none

/-- `Parse`. -/
def read (msg : StreamMessage) : Option (String × Update) :=
  if msg.result then none
  else
    msg.token?.bind fun token =>
      if !msg.trading then none
      else (if msg.isBookTicker then readBest msg else readDepth msg).map fun update =>
        (token, update)

def adapter : TwoTrack StreamMessage where
  read := read
  setBest := setBoth
  merge := merge

end Binance

namespace Aster

/-- `parseBookTicker`. Best prices that are not positive are dropped. -/
def readBest (msg : StreamMessage) : Option Update :=
  match msg.b.price?, msg.a.price? with
  | some bid, some ask =>
      if !msg.trading then none
      else if bid.getD 0 ≤ 0 ∨ ask.getD 0 ≤ 0 then none
      else some (.best true (bestRows bid msg.bidQty ask msg.askQty))
  | _, _ => none

/-- `parseDepth`. Rows that do not decode are none. -/
def readDepth (msg : StreamMessage) : Option Update :=
  let rows := msg.depthRows (msg.b.rows?.getD []) (msg.a.rows?.getD [])
  some (.depth true ⟨positive (zeroed rows.bids), positive (zeroed rows.asks)⟩)

/-- `Parse`. -/
def read (msg : StreamMessage) : Option (String × Update) :=
  if msg.result then none
  else
    msg.token?.bind fun token =>
      (if msg.isBookTicker then readBest msg else readDepth msg).map fun update =>
        (token, update)

def adapter : TwoTrack StreamMessage where
  read := read
  setBest := setBoth
  merge := merge

end Aster

/-! ## Bitget -/

namespace Bitget

structure Message where
  event : String := ""
  action : String := ""
  instType : String := ""
  channel : String := ""
  instId : String := ""
  data : List Rows := []

/-- `Parse`. -/
def read (instType : String) (msg : Message) : Option (String × Update) :=
  let isDepth := msg.channel = "books15"
  let isBBO := msg.channel = "books1"
  if msg.event ≠ "" then none
  else if ¬isDepth ∧ ¬isBBO then none
  else if msg.instType ≠ instType then none
  else if !Go.hasSuffix msg.instId "USDT" then none
  else
    match msg.data with
    | [] => none
    | rows :: _ =>
        let token := Go.trimSuffix msg.instId "USDT"
        if isBBO then some (token, .best true rows)
        else some (token, .depth (msg.action = "snapshot") ⟨zeroed rows.bids, zeroed rows.asks⟩)

/-- For `USDT-FUTURES` and `SPOT`. Its `applyBBO` is that of OKX. -/
def adapter (instType : String) : TwoTrack Message where
  read := read instType
  setBest := Okx.setBest
  merge := merge

end Bitget

/-! ## BingX -/

namespace Bingx

structure Message where
  dataType : String
  ts : ℤ
  /-- `T` of the data. -/
  dataTs : ℤ
  bid : Option ℚ := none
  bidQty : Option ℚ := none
  ask : Option ℚ := none
  askQty : Option ℚ := none
  bids : Cells := []
  asks : Cells := []

structure Futures where
  books : AList fun _ : String => Depth
  bbo : AList fun _ : String => BboLevel

def Futures.new : Futures := ⟨∅, ∅⟩

/-- The levels with a size, as they come. -/
def levels (rows : Cells) : List Level :=
  ((positive (zeroed rows)).filterMap rowLevel).map fun level => (level.p, level.s)

def token? (msg : Message) : Option String :=
  let pair := (Go.split msg.dataType '@').headD ""
  if Go.hasSuffix pair "-USDT" then some (Go.trimSuffix pair "-USDT") else none

/-- What a frame says of a token. -/
inductive Change
  | depth (depth : Depth)
  | best (best : BboLevel)

/-- `parseBookTicker`. Best prices that are not positive are dropped. -/
def readBest (msg : Message) : Option Change :=
  let bid := msg.bid.getD 0
  let ask := msg.ask.getD 0
  if bid ≤ 0 ∨ ask ≤ 0 then none
  else some (.best ⟨bid, msg.bidQty.getD 0, ask, msg.askQty.getD 0⟩)

/-- `Parse`. -/
def read (msg : Message) : Option (String × Change) :=
  (token? msg).bind fun token =>
    if Go.contains msg.dataType "@bookTicker" then
      (readBest msg).map fun change => (token, change)
    else if Go.contains msg.dataType "@depth" then
      some (token, .depth ⟨levels msg.bids, levels msg.asks⟩)
    else none

def time (msg : Message) : Option ℤ :=
  if Go.contains msg.dataType "@bookTicker" then
    if 0 < msg.dataTs then some msg.dataTs else none
  else frameTime msg.dataTs msg.ts

namespace Futures

def apply (a : Futures) (token : String) : Change → Futures
  | .depth depth => { a with books := a.books.insert token depth }
  | .best best => { a with bbo := a.bbo.insert token best }

def mergedSnapshot (a : Futures) (token : String) : Depth :=
  merge ((a.books.lookup token).getD ⟨[], []⟩) (a.bbo.lookup token)

def parse (a : Futures) (msg : Message) : Futures × Parsed :=
  match read msg with
  | none => (a, .nothing)
  | some (token, update) =>
      let a := a.apply token update
      (a, .snapshot ⟨token, a.mergedSnapshot token, time msg⟩)

end Futures

end Bingx

/-! ## Frames with a time -/

section

variable {μ : Type} {adapter : TwoTrack μ} {time : μ → Option ℤ} {token : String}

/-- The frames of an adapter that have a time. -/
def timedParse (adapter : TwoTrack μ) (time : μ → Option ℤ) (a : DualTrack) (msg : μ) :
    DualTrack × Parsed :=
  ((a.parse adapter msg).1,
    match (a.parse adapter msg).2 with
    | .snapshot snap => .snapshot { snap with eventTime := time msg }
    | quiet => quiet)

theorem goOn_timedParse : goOn (timedParse adapter time) = goOn (DualTrack.parse adapter) := by
  funext a msg
  unfold goOn timedParse
  cases (a.parse adapter msg).2 with
  | nothing => rfl
  | snapshot snap => rfl
  | resync => rfl

/-- Only the time is different. -/
theorem emits_of_timedParse {ms : List μ} {snap : Snapshot}
    (emits : Emits (timedParse adapter time) .new ms snap) : ∃ snap',
      Emits (DualTrack.parse adapter) .new ms snap' ∧ snap'.symbol = snap.symbol ∧
        snap'.depth = snap.depth := by
  obtain ⟨before, msg, a, whole, executed, emitted⟩ := emits
  rw [goOn_timedParse] at executed
  unfold timedParse at emitted
  cases plain : (a.parse adapter msg).2 with
  | nothing =>
      rw [plain] at emitted
      cases emitted
  | resync =>
      rw [plain] at emitted
      cases emitted
  | snapshot snap' =>
      rw [plain] at emitted
      cases emitted
      exact ⟨snap', ⟨before, msg, a, whole, executed, plain⟩, rfl, rfl⟩

/-! ## The last frame of each stream -/

def Update.depth? : Update → Option Rows
  | .depth _ rows => some rows
  | .best _ _ => none

def Update.best? : Update → Option Rows
  | .depth _ _ => none
  | .best _ rows => some rows

/-- The book of the last depth of a token. -/
def TwoTrack.lastBook (adapter : TwoTrack μ) (token : String) (ms : List μ) : Ladders :=
  (((ms.filterMap (adapter.updateFor token)).filterMap Update.depth?).getLast?.map fun rows =>
    applyDepth true rows ⟨∅, ∅⟩).getD ⟨∅, ∅⟩

/-- The last best prices of a token. -/
def TwoTrack.lastBest (adapter : TwoTrack μ) (token : String) (ms : List μ) : Option BboLevel :=
  ((ms.filterMap (adapter.updateFor token)).filterMap Update.best?).getLast?.map fun rows =>
    adapter.setBest true rows noBest

/-- Every depth is a whole one. -/
def TwoTrack.Whole (adapter : TwoTrack μ) : Prop :=
  ∀ msg token full rows, adapter.read msg = some (token, .depth full rows) → full = true

theorem full_of_updateFor (whole : adapter.Whole) {msg : μ} {full : Bool} {rows : Rows}
    (own : adapter.updateFor token msg = some (.depth full rows)) : full = true := by
  unfold TwoTrack.updateFor at own
  obtain ⟨read, known, mine⟩ := Option.bind_eq_some_iff.mp own
  split at mine
  · have same := Option.some.inj mine
    refine whole msg read.1 full rows ?_
    rw [known, ← same]
  · cases mine

/-- By the last frame: one of depth replaces the book, one of best prices leaves it. -/
theorem book_of_updates (updates : List Update)
    (whole : ∀ full rows, Update.depth full rows ∈ updates → full = true) :
    (updates.foldl (Update.over adapter) (⟨∅, ∅⟩, none)).1 =
      ((updates.filterMap Update.depth?).getLast?.map fun rows =>
        applyDepth true rows ⟨∅, ∅⟩).getD ⟨∅, ∅⟩ := by
  induction updates using List.reverseRecOn with
  | nil => rfl
  | append_singleton updates update ih =>
      have before := ih fun full rows member =>
        whole full rows (List.mem_append_left _ member)
      cases update with
      | depth full rows =>
          have isWhole : full = true := whole full rows List.mem_concat_self
          simp [Update.over, Update.depth?, applyDepth, isWhole, List.filterMap_append]
      | best full rows =>
          simpa [Update.over, Update.depth?, List.filterMap_append] using before

/-- Where best prices take the place of those before. -/
theorem best_of_updates
    (replaces : ∀ full rows b, adapter.setBest full rows b = adapter.setBest true rows noBest)
    (updates : List Update) :
    (updates.foldl (Update.over adapter) (⟨∅, ∅⟩, none)).2 =
      (updates.filterMap Update.best?).getLast?.map fun rows =>
        adapter.setBest true rows noBest := by
  induction updates using List.reverseRecOn with
  | nil => rfl
  | append_singleton updates update ih =>
      cases update with
      | depth full rows => simpa [Update.over, Update.best?, List.filterMap_append] using ih
      | best full rows =>
          simp [Update.over, Update.best?, replaces full, List.filterMap_append]

theorem book_of_streams (whole : adapter.Whole) (token : String) (ms : List μ) :
    (adapter.streams token ms).1 = adapter.lastBook token ms := by
  refine book_of_updates _ fun full rows member => ?_
  obtain ⟨msg, -, own⟩ := List.mem_filterMap.mp member
  exact full_of_updateFor whole own

theorem best_of_streams
    (replaces : ∀ full rows b, adapter.setBest full rows b = adapter.setBest true rows noBest)
    (token : String) (ms : List μ) :
    (adapter.streams token ms).2 = adapter.lastBest token ms :=
  best_of_updates replaces _

end

theorem Binance.adapter_whole : Binance.adapter.Whole := by
  intro msg token full rows read
  replace read : Binance.read msg = some (token, .depth full rows) := read
  unfold Binance.read at read
  split at read
  · cases read
  obtain ⟨token', -, read⟩ := Option.bind_eq_some_iff.mp read
  split at read
  · cases read
  obtain ⟨update, decoded, same⟩ := Option.map_eq_some_iff.mp read
  cases same
  split at decoded
  · unfold readBest at decoded
    split at decoded <;> cases decoded
  · unfold readDepth at decoded
    split at decoded
    · cases decoded
      rfl
    · cases decoded

theorem Aster.adapter_whole : Aster.adapter.Whole := by
  intro msg token full rows read
  replace read : Aster.read msg = some (token, .depth full rows) := read
  unfold Aster.read at read
  split at read
  · cases read
  obtain ⟨token', -, read⟩ := Option.bind_eq_some_iff.mp read
  obtain ⟨update, decoded, same⟩ := Option.map_eq_some_iff.mp read
  cases same
  split at decoded
  · unfold readBest at decoded
    split at decoded
    · split at decoded
      · cases decoded
      · split at decoded <;> cases decoded
    · cases decoded
  · cases decoded
    rfl

namespace Bingx

def Change.over (latest : Option Depth × Option BboLevel) :
    Change → Option Depth × Option BboLevel
  | .depth sides => (some sides, latest.2)
  | .best level => (latest.1, some level)

def updateFor (token : String) (msg : Message) : Option Change :=
  (read msg).bind fun read => if read.1 = token then some read.2 else none

/-- The last depth and the last best prices of a token. -/
def latest (token : String) (ms : List Message) : Option Depth × Option BboLevel :=
  (ms.filterMap (updateFor token)).foldl Change.over (none, none)

def Futures.latestOf (a : Futures) (token : String) : Option Depth × Option BboLevel :=
  (a.books.lookup token, a.bbo.lookup token)

theorem Futures.parse_latestOf (a : Futures) (msg : Message) (token : String) :
    (a.parse msg).1.latestOf token =
      match updateFor token msg with
      | none => a.latestOf token
      | some update => update.over (a.latestOf token) := by
  unfold Futures.parse updateFor
  cases known : read msg with
  | none => rfl
  | some read =>
      obtain ⟨token', change⟩ := read
      by_cases own : token' = token
      · subst own
        cases change with
        | depth depth => simp [Futures.apply, Futures.latestOf, Change.over]
        | best best => simp [Futures.apply, Futures.latestOf, Change.over]
      · have other : token ≠ token' := fun same => own same.symm
        cases change with
        | depth depth =>
            simp [own, Futures.apply, Futures.latestOf, AList.lookup_insert_ne other]
        | best best =>
            simp [own, Futures.apply, Futures.latestOf, AList.lookup_insert_ne other]

theorem latestOf_of_exec {a : Futures} {ms : List Message} {token : String}
    (executed : exec (goOn Futures.parse) .new ms = some a) :
    a.latestOf token = latest token ms := by
  have followed := exec_filterMap (fun latest update => some (Change.over latest update))
    (fun a : Futures => a.latestOf token) (updateFor token)
    (fun a msg a' update _ goes own => by
      rcases goOn_eq_some.mp goes with ⟨-, rfl⟩
      rw [Futures.parse_latestOf, own])
    (fun a msg a' _ goes other => by
      rcases goOn_eq_some.mp goes with ⟨-, rfl⟩
      rw [Futures.parse_latestOf, other])
    (fun _ _ => trivial) executed
  rw [exec_total] at followed
  exact (Option.some.inj followed).symm

theorem depth_of_emits {ms : List Message} {snap : Snapshot}
    (emits : Emits Futures.parse .new ms snap) :
    snap.depth = merge ((latest snap.symbol ms).1.getD ⟨[], []⟩) (latest snap.symbol ms).2 := by
  rcases emits.exec with ⟨before, m, a, rfl, emitted, executed⟩
  rw [← latestOf_of_exec executed]
  unfold Futures.parse at emitted ⊢
  split at emitted
  · cases emitted
  · cases emitted
    rfl

end Bingx

/-! ## What is emitted -/

/-- Of an adapter that is sent the whole depth, and both best prices. -/
theorem overlaid_of_whole {μ : Type} {adapter : TwoTrack μ} {time : μ → Option ℤ}
    (whole : adapter.Whole)
    (replaces : ∀ full rows b, adapter.setBest full rows b = adapter.setBest true rows noBest)
    (merges : ∀ depth bbo, adapter.merge depth bbo = merge depth bbo) {ms : List μ}
    {snap : Snapshot} (emits : Emits (timedParse adapter time) .new ms snap) :
    snap.depth = merge (adapter.lastBook snap.symbol ms).depth
      (adapter.lastBest snap.symbol ms) ∧
    ((adapter.lastBook snap.symbol ms).depth.Uncrossed → snap.depth.WellFormed) := by
  obtain ⟨snap', emits', symbol, depth⟩ := emits_of_timedParse emits
  have merged := depth_of_emits emits'
  rw [merges, book_of_streams whole, best_of_streams replaces, symbol, depth] at merged
  refine ⟨merged, fun uncrossed => ?_⟩
  rw [merged]
  exact wellFormed_merge (sorted_depth _) uncrossed _

/-- What the adapters of Binance, Aster, Bitget and BingX emit is the last best prices of the symbol
over its last depth, for Bitget over the snapshot and its changes; and it is well formed if that
depth is not crossed, for BingX if it is also in order. -/
theorem best_prices_over_depth (instType : String) (bms ams : List StreamMessage)
    (tms : List Bitget.Message) (xms : List Bingx.Message) (snap : Snapshot) :
    (Emits (timedParse Binance.adapter StreamMessage.time) .new bms snap →
      snap.depth = merge (Binance.adapter.lastBook snap.symbol bms).depth
        (Binance.adapter.lastBest snap.symbol bms) ∧
      ((Binance.adapter.lastBook snap.symbol bms).depth.Uncrossed → snap.depth.WellFormed)) ∧
    (Emits (timedParse Aster.adapter StreamMessage.time) .new ams snap →
      snap.depth = merge (Aster.adapter.lastBook snap.symbol ams).depth
        (Aster.adapter.lastBest snap.symbol ams) ∧
      ((Aster.adapter.lastBook snap.symbol ams).depth.Uncrossed → snap.depth.WellFormed)) ∧
    (Emits (DualTrack.parse (Bitget.adapter instType)) .new tms snap →
      snap.depth = merge ((Bitget.adapter instType).streams snap.symbol tms).1.depth
        ((Bitget.adapter instType).lastBest snap.symbol tms) ∧
      (((Bitget.adapter instType).streams snap.symbol tms).1.depth.Uncrossed →
        snap.depth.WellFormed)) ∧
    (Emits Bingx.Futures.parse .new xms snap →
      snap.depth = merge ((Bingx.latest snap.symbol xms).1.getD ⟨[], []⟩)
        (Bingx.latest snap.symbol xms).2 ∧
      (Sorted ((Bingx.latest snap.symbol xms).1.getD ⟨[], []⟩) →
        ((Bingx.latest snap.symbol xms).1.getD ⟨[], []⟩).Uncrossed → snap.depth.WellFormed)) := by
  refine ⟨fun emits => ?_, fun emits => ?_, fun emits => ?_, fun emits => ?_⟩
  · exact overlaid_of_whole Binance.adapter_whole (fun _ _ _ => rfl) (fun _ _ => rfl) emits
  · exact overlaid_of_whole Aster.adapter_whole (fun _ _ _ => rfl) (fun _ _ => rfl) emits
  · have merged := depth_of_emits emits
    rw [best_of_streams (fun _ _ _ => rfl)] at merged
    refine ⟨merged, fun uncrossed => ?_⟩
    rw [merged]
    exact wellFormed_merge (sorted_depth _) uncrossed _
  · have merged := Bingx.depth_of_emits emits
    refine ⟨merged, fun sorted uncrossed => ?_⟩
    rw [merged]
    exact wellFormed_merge sorted uncrossed _

/-- A bid and an ask, then best prices above both. -/
def binanceAhead : List StreamMessage :=
  [{ stream := "btcusdt@depth20@100ms", result := false, symbol := "BTCUSDT", evTime := 0
     tradeTs := 1000, b := .rows [[some 100, some 1]], bidQty := none
     a := .rows [[some 101, some 1]], askQty := none, bids := [], asks := [], trading := true },
    { stream := "btcusdt@bookTicker", result := false, symbol := "BTCUSDT", evTime := 0
      tradeTs := 1001, b := .price (some 102), bidQty := some 1, a := .price (some 103)
      askQty := some 1, bids := [], asks := [], trading := true }]

/-- Best prices before any depth. -/
def bingxFirst : Bingx.Message :=
  { dataType := "BTC-USDT@bookTicker", ts := 0, dataTs := 1000, bid := some 100, bidQty := some 1
    ask := some 101, askQty := some 1 }

theorem best_prices_ahead :
    (merge (Binance.adapter.lastBook "BTC" binanceAhead).depth
        (some ⟨102, 1, 103, 1⟩)).WellFormed ∧
      (merge ⟨[], []⟩ (some ⟨100, 1, 101, 1⟩)).WellFormed := by
  have binance := (best_prices_over_depth "" binanceAhead [] [] []
    ⟨"BTC", merge (Binance.adapter.lastBook "BTC" binanceAhead).depth (some ⟨102, 1, 103, 1⟩),
      some 1001⟩).1 ⟨binanceAhead.take 1, _, _, rfl, rfl, rfl⟩
  have bingx := (best_prices_over_depth "" [] [] [] [bingxFirst]
    ⟨"BTC", merge ⟨[], []⟩ (some ⟨100, 1, 101, 1⟩), some 1000⟩).2.2.2
    ⟨[], _, _, rfl, rfl, rfl⟩
  refine ⟨binance.2 ?_, bingx.2 sorted_nil ?_⟩
  · have book : (Binance.adapter.lastBook "BTC" binanceAhead).depth
        = ⟨[(100, 1)], [(101, 1)]⟩ := by
      decide +kernel
    show Depth.Uncrossed (Binance.adapter.lastBook "BTC" binanceAhead).depth
    rw [book]
    intro bid member ask member'
    rw [List.mem_singleton.mp member, List.mem_singleton.mp member']
    norm_num
  · intro bid member
    cases member

end Exchange

end Avalant
