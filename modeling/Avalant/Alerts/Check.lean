import Avalant.Db.Models
import Avalant.Lib.EventLog
import Avalant.Lib.Run

/-!
Spread alerts: the requests of the users, and the workers that check the alerts.

A worker keeps a copy of the enabled alerts, reads it again when it is ten seconds old, and goes
through it at every tick. What it sends for an alert it first claims, with an `UPDATE` that takes
the row only while it is enabled. Requests read a row and write it back later.
-/

namespace Avalant

open EventLog Relational Transition

namespace Alerts

inductive Direction
  | any
  | above
  | below
  deriving DecidableEq

inductive AlertMode
  | futures
  | spot
  | dex
  | dexSpot
  deriving DecidableEq

inductive TriggerMode
  | speed
  | protected_
  deriving DecidableEq

/-- The columns that a request sets. -/
structure AlertConfig where
  symbol : String
  longExchange : String
  shortExchange : String
  threshold : ℚ
  direction : Direction := .any
  mode : Option AlertMode := some .futures
  triggerMode : Option TriggerMode := some .speed
  deriving DecidableEq

structure ArbAlert where
  id : Nat
  userId : Nat
  config : AlertConfig
  enabled : Bool := true
  lastTriggeredAt : Option ℤ := none
  deriving DecidableEq

instance : Keyed ArbAlert := ⟨ArbAlert.id⟩

/-! ## Opportunities -/

/-- A row of a file of opportunities. A null reads as a field that is missing. -/
structure Opportunity where
  text : String → Option String
  number : String → Option ℚ

/-- What the four files give. -/
abbrev Opportunities := AlertMode → List Opportunity

/-- `_MODE_META`: the field of the long leg. -/
def longFieldForMode : AlertMode → String
  | .futures => "long_exchange"
  | .spot => "spot_exchange"
  | .dex => "dex_name"
  | .dexSpot => "dex_name"

/-- `_short_field_for_mode`. -/
def shortFieldForMode : AlertMode → String
  | .dexSpot => "cex_exchange"
  | _ => "short_exchange"

/-- `_opp_spread`. -/
def oppSpread (opp : Opportunity) : ℚ :=
  (((opp.number "in_pct").or (opp.number "net_profit")).or (opp.number "spread_pct")).getD 0

/-- `_get_spread_from_opps`. -/
def getSpreadFromOpps (opps : List Opportunity) (symbol longEx shortEx longField shortField : String) :
    Option ℚ :=
  (opps.find? fun opp =>
    opp.text "symbol" = some symbol ∧
      Python.lower ((opp.text longField).getD "") = Python.lower longEx ∧
      Python.lower ((opp.text shortField).getD "") = Python.lower shortEx).map oppSpread

/-- `_best_pair_from_opps`. -/
def bestPairFromOpps (opps : List Opportunity) (symbol longField shortField : String) :
    Option (String × String × ℚ) :=
  opps.foldl (fun best opp =>
    if opp.text "symbol" ≠ some symbol then best
    else
      let pair := ((opp.text longField).getD "", (opp.text shortField).getD "", oppSpread opp)
      match best with
      | none => some pair
      | some found => if |found.2.2| < |oppSpread opp| then some pair else some found) none

/-- A name that stands for every exchange. -/
def isAnyName (name : String) : Bool :=
  name = "" ∨ name = "*"

/-- The spread that an alert looks at. -/
def AlertConfig.spread (config : AlertConfig) (opps : Opportunities) : Option ℚ :=
  let mode := config.mode.getD .futures
  let longField := longFieldForMode mode
  let shortField := shortFieldForMode mode
  if isAnyName config.longExchange || isAnyName config.shortExchange then
    (bestPairFromOpps (opps mode) config.symbol longField shortField).map fun best => best.2.2
  else
    getSpreadFromOpps (opps mode) config.symbol config.longExchange config.shortExchange longField
      shortField

/-- Whether a spread meets the threshold in the direction. -/
def AlertConfig.meets (config : AlertConfig) (spread : ℚ) : Bool :=
  match config.direction with
  | .any => config.threshold ≤ |spread|
  | .above => config.threshold ≤ spread
  | .below => spread ≤ -config.threshold

def AlertConfig.satisfied (config : AlertConfig) (opps : Opportunities) : Bool :=
  (config.spread opps).any config.meets

/-! ## Workers -/

/-- An alert of the list of a worker, with the chat of its user. -/
structure CachedAlert where
  alert : ArbAlert
  tgChatId : Option String

/-- Where a tick is in its list. -/
inductive CheckPhase
  | next
  /-- Between the two checks of a protected alert. -/
  | sleeping (seen : Opportunities)
  /-- Before the claim of an alert, with what its checks have read. -/
  | claiming (seen : List Opportunities)

structure Tick where
  startedAt : Nat
  now : ℤ
  position : Nat := 0
  phase : CheckPhase := .next

structure Worker where
  alertsCache : List CachedAlert := []
  alertsCacheTs : Nat := 0
  tick : Option Tick := none

/-- Ten seconds, in milliseconds of the monotonic clock. -/
def dbRefreshInterval : Nat := 10000

/-- An hour, in milliseconds. -/
def cooldown : ℤ := 3600000

namespace CachedAlert

/-- Whether an alert is passed over without a look at the spreads. -/
def skipped (c : CachedAlert) (now : ℤ) : Bool :=
  !c.alert.enabled || c.alert.lastTriggeredAt.any fun last => now - last < cooldown

/-- Whether there is a chat to send to. -/
def hasChat (c : CachedAlert) : Bool :=
  c.tgChatId.any (· ≠ "")

/-- What a claim leaves of the copy. -/
def fired (c : CachedAlert) (now : ℤ) : CachedAlert :=
  { c with alert := { c.alert with enabled := false, lastTriggeredAt := some now } }

end CachedAlert

namespace Worker

/-- The alert that the tick has come to. -/
def current (w : Worker) (tick : Tick) : Option CachedAlert :=
  w.alertsCache[tick.position]?

def toPhase (w : Worker) (tick : Tick) (phase : CheckPhase) : Worker :=
  { w with tick := some { tick with phase } }

def advance (w : Worker) (tick : Tick) : Worker :=
  { w with tick := some { tick with position := tick.position + 1, phase := .next } }

/-- After the checks: an alert without a chat is passed over. -/
def toClaim (w : Worker) (tick : Tick) (c : CachedAlert) (seen : List Opportunities) : Worker :=
  if c.hasChat then w.toPhase tick (.claiming seen) else w.advance tick

/-- The first check of an alert. -/
def check (w : Worker) (tick : Tick) (c : CachedAlert) (opps : Opportunities) : Worker :=
  if c.skipped tick.now || !c.alert.config.satisfied opps then w.advance tick
  else if c.alert.config.triggerMode = some .protected_ then w.toPhase tick (.sleeping opps)
  else w.toClaim tick c [opps]

/-- The check of a protected alert after its three seconds. -/
def recheck (w : Worker) (tick : Tick) (c : CachedAlert) (seen opps : Opportunities) : Worker :=
  if c.alert.config.satisfied opps then w.toClaim tick c [seen, opps] else w.advance tick

/-- What a claim leaves of the list, won or not. -/
def afterClaim (w : Worker) (tick : Tick) (c : CachedAlert) : Worker :=
  { w.advance tick with
    alertsCache := w.alertsCache.set tick.position (c.fired tick.now)
    alertsCacheTs := 0 }

end Worker

/-! ## The system -/

/-- A request that has read its row. -/
inductive Request
  | update (read : ArbAlert) (config : AlertConfig)
  | toggle (read : ArbAlert)
  | delete (read : ArbAlert)

/-- An alert that was claimed by a worker. -/
structure Trigger where
  worker : Nat
  /-- The row that the claim found. -/
  stored : ArbAlert
  /-- What the worker read at its checks. -/
  seen : List Opportunities
  startedAt : Nat

/-- What the statements look at. -/
inductive AlertEvent
  /-- An alert was created, or its flag was set. -/
  | enabled (id : Nat)
  /-- A worker read the enabled rows. -/
  | refreshed (worker : Nat) (rows : Table ArbAlert) (time : Nat)
  | triggered (trigger : Trigger)

structure AlertSystem where
  alerts : Table ArbAlert := .empty
  nextId : Nat := 0
  monotonic : Nat := 0
  workers : List Worker := []
  requests : List Request := []
  log : List AlertEvent := []

inductive AlertAct
  | startWorker
  | pass (elapsed : Nat)
  /-- A tick begins, with the wall clock and the chats of the users. -/
  | tick (worker : Nat) (now : ℤ) (chats : Nat → Option String)
  | check (worker : Nat) (opps : Opportunities)
  | claim (worker : Nat)
  /-- An exception ends a tick. -/
  | abort (worker : Nat)
  | create (userId : Nat) (config : AlertConfig)
  | createToken (userId : Nat) (config : AlertConfig)
  | openUpdate (userId id : Nat) (config : AlertConfig)
  | openToggle (userId id : Nat)
  | openDelete (userId id : Nat)
  | commit (request : Nat)

/-- The columns of a row that a request has changed, written to the row as it is now. -/
def AlertConfig.write (read new stored : AlertConfig) : AlertConfig where
  symbol := (Python.dirty read.symbol new.symbol).getD stored.symbol
  longExchange := (Python.dirty read.longExchange new.longExchange).getD stored.longExchange
  shortExchange := (Python.dirty read.shortExchange new.shortExchange).getD stored.shortExchange
  threshold := (Python.dirty read.threshold new.threshold).getD stored.threshold
  direction := (Python.dirty read.direction new.direction).getD stored.direction
  mode := (Python.dirty read.mode new.mode).getD stored.mode
  triggerMode := (Python.dirty read.triggerMode new.triggerMode).getD stored.triggerMode

/-- `long_exchange and short_exchange must differ`. -/
def AlertConfig.sameExchanges (config : AlertConfig) : Bool :=
  config.longExchange ≠ "*" ∧ config.shortExchange ≠ "*" ∧
    config.longExchange = config.shortExchange

namespace AlertSystem

def setWorker (s : AlertSystem) (i : Nat) (w : Worker) : AlertSystem :=
  { s with workers := s.workers.set i w }

def record (s : AlertSystem) (e : AlertEvent) : AlertSystem :=
  { s with log := s.log ++ [e] }

/-- `_load_alerts_from_db`. -/
def loadAlertsFromDb (s : AlertSystem) (chats : Nat → Option String) : List CachedAlert :=
  (s.alerts.where_ ArbAlert.enabled).map fun a => ⟨a, chats a.userId⟩

/-- The start of `_check_alerts`. -/
def startTick (s : AlertSystem) (i : Nat) (w : Worker) (now : ℤ) (chats : Nat → Option String) :
    AlertSystem :=
  let tick : Tick := ⟨s.monotonic, now, 0, .next⟩
  if dbRefreshInterval ≤ s.monotonic - w.alertsCacheTs then
    (s.setWorker i ⟨s.loadAlertsFromDb chats, s.monotonic, some tick⟩).record
      (.refreshed i s.alerts s.monotonic)
  else s.setWorker i { w with tick := some tick }

/-- `_claim_alert_for_fire`, and what the worker does after it. -/
def claim (s : AlertSystem) (i : Nat) (w : Worker) (tick : Tick) (c : CachedAlert)
    (seen : List Opportunities) : AlertSystem :=
  let s := s.setWorker i (w.afterClaim tick c)
  match s.alerts.get? c.alert.id with
  | some row =>
      if row.enabled then
        { s with
          alerts := s.alerts.put { row with enabled := false, lastTriggeredAt := some tick.now }
          log := s.log ++ [.triggered ⟨i, row, seen, tick.startedAt⟩] }
      else s
  | none => s

/-- A new row, enabled. -/
def insert (s : AlertSystem) (userId : Nat) (config : AlertConfig) : AlertSystem :=
  { s with
    alerts := s.alerts.insert { id := s.nextId, userId, config }
    nextId := s.nextId + 1
    log := s.log ++ [.enabled s.nextId] }

/-- The alerts that a new token alert takes the place of. -/
def replaced (userId : Nat) (config : AlertConfig) (a : ArbAlert) : Bool :=
  a.userId = userId ∧ a.config.symbol = config.symbol ∧ a.config.longExchange = "*" ∧
    a.config.shortExchange = "*" ∧ (a.config.mode = config.mode ∨ a.config.mode = none)

/-- The row of a user. -/
def owned (s : AlertSystem) (userId id : Nat) : Option ArbAlert :=
  (s.alerts.get? id).filter (·.userId = userId)

/-- The flush of a request; a row that is gone is not written. -/
def flush (s : AlertSystem) : Request → AlertSystem
  | .update read config =>
      match s.alerts.get? read.id with
      | some row =>
          { s with alerts := s.alerts.put { row with config := read.config.write config row.config } }
      | none => s
  | .toggle read =>
      match s.alerts.get? read.id with
      | some row =>
          let s := { s with alerts := s.alerts.put { row with enabled := !read.enabled } }
          if read.enabled then s else s.record (.enabled row.id)
      | none => s
  | .delete read => { s with alerts := s.alerts.erase read.id }

def step (s : AlertSystem) : AlertAct → Option AlertSystem
  | .startWorker => some { s with workers := s.workers ++ [{}] }
  | .pass elapsed => some { s with monotonic := s.monotonic + elapsed }
  | .tick i now chats =>
      match s.workers[i]? with
      | some w => if w.tick.isNone then some (s.startTick i w now chats) else none
      | none => none
  | .check i opps => do
      let w ← s.workers[i]?
      let tick ← w.tick
      match w.current tick, tick.phase with
      | none, _ => some (s.setWorker i { w with tick := none })
      | some c, .next => some (s.setWorker i (w.check tick c opps))
      | some c, .sleeping seen => some (s.setWorker i (w.recheck tick c seen opps))
      | some _, .claiming _ => none
  | .claim i => do
      let w ← s.workers[i]?
      let tick ← w.tick
      match w.current tick, tick.phase with
      | some c, .claiming seen => some (s.claim i w tick c seen)
      | _, _ => none
  | .abort i => do
      let w ← s.workers[i]?
      some (s.setWorker i { w with tick := none })
  | .create userId config =>
      if config.sameExchanges then none else some (s.insert userId config)
  | .createToken userId config =>
      let config := { config with longExchange := "*", shortExchange := "*" }
      let kept := s.alerts.select fun a => !replaced userId config a
      some (insert { s with alerts := kept } userId config)
  | .openUpdate userId id config =>
      if config.sameExchanges then none
      else (s.owned userId id).map fun a => { s with requests := s.requests ++ [.update a config] }
  | .openToggle userId id =>
      (s.owned userId id).map fun a => { s with requests := s.requests ++ [.toggle a] }
  | .openDelete userId id =>
      (s.owned userId id).map fun a => { s with requests := s.requests ++ [.delete a] }
  | .commit n =>
      (s.requests[n]?).map fun request =>
        flush { s with requests := s.requests.eraseIdx n } request

end AlertSystem

/-! ## What triggers stand on -/

def IsEnabled (id : Nat) : AlertEvent → Prop
  | .enabled id' => id' = id
  | _ => False

def IsTriggered (id : Nat) : AlertEvent → Prop
  | .triggered t => t.stored.id = id
  | _ => False

def IsRefreshed (worker : Nat) : AlertEvent → Prop
  | .refreshed worker' _ _ => worker' = worker
  | _ => False

/-- Each trigger was for an alert that was enabled and whose configuration, as it was then, the
opportunities of the checks satisfy. -/
def FiresOnCurrent (s : AlertSystem) : Prop :=
  ∀ t, .triggered t ∈ s.log →
    t.stored.enabled = true ∧ ∀ opps ∈ t.seen, t.stored.config.satisfied opps = true

/-- Between two triggers of an alert it was enabled. -/
def OncePerEnable (s : AlertSystem) : Prop :=
  ∀ id, Separated (IsEnabled id) (IsTriggered id) s.log

/-- In every reachable state. -/
def AlwaysFires (fires : AlertSystem → Prop) : Prop :=
  ∀ s, Run AlertSystem.step (fun _ _ => True) {} s → fires s ∧ OncePerEnable s

/-- A trigger, against the log before it. The configuration is that of the last time the worker
read the rows, when the alert was enabled as well, less than ten seconds before the tick began. -/
def FiresOnLastRead (log : List AlertEvent) : AlertEvent → Prop
  | .triggered t =>
      t.stored.enabled = true ∧ t.seen ≠ [] ∧
        ∃ i rows time row, LastAt (IsRefreshed t.worker) log i (.refreshed t.worker rows time) ∧
          t.startedAt < time + dbRefreshInterval ∧ rows.get? t.stored.id = some row ∧
            row.enabled = true ∧ ∀ opps ∈ t.seen, row.config.satisfied opps = true
  | _ => True

/-- Each trigger was for an alert that was enabled and whose configuration, as the worker last read
it, the opportunities of the checks satisfy. -/
def FiresOnRead (s : AlertSystem) : Prop :=
  Each FiresOnLastRead s.log

end Alerts

end Avalant
