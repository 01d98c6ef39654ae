import Avalant.Alerts.Check

/-!
What is known of an alert when it is triggered, and how often it is.
-/

namespace Avalant

open EventLog Relational Transition

namespace Alerts

variable {s : AlertSystem} {log : List AlertEvent} {e : AlertEvent} {i monotonic : Nat} {w : Worker}

/-! ## The flag -/

/-- Since it was last enabled, an alert has not been triggered. -/
def Armed (id : Nat) (log : List AlertEvent) : Prop :=
  ∃ k, LastAt (fun e => IsEnabled id e ∨ IsTriggered id e) log k (.enabled id)

theorem armed_enabled (id : Nat) (log : List AlertEvent) : Armed id (log ++ [.enabled id]) :=
  ⟨_, LastAt.concat_self (Or.inl (rfl : id = id))⟩

theorem Armed.concat {id : Nat} (armed : Armed id log) (untriggered : ¬IsTriggered id e) :
    Armed id (log ++ [e]) := by
  by_cases again : IsEnabled id e
  · cases e with
    | enabled id' =>
        have same : id' = id := again
        subst same
        exact armed_enabled id' log
    | refreshed => exact again.elim
    | triggered => exact again.elim
  · obtain ⟨k, last⟩ := armed
    exact ⟨k, last.concat_other fun either => either.elim again untriggered⟩

/-- A trigger of an alert that is armed. -/
theorem Armed.separated {id : Nat} (armed : Armed id log)
    (separated : Separated (IsEnabled id) (IsTriggered id) log) :
    Separated (IsEnabled id) (IsTriggered id) (log ++ [e]) := by
  obtain ⟨k, last⟩ := armed
  refine separated.concat last rfl fun e' enabled => ?_
  cases e' with
  | enabled => exact fun impossible => impossible
  | refreshed => exact enabled.elim
  | triggered => exact enabled.elim

/-! ## Workers -/

/-- What the checks of the current alert have read. -/
def CheckPhase.seen : CheckPhase → List Opportunities
  | .next => []
  | .sleeping seen => [seen]
  | .claiming seen => seen

/-- A tick began less than ten seconds after the list was read, and the alert it has come to is
satisfied by what its checks have read. -/
structure TickSound (w : Worker) (time : Nat) (tick : Tick) : Prop where
  recent : tick.startedAt < time + dbRefreshInterval
  satisfied : ∀ c, w.current tick = some c → ∀ opps ∈ tick.phase.seen,
    c.alert.config.satisfied opps = true
  nonempty : ∀ seen, tick.phase = .claiming seen → seen ≠ []

/-- A copy of a row that was enabled. -/
def CopyOf (rows : Table ArbAlert) (c : CachedAlert) : Prop :=
  ∃ row, rows.get? c.alert.id = some row ∧ row.enabled = true ∧ row.config = c.alert.config

/-- The list of a worker is what it last read. -/
structure ReadAt (log : List AlertEvent) (monotonic i : Nat) (w : Worker) (k : Nat)
    (rows : Table ArbAlert) (time : Nat) : Prop where
  last : LastAt (IsRefreshed i) log k (.refreshed i rows time)
  past : time ≤ monotonic
  stamp : w.alertsCacheTs = time ∨ w.alertsCacheTs = 0
  copies : ∀ c ∈ w.alertsCache, CopyOf rows c
  tick : ∀ tick, w.tick = some tick → TickSound w time tick

/-- A worker that has read a list has it as it was then. -/
def WorkerSound (log : List AlertEvent) (monotonic i : Nat) (w : Worker) : Prop :=
  w.alertsCache = [] ∨ ∃ k rows time, ReadAt log monotonic i w k rows time

theorem WorkerSound.concat (sound : WorkerSound log monotonic i w) (other : ¬IsRefreshed i e) :
    WorkerSound (log ++ [e]) monotonic i w := by
  refine sound.imp id fun read => ?_
  obtain ⟨k, rows, time, read⟩ := read
  exact ⟨k, rows, time, read.last.concat_other other, read.past, read.stamp, read.copies, read.tick⟩

/-- A list that is there was read. -/
theorem WorkerSound.read (sound : WorkerSound log monotonic i w) {tick : Tick} {c : CachedAlert}
    (current : w.current tick = some c) : ∃ k rows time, ReadAt log monotonic i w k rows time := by
  refine sound.resolve_left fun empty => ?_
  unfold Worker.current at current
  rw [empty] at current
  cases current

/-- The tick of a worker goes on. -/
theorem WorkerSound.goOn (sound : WorkerSound log monotonic i w) {next : Option Tick}
    (goesOn : ∀ time, (∀ tick, w.tick = some tick → TickSound w time tick) →
      ∀ tick, next = some tick → TickSound { w with tick := next } time tick) :
    WorkerSound log monotonic i { w with tick := next } := by
  refine sound.imp id fun read => ?_
  obtain ⟨k, rows, time, read⟩ := read
  exact ⟨k, rows, time, read.last, read.past, read.stamp, read.copies, goesOn time read.tick⟩

theorem WorkerSound.endTick (sound : WorkerSound log monotonic i w) :
    WorkerSound log monotonic i { w with tick := none } :=
  sound.goOn fun _ _ tick none => by cases none

theorem WorkerSound.advance (sound : WorkerSound log monotonic i w) {tick : Tick}
    (ticking : w.tick = some tick) : WorkerSound log monotonic i (w.advance tick) := by
  refine sound.goOn fun time earlier next started => ?_
  obtain rfl := Option.some.inj started
  refine ⟨(earlier tick ticking).recent, fun c current opps member => ?_, fun seen claiming => ?_⟩
  · cases member
  · cases claiming

/-- A check that was passed. -/
theorem WorkerSound.toPhase (sound : WorkerSound log monotonic i w) {tick : Tick}
    (ticking : w.tick = some tick) {c : CachedAlert} (current : w.current tick = some c)
    {phase : CheckPhase} (satisfied : ∀ opps ∈ phase.seen, c.alert.config.satisfied opps = true)
    (nonempty : ∀ seen, phase = .claiming seen → seen ≠ []) :
    WorkerSound log monotonic i (w.toPhase tick phase) := by
  refine sound.goOn fun time earlier next started => ?_
  obtain rfl := Option.some.inj started
  refine ⟨(earlier tick ticking).recent, fun c' current' opps member => ?_, nonempty⟩
  obtain rfl := Option.some.inj (current.symm.trans current')
  exact satisfied opps member

theorem WorkerSound.toClaim (sound : WorkerSound log monotonic i w) {tick : Tick}
    (ticking : w.tick = some tick) {c : CachedAlert} (current : w.current tick = some c)
    {seen : List Opportunities} (satisfied : ∀ opps ∈ seen, c.alert.config.satisfied opps = true)
    (nonempty : seen ≠ []) : WorkerSound log monotonic i (w.toClaim tick c seen) := by
  unfold Worker.toClaim
  split
  · refine sound.toPhase ticking current satisfied fun seen' claiming => ?_
    cases claiming
    exact nonempty
  · exact sound.advance ticking

theorem WorkerSound.check (sound : WorkerSound log monotonic i w) {tick : Tick}
    (ticking : w.tick = some tick) {c : CachedAlert} (current : w.current tick = some c)
    (opps : Opportunities) : WorkerSound log monotonic i (w.check tick c opps) := by
  unfold Worker.check
  split
  · exact sound.advance ticking
  case isFalse passed =>
    have satisfied : c.alert.config.satisfied opps = true := by
      rw [Bool.or_eq_true, not_or] at passed
      simpa using passed.2
    have only : ∀ opps' ∈ [opps], c.alert.config.satisfied opps' = true := by
      intro opps' member
      rw [List.mem_singleton.mp member]
      exact satisfied
    split
    · refine sound.toPhase ticking current only fun seen claiming => ?_
      cases claiming
    · exact sound.toClaim ticking current only (List.cons_ne_nil _ _)

theorem WorkerSound.recheck (sound : WorkerSound log monotonic i w) {tick : Tick}
    (ticking : w.tick = some tick) {c : CachedAlert} (current : w.current tick = some c)
    {seen : Opportunities} (sleeping : tick.phase = .sleeping seen) (opps : Opportunities) :
    WorkerSound log monotonic i (w.recheck tick c seen opps) := by
  unfold Worker.recheck
  split
  case isTrue satisfied =>
    obtain ⟨k, rows, time, read⟩ := sound.read current
    have before : c.alert.config.satisfied seen = true := by
      refine (read.tick tick ticking).satisfied c current seen ?_
      rw [sleeping]
      exact List.mem_singleton_self seen
    refine sound.toClaim ticking current (fun opps' member => ?_) (List.cons_ne_nil _ _)
    rcases List.mem_cons.mp member with rfl | last
    · exact before
    · rw [List.mem_singleton.mp last]
      exact satisfied
  case isFalse => exact sound.advance ticking

/-- A claim leaves the copies with their ids and configurations. -/
theorem WorkerSound.afterClaim (sound : WorkerSound log monotonic i w) {tick : Tick}
    (ticking : w.tick = some tick) {c : CachedAlert} (current : w.current tick = some c) :
    WorkerSound log monotonic i (w.afterClaim tick c) := by
  obtain ⟨k, rows, time, read⟩ := sound.read current
  refine Or.inr ⟨k, rows, time, read.last, read.past, Or.inr rfl, fun c' member => ?_, ?_⟩
  · rcases List.mem_or_eq_of_mem_set member with old | rfl
    · exact read.copies c' old
    · exact read.copies c (List.mem_of_getElem? current)
  · intro next started
    obtain rfl := Option.some.inj started
    refine ⟨(read.tick tick ticking).recent, fun c' _ opps seen => ?_, fun seen claiming => ?_⟩
    · cases seen
    · cases claiming

/-! ## The invariant -/

structure Inv (s : AlertSystem) : Prop where
  fires : FiresOnRead s
  once : OncePerEnable s
  armed : ∀ id row, s.alerts.get? id = some row → row.enabled = true → Armed id s.log
  workers : ∀ i w, s.workers[i]? = some w → WorkerSound s.log s.monotonic i w

theorem Inv.setWorker (inv : Inv s) (sound : WorkerSound s.log s.monotonic i w) :
    Inv (s.setWorker i w) := by
  refine ⟨inv.fires, inv.once, inv.armed, fun j w' found => ?_⟩
  unfold AlertSystem.setWorker at found
  by_cases same : j = i
  · subst same
    rw [List.getElem?_set_self'] at found
    obtain ⟨_, -, rfl⟩ := Option.map_eq_some_iff.mp found
    exact sound
  · rw [List.getElem?_set_ne (Ne.symm same)] at found
    exact inv.workers j w' found

/-- The rows change, and no alert gets its flag without the log saying so. -/
theorem Inv.setAlerts (inv : Inv s) {alerts : Table ArbAlert} {nextId : Nat}
    {requests : List Request} (armed : ∀ id row, alerts.get? id = some row → row.enabled = true →
      Armed id s.log) : Inv { s with alerts, nextId, requests } :=
  ⟨inv.fires, inv.once, armed, inv.workers⟩

/-- An alert is enabled. -/
theorem Inv.enable (inv : Inv s) {alerts : Table ArbAlert} {nextId id : Nat}
    {requests : List Request} (armed : ∀ id' row, alerts.get? id' = some row → row.enabled = true →
      id' = id ∨ Armed id' s.log) :
    Inv { s with alerts, nextId, requests, log := s.log ++ [.enabled id] } := by
  refine ⟨inv.fires.concat trivial, fun id' => (inv.once id').concat_other fun none => none, ?_,
    fun j w found => (inv.workers j w found).concat fun none => none⟩
  intro id' row found enabled
  rcases armed id' row found enabled with rfl | before
  · exact armed_enabled id' s.log
  · exact before.concat fun none => none

theorem Inv.startTick (inv : Inv s) (found : s.workers[i]? = some w) (now : ℤ)
    (chats : Nat → Option String) : Inv (s.startTick i w now chats) := by
  unfold AlertSystem.startTick
  dsimp only
  split
  case isTrue due =>
    have last : LastAt (IsRefreshed i) (s.log ++ [.refreshed i s.alerts s.monotonic]) s.log.length
        (.refreshed i s.alerts s.monotonic) := LastAt.concat_self (rfl : i = i)
    refine ⟨inv.fires.concat trivial, fun id => (inv.once id).concat_other fun none => none,
      fun id row known enabled => (inv.armed id row known enabled).concat fun none => none, ?_⟩
    intro j w' known
    unfold AlertSystem.setWorker AlertSystem.record at known
    by_cases same : j = i
    · subst same
      rw [List.getElem?_set_self'] at known
      obtain ⟨_, -, rfl⟩ := Option.map_eq_some_iff.mp known
      refine Or.inr ⟨_, _, _, last, Nat.le_refl _, Or.inl rfl, fun c member => ?_, ?_⟩
      · obtain ⟨row, selected, rfl⟩ := List.mem_map.mp member
        obtain ⟨stored, enabled⟩ := Table.mem_where.mp selected
        exact ⟨row, stored, enabled, rfl⟩
      · intro tick started
        obtain rfl := Option.some.inj started
        refine ⟨Nat.lt_add_of_pos_right (by decide), fun c _ opps seen => ?_, fun seen claiming => ?_⟩
        · cases seen
        · cases claiming
    · rw [List.getElem?_set_ne (Ne.symm same)] at known
      refine (inv.workers j w' known).concat fun here => same ?_
      exact Eq.symm here
  case isFalse fresh =>
    refine inv.setWorker ((inv.workers i w found).imp id fun read => ?_)
    obtain ⟨k, rows, time, read⟩ := read
    refine ⟨k, rows, time, read.last, read.past, read.stamp, read.copies, fun tick started => ?_⟩
    obtain rfl := Option.some.inj started
    refine ⟨?_, fun c _ opps seen => ?_, fun seen claiming => ?_⟩
    · have past := read.past
      dsimp only
      rcases read.stamp with stamp | stamp
      · rw [stamp] at fresh
        omega
      · rw [stamp] at fresh
        omega
    · cases seen
    · cases claiming

/-- A claim that takes a row was of an alert that is armed and sound. -/
theorem Inv.claim (inv : Inv s) (found : s.workers[i]? = some w) {tick : Tick}
    (ticking : w.tick = some tick) {c : CachedAlert} (current : w.current tick = some c)
    {seen : List Opportunities} (claiming : tick.phase = .claiming seen) :
    Inv (s.claim i w tick c seen) := by
  have sound := inv.workers i w found
  have after := inv.setWorker (sound.afterClaim ticking current)
  unfold AlertSystem.claim
  dsimp only
  split
  case h_1 row stored =>
    split
    case isTrue enabled =>
      obtain ⟨k, rows, time, read⟩ := sound.read current
      have ticked := read.tick tick ticking
      obtain ⟨copied, had, on, config⟩ := read.copies c (List.mem_of_getElem? current)
      have own : row.id = c.alert.id := Table.key_of_get? stored
      have armed : Armed row.id s.log := inv.armed row.id row (own ▸ stored) enabled
      refine ⟨?_, fun id => ?_, fun id row' known on' => ?_, fun j w' known => ?_⟩
      · refine inv.fires.concat ⟨enabled, ticked.nonempty seen claiming, k, rows, time, copied,
          read.last, ticked.recent, ?_, on, fun opps member => ?_⟩
        · rw [own]
          exact had
        · rw [config]
          refine ticked.satisfied c current opps ?_
          rw [claiming]
          exact member
      · by_cases same : row.id = id
        · subst same
          exact armed.separated (inv.once row.id)
        · exact (inv.once id).concat_other same
      · dsimp only at known
        rw [Table.get?_put] at known
        split at known
        · obtain rfl := Option.some.inj known
          cases on'
        case isFalse other =>
          exact (inv.armed id row' known on').concat fun same => other same.symm
      · exact (after.workers j w' known).concat fun none => none
    case isFalse => exact after
  case h_2 => exact after

theorem Inv.insert (inv : Inv s) (userId : Nat) (config : AlertConfig) :
    Inv (s.insert userId config) := by
  refine inv.enable fun id row found enabled => ?_
  rw [Table.get?_insert] at found
  cases old : s.alerts.get? id with
  | some row' =>
      rw [old, Option.some_or] at found
      obtain rfl := Option.some.inj found
      exact Or.inr (inv.armed id row' old enabled)
  | none =>
      rw [old, Option.none_or] at found
      split at found
      case isTrue same => exact Or.inl same.symm
      case isFalse => cases found

theorem Inv.flush (inv : Inv s) (request : Request) : Inv (s.flush request) := by
  unfold AlertSystem.flush
  split
  case h_1 read config =>
    split
    case h_1 row stored =>
      refine inv.setAlerts fun id row' found enabled => ?_
      rw [Table.get?_put] at found
      split at found
      case isTrue same =>
        obtain rfl := Option.some.inj found
        have own : row.id = read.id := Table.key_of_get? stored
        have here : id = row.id := same
        rw [here]
        exact inv.armed row.id row (own ▸ stored) enabled
      case isFalse => exact inv.armed id row' found enabled
    case h_2 => exact inv
  case h_2 read =>
    split
    case h_1 row stored =>
      dsimp only
      split
      case isTrue was =>
        refine inv.setAlerts fun id row' found enabled => ?_
        rw [Table.get?_put] at found
        split at found
        · obtain rfl := Option.some.inj found
          rw [was] at enabled
          cases enabled
        · exact inv.armed id row' found enabled
      case isFalse =>
        refine inv.enable fun id row' found enabled => ?_
        rw [Table.get?_put] at found
        split at found
        case isTrue same => exact Or.inl same
        case isFalse => exact Or.inr (inv.armed id row' found enabled)
    case h_2 => exact inv
  case h_3 read =>
    refine inv.setAlerts fun id row found enabled => ?_
    rw [Table.get?_erase] at found
    split at found
    · cases found
    · exact inv.armed id row found enabled

/-! ## Runs -/

theorem Inv.pass (inv : Inv s) (elapsed : Nat) :
    Inv { s with monotonic := s.monotonic + elapsed } := by
  refine ⟨inv.fires, inv.once, inv.armed, fun j w found => (inv.workers j w found).imp id fun read => ?_⟩
  obtain ⟨k, rows, time, read⟩ := read
  have later : time ≤ s.monotonic + elapsed := Nat.le_trans read.past (Nat.le_add_right _ _)
  exact ⟨k, rows, time, read.last, later, read.stamp, read.copies, read.tick⟩

theorem Inv.startWorker (inv : Inv s) : Inv { s with workers := s.workers ++ [{}] } := by
  refine ⟨inv.fires, inv.once, inv.armed, fun j w found => ?_⟩
  rcases old_or_new found with old | ⟨-, rfl⟩
  · exact inv.workers j w old
  · exact Or.inl rfl

theorem Inv.check (inv : Inv s) (opps : Opportunities) {s' : AlertSystem}
    (stepped : s.step (.check i opps) = some s') : Inv s' := by
  obtain ⟨w, found, stepped⟩ := Option.bind_eq_some_iff.mp stepped
  obtain ⟨tick, ticking, stepped⟩ := Option.bind_eq_some_iff.mp stepped
  have sound := inv.workers i w found
  split at stepped
  case h_1 =>
    obtain rfl := Option.some.inj stepped
    exact inv.setWorker sound.endTick
  case h_2 c current _ =>
    obtain rfl := Option.some.inj stepped
    exact inv.setWorker (sound.check ticking current opps)
  case h_3 c seen current sleeping =>
    obtain rfl := Option.some.inj stepped
    exact inv.setWorker (sound.recheck ticking current sleeping opps)
  case h_4 => cases stepped

theorem preserves_inv : Preserves AlertSystem.step (fun _ _ => True) Inv := by
  intro s act s' inv _ stepped
  cases act with
  | startWorker =>
      obtain rfl := Option.some.inj stepped
      exact inv.startWorker
  | pass elapsed =>
      obtain rfl := Option.some.inj stepped
      exact inv.pass elapsed
  | tick i now chats =>
      dsimp only [AlertSystem.step] at stepped
      split at stepped
      case h_1 w found =>
        split at stepped
        · obtain rfl := Option.some.inj stepped
          exact inv.startTick found now chats
        · cases stepped
      case h_2 => cases stepped
  | check i opps => exact inv.check opps stepped
  | claim i =>
      obtain ⟨w, found, stepped⟩ := Option.bind_eq_some_iff.mp stepped
      obtain ⟨tick, ticking, stepped⟩ := Option.bind_eq_some_iff.mp stepped
      split at stepped
      case h_1 c seen current claiming =>
        obtain rfl := Option.some.inj stepped
        exact inv.claim found ticking current claiming
      case h_2 => cases stepped
  | abort i =>
      obtain ⟨w, found, stepped⟩ := Option.bind_eq_some_iff.mp stepped
      obtain rfl := Option.some.inj stepped
      exact inv.setWorker (inv.workers i w found).endTick
  | create userId config =>
      dsimp only [AlertSystem.step] at stepped
      split at stepped
      · cases stepped
      · obtain rfl := Option.some.inj stepped
        exact inv.insert userId config
  | createToken userId config =>
      obtain rfl := Option.some.inj stepped
      refine (inv.setAlerts fun id row found enabled => ?_).insert userId _
      rw [Table.get?_select] at found
      obtain ⟨stored, -⟩ := Option.filter_eq_some_iff.mp found
      exact inv.armed id row stored enabled
  | openUpdate userId id config =>
      dsimp only [AlertSystem.step] at stepped
      split at stepped
      · cases stepped
      · obtain ⟨a, -, rfl⟩ := Option.map_eq_some_iff.mp stepped
        exact inv.setAlerts inv.armed
  | openToggle userId id =>
      obtain ⟨a, -, rfl⟩ := Option.map_eq_some_iff.mp stepped
      exact inv.setAlerts inv.armed
  | openDelete userId id =>
      obtain ⟨a, -, rfl⟩ := Option.map_eq_some_iff.mp stepped
      exact inv.setAlerts inv.armed
  | commit n =>
      obtain ⟨request, -, rfl⟩ := Option.map_eq_some_iff.mp stepped
      exact Inv.flush (inv.setAlerts inv.armed) request

theorem inv_init : Inv {} := by
  refine ⟨each_nil, fun id => separated_nil, fun id row found => ?_, fun i w found => ?_⟩
  · cases found
  · cases found

/-- Every trigger is for what its worker last read of an alert that is enabled, and an alert is
triggered once each time that it is enabled. -/
theorem alwaysFires_onRead : AlwaysFires FiresOnRead := by
  intro s run
  have inv := run.invariant preserves_inv inv_init
  exact ⟨inv.fires, inv.once⟩

/-! ## A threshold that was raised -/

/-- One futures row, of binance and bybit. -/
def inSpread (spread : ℚ) : Opportunities
  | .futures =>
      [{ text := fun field =>
          if field = "symbol" then some "BTC"
          else if field = "long_exchange" then some "binance"
          else if field = "short_exchange" then some "bybit"
          else none
         number := fun field => if field = "in_pct" then some spread else none }]
  | _ => []

def alertAt (threshold : ℚ) : AlertConfig where
  symbol := "BTC"
  longExchange := "binance"
  shortExchange := "bybit"
  threshold

/-- The user raises the threshold after the worker has read the alert. -/
def raisedRun : List AlertAct :=
  [.startWorker, .create 1 (alertAt 1), .pass 10000, .tick 0 0 fun _ => some "chat",
    .openUpdate 1 0 (alertAt 5), .commit 0, .check 0 (inSpread 2), .claim 0]

/-- For each trigger, whether its checks satisfy the configuration of the row. -/
def currents (s : AlertSystem) : List Bool :=
  s.log.filterMap fun e =>
    match e with
    | .triggered t => some (t.seen.all t.stored.config.satisfied)
    | _ => none

theorem alwaysFires_onCurrent_broken : ¬AlwaysFires FiresOnCurrent := by
  intro always
  have raised : (exec AlertSystem.step {} raisedRun).map currents = some [false] := by
    decide +kernel
  obtain ⟨s, ran, view⟩ := Option.map_eq_some_iff.mp raised
  have member : false ∈ currents s := by
    rw [view]
    exact List.mem_singleton_self false
  obtain ⟨e, logged, unmet⟩ := List.mem_filterMap.mp member
  cases e with
  | enabled => cases unmet
  | refreshed => cases unmet
  | triggered t =>
      have met := ((always s (Run.of_exec ran)).1 t logged).2
      have same : t.seen.all t.stored.config.satisfied = false := Option.some.inj unmet
      rw [List.all_eq_true.mpr met] at same
      cases same

end Alerts

end Avalant
