import Avalant.Db.Models
import Avalant.Lib.Python
import Avalant.Lib.Run
import Avalant.Lib.Table
import Avalant.UserStream.Snapshot
import Mathlib.Data.List.AList

/-!
The registry of the supervised streams, and the scan that syncs it with the wallets.

An entry is found by user and wallet, and its task has the credentials that the wallet had when it
was started. The scan looks at the entry of each wallet that should have a stream, and then stops
the streams of all others.
-/

namespace Avalant

namespace UserStream

open Relational Transition

/-! ## Wallets and tasks -/

/-- Decrypted credentials. -/
abbrev Creds := List (String × String)

/-- `creds.get(name)` is given and not empty. -/
def Creds.has (creds : Creds) (name : String) : Bool :=
  (creds.lookup name).any (· ≠ "")

/-- There is something to subscribe with. -/
def Creds.usable (creds : Creds) : Bool :=
  creds.has "api_key" || creds.has "address" || creds.has "private_key"

/-- A wallet with its credentials, none when they cannot be decrypted. -/
structure StreamWallet extends Wallet where
  credentials : Option Creds

instance : Keyed StreamWallet := ⟨fun w => w.id⟩

/-- A user and a wallet. -/
abbrev StreamKey := Nat × Nat

def StreamWallet.key (w : StreamWallet) : StreamKey := (w.userId, w.id)

structure StreamTask where
  /-- The number of its task. -/
  task : Nat
  exchange : String
  creds : Creds
  state : Status
  authFailed : Bool

/-- Refused, and not to be started again. -/
def StreamTask.gaveUp (t : StreamTask) : Bool :=
  t.state = .dead && t.authFailed

/-- A task that is not done, and the credentials that its stream uses. -/
structure RunningStream where
  task : Nat
  key : StreamKey
  creds : Creds

/-- The venues of `ADAPTERS`. -/
def adapters : List String :=
  ["binance", "aster", "bybit", "okx", "bitget", "gate", "bingx", "hyperliquid", "kucoin", "mexc",
   "backpack", "lighter", "whitebit", "kraken", "htx"]

/-! ## The registry -/

structure Registry where
  streams : AList fun _ : StreamKey => StreamTask
  live : List RunningStream
  nextTask : Nat

namespace Registry

/-- `not task.done()`. -/
def alive (r : Registry) (task : Nat) : Bool :=
  r.live.any (·.task = task)

/-- The task of an entry, when it is running. -/
def runningTask (r : Registry) (key : StreamKey) : Option StreamTask :=
  (r.streams.lookup key).filter fun t => r.alive t.task

/-- The entry was refused, and is not started again. -/
def gaveUp (r : Registry) (key : StreamKey) : Bool :=
  (r.streams.lookup key).any StreamTask.gaveUp

def spawn (r : Registry) (key : StreamKey) (exchange : String) (creds : Creds) : Registry where
  streams := r.streams.insert key ⟨r.nextTask, exchange, creds, .init, false⟩
  live := r.live ++ [⟨r.nextTask, key, creds⟩]
  nextTask := r.nextTask + 1

/-- `_ensure_stream`. -/
def ensureStream (r : Registry) (key : StreamKey) (exchange : String) (creds : Creds) : Registry :=
  match r.streams.lookup key with
  | some existing => if r.alive existing.task then r else r.spawn key exchange creds
  | none => r.spawn key exchange creds

/-- `_stop_stream`; a task that does not end is cancelled. -/
def stopStream (r : Registry) (key : StreamKey) : Registry :=
  match r.streams.lookup key with
  | none => r
  | some t => { r with
      streams := r.streams.erase key
      live := r.live.filter (·.task ≠ t.task) }

/-- The wallet has an adapter, so that its stream is not reaped. -/
def supported (w : StreamWallet) : Bool :=
  Python.lower w.typeValue ∈ adapters

/-- The loop body of the scan for a wallet that the query selects. -/
def visit (r : Registry) (w : StreamWallet) : Registry :=
  if ¬supported w then r
  else if r.gaveUp w.key then r
  else
    match w.credentials with
    | none => r
    | some creds =>
        if ¬creds.usable then r else r.ensureStream w.key (Python.lower w.typeValue) creds

/-- The query of the scan. -/
def selects (online : Option (List Nat)) (w : StreamWallet) : Bool :=
  w.walletType ∈ [.exchange, .perpdex] && w.purpose ∈ [.screener, .both] && !w.isArchived &&
    online.all (w.userId ∈ ·)

/-- `_scan_and_sync`, of the wallets and the users online (`none` when Redis does not answer). -/
def scanAndSync (r : Registry) (online : Option (List Nat)) (wallets : Table StreamWallet) :
    Registry :=
  if online = some [] then r.streams.keys.foldl stopStream r
  else
    let selected := wallets.where_ (selects online)
    let desired := (selected.filter fun w => supported w).map StreamWallet.key
    let r := selected.foldl visit r
    (r.streams.keys.filter (· ∉ desired)).foldl stopStream r

end Registry

/-! ## The fetcher and its surroundings -/

structure Supervision where
  wallets : Table StreamWallet
  /-- The users with a fresh heartbeat. -/
  present : List Nat
  redisUp : Bool
  registry : Registry
  /-- The credentials that a venue has refused. -/
  refused : List (StreamKey × Creds)

inductive SupervisionAct
  | createWallet (w : StreamWallet)
  | updateWallet (id : Nat) (purpose : WalletPurpose) (credentials : Option Creds)
  | archiveWallet (id : Nat)
  | unarchiveWallet (id : Nat)
  | deleteWallet (id : Nat)
  | heartbeat (user : Nat)
  /-- The heartbeat of a user has expired. -/
  | leave (user : Nat)
  | redis (up : Bool)
  /-- A running stream connects, or is between two connections. -/
  | connection (key : StreamKey) (up : Bool)
  /-- The venue refuses the credentials of a running stream. -/
  | authFails (key : StreamKey)
  /-- A running stream has exhausted its reconnects, or fails with another error. -/
  | dies (key : StreamKey)
  | scan

namespace Supervision

def initial : Supervision := ⟨Table.empty, [], true, ⟨∅, [], 0⟩, []⟩

def editWallet (s : Supervision) (id : Nat) (f : StreamWallet → StreamWallet) : Supervision :=
  match s.wallets.get? id with
  | none => s
  | some w => { s with wallets := s.wallets.put { f w with id } }

def online (s : Supervision) : Option (List Nat) :=
  if s.redisUp then some s.present else none

/-- The stream of a task sets its state, or ends. -/
def setTask (s : Supervision) (key : StreamKey) (t : StreamTask) (ends : Bool) : Supervision :=
  { s with registry :=
    { s.registry with
      streams := s.registry.streams.insert key t
      live := if ends then s.registry.live.filter (·.task ≠ t.task) else s.registry.live } }

def scan (s : Supervision) : Supervision :=
  { s with registry := s.registry.scanAndSync s.online s.wallets }

def step (s : Supervision) : SupervisionAct → Option Supervision
  | .createWallet w => some { s with wallets := s.wallets.insert w }
  | .updateWallet id purpose credentials =>
      some (s.editWallet id fun w => { w with purpose, credentials })
  | .archiveWallet id => some (s.editWallet id fun w => { w with isArchived := true })
  | .unarchiveWallet id =>
      some (s.editWallet id fun w => { w with isArchived := false })
  | .deleteWallet id => some { s with wallets := s.wallets.erase id }
  | .heartbeat user => some { s with present := user :: s.present }
  | .leave user => some { s with present := s.present.filter (· ≠ user) }
  | .redis up => some { s with redisUp := up }
  | .connection key up =>
      (s.registry.runningTask key).map fun t =>
        s.setTask key { t with state := if up then .live else .degraded } false
  | .authFails key =>
      (s.registry.runningTask key).map fun t =>
        { s.setTask key { t with state := .dead, authFailed := true } true with
          refused := (key, t.creds) :: s.refused }
  | .dies key =>
      (s.registry.runningTask key).map fun t => s.setTask key { t with state := .dead } true
  | .scan => some s.scan

/-! ## The tasks that should run -/

/-- The wallet of a key, when it should have a stream. -/
def desired (s : Supervision) (key : StreamKey) : Option StreamWallet :=
  (s.wallets.get? key.2).filter fun w =>
    w.userId = key.1 && Registry.selects s.online w && Registry.supported w

/-- The current credentials of a key that should have a stream, when they can be used. -/
def current (s : Supervision) (key : StreamKey) : Option Creds :=
  (s.desired key).bind fun w => w.credentials.filter Creds.usable

/-- The credentials of the streams that run for a key. -/
def running (s : Supervision) (key : StreamKey) : List Creds :=
  (s.registry.live.filter (·.key = key)).map RunningStream.creds

/-- The credentials that a key should have a stream with. -/
def wanted (s : Supervision) (key : StreamKey) : Option Creds :=
  (s.current key).filter fun creds => (key, creds) ∉ s.refused

/-- Exactly one stream, with the current credentials, for each wallet whose current credentials
have not been refused, and none for any other. -/
def FollowsWallets (s : Supervision) : Prop :=
  ∀ key, s.running key = (s.wanted key).toList

/-- After each scan of every run. -/
def AlwaysFollowsWallets : Prop :=
  ∀ s, Run step (fun _ _ => True) .initial s → s.scan.FollowsWallets

/-- What the scan does not change: the stream that runs for a wallet has its current credentials,
which have not been refused; where none runs, the entry has given up if and only if the current
credentials have been refused. -/
def Spares (s : Supervision) : Prop :=
  ∀ key, (s.desired key).isSome →
    match s.registry.runningTask key with
    | some t => s.wanted key = some t.creds
    | none => ∀ creds ∈ s.current key,
        s.registry.gaveUp key ↔ (key, creds) ∈ s.refused

end Supervision

/-! ## The tasks of a registry -/

namespace Registry

variable {r : Registry} {key key' : StreamKey}

/-- Each running task is that of its entry, and no other entry's. -/
structure Sound (r : Registry) : Prop where
  fresh : ∀ key, ∀ t ∈ r.streams.lookup key, t.task < r.nextTask
  apart : ∀ key, ∀ t ∈ r.streams.lookup key, ∀ key', ∀ t' ∈ r.streams.lookup key',
    t.task = t'.task → key = key'
  registered : ∀ l ∈ r.live, ∃ t ∈ r.streams.lookup l.key, t.task = l.task ∧ t.creds = l.creds
  nodup : (r.live.map RunningStream.task).Nodup

theorem alive_iff {task : Nat} : r.alive task = true ↔ ∃ l ∈ r.live, l.task = task := by
  simp [alive]

theorem runningTask_of_alive {t : StreamTask} (entry : r.streams.lookup key = some t)
    (isAlive : r.alive t.task = true) : r.runningTask key = some t :=
  Option.filter_eq_some_iff.mpr ⟨entry, isAlive⟩

theorem runningTask_of_ended {t : StreamTask} (entry : r.streams.lookup key = some t)
    (ended : ¬r.alive t.task = true) : r.runningTask key = none := by
  refine Option.eq_none_iff_forall_ne_some.mpr fun t' running => ended ?_
  obtain ⟨entry', isAlive⟩ := Option.filter_eq_some_iff.mp running
  rw [entry] at entry'
  cases entry'
  exact isAlive

/-- A list without repetition of which all elements are alike has at most one. -/
theorem map_filter_eq_toList {α β : Type} {l : List α} {test : α → Bool} {f : α → β}
    {found : Option β} (nodup : (l.filter test).Nodup)
    (alike : ∀ a ∈ l, ∀ a' ∈ l, test a = true → test a' = true → a = a')
    (iff : ∀ b, b ∈ found ↔ ∃ a ∈ l, test a = true ∧ f a = b) :
    (l.filter test).map f = found.toList := by
  cases whole : l.filter test with
  | nil =>
      have absent : found = none := by
        refine Option.eq_none_iff_forall_ne_some.mpr fun b some_ => ?_
        obtain ⟨a, member, passes, -⟩ := (iff b).mp some_
        have listed := List.mem_filter.mpr ⟨member, passes⟩
        rw [whole] at listed
        cases listed
      rw [absent]
      rfl
  | cons a rest =>
      have first := List.mem_filter.mp (whole ▸ List.mem_cons_self : a ∈ l.filter test)
      have only : rest = [] := by
        refine List.eq_nil_iff_forall_not_mem.mpr fun a' later => ?_
        have second := List.mem_filter.mp (whole ▸ List.mem_cons_of_mem a later : a' ∈ l.filter test)
        rw [whole] at nodup
        have same := alike a first.1 a' second.1 first.2 second.2
        exact (List.nodup_cons.mp nodup).1 (same ▸ later)
      have held : found = some (f a) := (iff (f a)).mpr ⟨a, first.1, first.2, rfl⟩
      rw [held, only]
      rfl

/-- The streams that run for a key are that of its entry, if it runs. -/
theorem Sound.running (sound : r.Sound) (key : StreamKey) :
    (r.live.filter (·.key = key)).map RunningStream.creds =
      ((r.runningTask key).map StreamTask.creds).toList := by
  refine map_filter_eq_toList (sound.nodup.of_map.filter _) ?_ ?_
  · intro l member l' member' own own'
    obtain ⟨t, entry, task, -⟩ := sound.registered l member
    obtain ⟨t', entry', task', -⟩ := sound.registered l' member'
    rw [of_decide_eq_true own] at entry
    rw [of_decide_eq_true own', entry] at entry'
    cases entry'
    exact List.inj_on_of_nodup_map sound.nodup member member' (task.symm.trans task')
  · intro creds
    constructor
    · intro has
      obtain ⟨t, found, used⟩ := Option.map_eq_some_iff.mp has
      obtain ⟨entry, isAlive⟩ := Option.filter_eq_some_iff.mp found
      obtain ⟨l, member, task⟩ := alive_iff.mp isAlive
      obtain ⟨t', entry', task', creds'⟩ := sound.registered l member
      have own : key = l.key := sound.apart key t entry l.key t' entry' (task.symm.trans task'.symm)
      rw [← own, entry] at entry'
      cases entry'
      exact ⟨l, member, decide_eq_true own.symm, creds'.symm.trans used⟩
    · intro running
      rcases running with ⟨l, member, own, used⟩
      obtain ⟨t, entry, task, creds'⟩ := sound.registered l member
      rw [of_decide_eq_true own] at entry
      have isAlive : r.alive t.task = true := alive_iff.mpr ⟨l, member, task.symm⟩
      exact Option.map_eq_some_iff.mpr ⟨t, runningTask_of_alive entry isAlive, creds'.trans used⟩

/-! ## Starting and stopping -/

theorem alive_spawn (exchange : String) (creds : Creds) (task : Nat) :
    (r.spawn key exchange creds).alive task = (r.alive task || r.nextTask = task) := by
  simp [alive, spawn]

theorem runningTask_spawn (exchange : String) (creds : Creds) :
    (r.spawn key exchange creds).runningTask key =
      some ⟨r.nextTask, exchange, creds, .init, false⟩ := by
  have entry : (r.spawn key exchange creds).streams.lookup key =
      some ⟨r.nextTask, exchange, creds, .init, false⟩ := AList.lookup_insert _
  unfold runningTask
  rw [entry, Option.filter_some_pos]
  rw [alive_spawn]
  simp

/-- An entry and whether its task runs. -/
structure Same (r r' : Registry) (key : StreamKey) : Prop where
  runningTask : r'.runningTask key = r.runningTask key
  gaveUp : r'.gaveUp key = r.gaveUp key

theorem same_of_lookup {r' : Registry} (entry : r'.streams.lookup key = r.streams.lookup key)
    (alike : ∀ t ∈ r.streams.lookup key, r'.alive t.task = r.alive t.task) : Same r r' key := by
  constructor
  · unfold Registry.runningTask
    rw [entry]
    cases found : r.streams.lookup key with
    | none => rfl
    | some t => rw [Option.filter_some, Option.filter_some, alike t found]
  · unfold Registry.gaveUp
    rw [entry]

theorem Sound.spawn_same (sound : r.Sound) (exchange : String) (creds : Creds)
    (other : key' ≠ key) : Same r (r.spawn key exchange creds) key' := by
  refine same_of_lookup (AList.lookup_insert_ne other) fun t entry => ?_
  have earlier : r.nextTask ≠ t.task := Nat.ne_of_gt (sound.fresh key' t entry)
  rw [alive_spawn, decide_eq_false earlier, Bool.or_false]

/-- A task is started where none runs. -/
theorem Sound.spawn (sound : r.Sound) (exchange : String) (creds : Creds)
    (free : r.runningTask key = none) : (r.spawn key exchange creds).Sound := by
  have split : ∀ key', ∀ t ∈ (r.spawn key exchange creds).streams.lookup key',
      (key' = key ∧ t = ⟨r.nextTask, exchange, creds, .init, false⟩) ∨
        (key' ≠ key ∧ t ∈ r.streams.lookup key') := by
    intro key' t entry
    by_cases same : key' = key
    · subst same
      have own : (r.spawn key' exchange creds).streams.lookup key' = _ := AList.lookup_insert _
      rw [own] at entry
      exact Or.inl ⟨rfl, (Option.mem_some_iff.mp entry).symm⟩
    · have kept : (r.spawn key exchange creds).streams.lookup key' = _ :=
        AList.lookup_insert_ne same
      rw [kept] at entry
      exact Or.inr ⟨same, entry⟩
  refine ⟨?_, ?_, ?_, ?_⟩
  · intro key' t entry
    rcases split key' t entry with ⟨-, rfl⟩ | ⟨-, old⟩
    · exact Nat.lt_succ_self _
    · exact Nat.lt_succ_of_lt (sound.fresh key' t old)
  · intro key₁ t₁ entry₁ key₂ t₂ entry₂ same
    rcases split key₁ t₁ entry₁ with ⟨rfl, rfl⟩ | ⟨-, old₁⟩
    · rcases split key₂ t₂ entry₂ with ⟨rfl, -⟩ | ⟨-, old₂⟩
      · rfl
      · exact absurd same (Nat.ne_of_gt (sound.fresh key₂ t₂ old₂))
    · rcases split key₂ t₂ entry₂ with ⟨-, rfl⟩ | ⟨-, old₂⟩
      · exact absurd same (Nat.ne_of_lt (sound.fresh key₁ t₁ old₁))
      · exact sound.apart key₁ t₁ old₁ key₂ t₂ old₂ same
  · intro l member
    rcases List.mem_append.mp member with old | new
    · obtain ⟨t, entry, task, used⟩ := sound.registered l old
      have other : l.key ≠ key := by
        intro same
        have running : r.runningTask key = some t :=
          runningTask_of_alive (same ▸ entry) (alive_iff.mpr ⟨l, old, task.symm⟩)
        rw [free] at running
        cases running
      have kept : (r.spawn key exchange creds).streams.lookup l.key = r.streams.lookup l.key :=
        AList.lookup_insert_ne other
      exact ⟨t, kept ▸ entry, task, used⟩
    · rw [List.mem_singleton.mp new]
      exact ⟨_, AList.lookup_insert _, rfl, rfl⟩
  · have numbers : (r.spawn key exchange creds).live.map RunningStream.task =
        r.live.map RunningStream.task ++ [r.nextTask] := List.map_append
    rw [numbers]
    refine sound.nodup.append (List.nodup_singleton _) fun task old new => ?_
    obtain ⟨l, member, rfl⟩ := List.mem_map.mp old
    obtain ⟨t, entry, task, -⟩ := sound.registered l member
    have earlier := sound.fresh l.key t entry
    rw [task, List.mem_singleton.mp new] at earlier
    exact Nat.lt_irrefl _ earlier

theorem alive_stop {live : List RunningStream} {stopped task : Nat} :
    (live.filter (·.task ≠ stopped)).any (·.task = task) =
      (live.any (·.task = task) && task ≠ stopped) := by
  rw [Bool.eq_iff_iff]
  simp only [List.any_eq_true, List.mem_filter, decide_eq_true_eq, Bool.and_eq_true]
  constructor
  · intro found
    rcases found with ⟨l, ⟨member, other⟩, rfl⟩
    exact ⟨⟨l, member, rfl⟩, other⟩
  · intro found
    rcases found with ⟨⟨l, member, rfl⟩, other⟩
    exact ⟨l, ⟨member, other⟩, rfl⟩

theorem runningTask_stop : (r.stopStream key).runningTask key = none := by
  unfold stopStream
  cases found : r.streams.lookup key with
  | none =>
      unfold runningTask
      dsimp only
      rw [found]
      rfl
  | some t =>
      unfold runningTask
      dsimp only
      rw [AList.lookup_erase]
      rfl

theorem Sound.stop_same (sound : r.Sound) (other : key' ≠ key) :
    Same r (r.stopStream key) key' := by
  unfold stopStream
  cases found : r.streams.lookup key with
  | none => exact ⟨rfl, rfl⟩
  | some stopped =>
      refine same_of_lookup (AList.lookup_erase_ne other) fun t entry => ?_
      have unlike : t.task ≠ stopped.task := fun same =>
        other (sound.apart key' t entry key stopped found same)
      change (r.live.filter (·.task ≠ stopped.task)).any (·.task = t.task) = r.alive t.task
      rw [alive_stop, decide_eq_true unlike, Bool.and_true]
      rfl

theorem Sound.stop (sound : r.Sound) (key : StreamKey) : (r.stopStream key).Sound := by
  unfold stopStream
  cases found : r.streams.lookup key with
  | none => exact sound
  | some stopped =>
      have kept : ∀ key', ∀ t ∈ (r.streams.erase key).lookup key', t ∈ r.streams.lookup key' := by
        intro key' t entry
        by_cases same : key' = key
        · subst same
          rw [AList.lookup_erase] at entry
          cases entry
        · rw [AList.lookup_erase_ne same] at entry
          exact entry
      refine ⟨?_, ?_, ?_, ?_⟩
      · intro key' t entry
        exact sound.fresh key' t (kept key' t entry)
      · intro key₁ t₁ entry₁ key₂ t₂ entry₂ same
        exact sound.apart key₁ t₁ (kept key₁ t₁ entry₁) key₂ t₂ (kept key₂ t₂ entry₂) same
      · intro l member
        obtain ⟨old, unlike⟩ := List.mem_filter.mp member
        obtain ⟨t, entry, task, used⟩ := sound.registered l old
        have other : l.key ≠ key := by
          intro same
          rw [same, found] at entry
          cases entry
          exact of_decide_eq_true unlike task.symm
        exact ⟨t, (AList.lookup_erase_ne other).symm ▸ entry, task, used⟩
      · exact sound.nodup.sublist (List.filter_sublist.map _)

theorem Same.trans {r' r'' : Registry} (first : Same r r' key) (second : Same r' r'' key) :
    Same r r'' key :=
  ⟨second.runningTask.trans first.runningTask, second.gaveUp.trans first.gaveUp⟩

theorem Sound.ensure (sound : r.Sound) (key : StreamKey) (exchange : String) (creds : Creds) :
    (r.ensureStream key exchange creds).Sound ∧
      (∀ key' ≠ key, Same r (r.ensureStream key exchange creds) key') ∧
      ((r.ensureStream key exchange creds).runningTask key).map StreamTask.creds =
        some (((r.runningTask key).map StreamTask.creds).getD creds) := by
  have started : r.runningTask key = none →
      (r.spawn key exchange creds).Sound ∧
        (∀ key' ≠ key, Same r (r.spawn key exchange creds) key') ∧
        ((r.spawn key exchange creds).runningTask key).map StreamTask.creds =
          some (((r.runningTask key).map StreamTask.creds).getD creds) := by
    intro free
    refine ⟨sound.spawn exchange creds free, fun _ other => sound.spawn_same exchange creds other, ?_⟩
    rw [runningTask_spawn, free]
    rfl
  unfold ensureStream
  cases found : r.streams.lookup key with
  | none =>
      refine started ?_
      unfold runningTask
      rw [found]
      rfl
  | some t =>
      dsimp only
      split
      case isTrue runs =>
        refine ⟨sound, fun _ _ => ⟨rfl, rfl⟩, ?_⟩
        rw [runningTask_of_alive found runs]
        rfl
      case isFalse ended =>
        exact started (runningTask_of_ended found ended)

/-! ## A scan -/

/-- The credentials of the stream that runs for a supported wallet after a scan. -/
def kept (r : Registry) (w : StreamWallet) : Option Creds :=
  match r.runningTask w.key with
  | some t => some t.creds
  | none => if r.gaveUp w.key then none else w.credentials.filter Creds.usable

theorem Sound.visit (sound : r.Sound) (w : StreamWallet) :
    (r.visit w).Sound ∧ (∀ key ≠ w.key, Same r (r.visit w) key) ∧
      (supported w = true →
        ((r.visit w).runningTask w.key).map StreamTask.creds = r.kept w) := by
  have unmoved : ∀ creds, (r.runningTask w.key = none → r.kept w = creds) →
      (r.runningTask w.key = none → creds = none) →
      r.Sound ∧ (∀ key ≠ w.key, Same r r key) ∧
        (supported w = true → (r.runningTask w.key).map StreamTask.creds = r.kept w) := by
    intro creds rest nothing
    refine ⟨sound, fun _ _ => ⟨rfl, rfl⟩, fun _ => ?_⟩
    cases running : r.runningTask w.key with
    | some t =>
        unfold kept
        rw [running]
        rfl
    | none => rw [rest running, nothing running, Option.map_none]
  unfold Registry.visit
  split
  case isTrue unknown =>
    exact ⟨sound, fun _ _ => ⟨rfl, rfl⟩, fun known => absurd known unknown⟩
  case isFalse =>
    split
    case isTrue refused =>
      refine unmoved none (fun idle => ?_) fun _ => rfl
      unfold kept
      rw [idle]
      exact if_pos refused
    case isFalse retry =>
      have fromCredentials : r.runningTask w.key = none →
          r.kept w = w.credentials.filter Creds.usable := by
        intro idle
        unfold kept
        rw [idle]
        exact if_neg retry
      cases given : w.credentials with
      | none =>
          refine unmoved none (fun idle => ?_) fun _ => rfl
          rw [fromCredentials idle, given]
          rfl
      | some creds =>
          dsimp only
          rw [given] at fromCredentials
          split
          case isTrue empty =>
            refine unmoved none (fun idle => ?_) fun _ => rfl
            rw [fromCredentials idle, Option.filter_some_neg (Bool.not_eq_true _ ▸ empty)]
          case isFalse usable =>
            obtain ⟨still, others, own⟩ := sound.ensure w.key (Python.lower w.typeValue) creds
            refine ⟨still, others, fun _ => own.trans ?_⟩
            cases running : r.runningTask w.key with
            | some t =>
                unfold kept
                rw [running]
                rfl
            | none =>
                rw [fromCredentials running, Option.filter_some_pos (not_not.mp usable)]
                rfl

/-- The wallets that the loop visits, each on its own. -/
theorem Sound.visits {rows : List StreamWallet} (sound : r.Sound)
    (distinct : (rows.map StreamWallet.key).Nodup) :
    (rows.foldl Registry.visit r).Sound ∧
      (∀ key ∉ rows.map StreamWallet.key, Same r (rows.foldl Registry.visit r) key) ∧
      ∀ w ∈ rows, supported w = true →
        ((rows.foldl Registry.visit r).runningTask w.key).map StreamTask.creds = r.kept w := by
  induction rows generalizing r with
  | nil => exact ⟨sound, fun _ _ => ⟨rfl, rfl⟩, fun w member => by cases member⟩
  | cons w rows ih =>
      obtain ⟨first, rest⟩ := List.nodup_cons.mp distinct
      obtain ⟨visited, others, own⟩ := sound.visit w
      obtain ⟨still, unvisited, later⟩ := ih visited rest
      refine ⟨still, fun key absent => ?_, fun w' member known => ?_⟩
      · have unlike : key ≠ w.key ∧ key ∉ rows.map StreamWallet.key := by
          simpa using absent
        exact (others key unlike.1).trans (unvisited key unlike.2)
      · rcases List.mem_cons.mp member with same | inRest
        · subst same
          rw [List.foldl_cons, (unvisited w'.key first).runningTask]
          exact own known
        · have other : w'.key ≠ w.key := fun same =>
            first (same ▸ List.mem_map_of_mem inRest)
          have unmoved : (r.visit w).kept w' = r.kept w' := by
            unfold kept
            rw [(others w'.key other).runningTask, (others w'.key other).gaveUp]
          rw [List.foldl_cons, later w' inRest known, unmoved]

/-- The reaped streams. -/
theorem Sound.stops (sound : r.Sound) (keys : List StreamKey) :
    (keys.foldl stopStream r).Sound ∧
      ∀ key, (keys.foldl stopStream r).runningTask key =
        if key ∈ keys then none else r.runningTask key := by
  induction keys generalizing r with
  | nil => exact ⟨sound, fun key => rfl⟩
  | cons key keys ih =>
      obtain ⟨still, rest⟩ := ih (sound.stop key)
      refine ⟨still, fun key' => ?_⟩
      rw [List.foldl_cons, rest key']
      by_cases same : key' = key
      · rw [same, if_pos List.mem_cons_self, runningTask_stop, ite_self]
      · have listed : key' ∈ key :: keys ↔ key' ∈ keys := by
          rw [List.mem_cons, or_iff_right same]
        rw [(sound.stop_same same).runningTask]
        simp only [listed]

theorem Sound.scan (sound : r.Sound) (online : Option (List Nat)) (wallets : Table StreamWallet) :
    (r.scanAndSync online wallets).Sound ∧
      ∀ key, ((r.scanAndSync online wallets).runningTask key).map StreamTask.creds =
        ((wallets.get? key.2).filter fun w =>
          w.userId = key.1 && selects online w && supported w).bind r.kept := by
  unfold scanAndSync
  split
  case isTrue nobody =>
    obtain ⟨still, stopped⟩ := sound.stops r.streams.keys
    refine ⟨still, fun key => ?_⟩
    have gone : (r.streams.keys.foldl stopStream r).runningTask key = none := by
      rw [stopped key]
      split
      · rfl
      case isFalse absent =>
        unfold runningTask
        rw [AList.lookup_eq_none.mpr absent]
        rfl
    have none_ : ((wallets.get? key.2).filter fun w =>
        w.userId = key.1 && selects online w && supported w) = none := by
      refine Option.eq_none_iff_forall_ne_some.mpr fun w found => ?_
      have selected := (Option.filter_eq_some_iff.mp found).2
      rw [nobody] at selected
      simp [selects] at selected
    rw [gone, none_]
    rfl
  case isFalse =>
    dsimp only
    have distinct : ((wallets.where_ (selects online)).map StreamWallet.key).Nodup := by
      have ids : ((wallets.where_ (selects online)).map fun w => w.id).Nodup :=
        wallets.nodup.sublist (List.filter_sublist.map _)
      refine List.Nodup.of_map Prod.snd ?_
      rw [List.map_map]
      exact ids
    obtain ⟨visited, unvisited, own⟩ := sound.visits distinct
    generalize (wallets.where_ (selects online)).foldl Registry.visit r = r' at visited unvisited own
    obtain ⟨still, stopped⟩ := visited.stops (r'.streams.keys.filter (· ∉
      ((wallets.where_ (selects online)).filter fun w => supported w).map StreamWallet.key))
    refine ⟨still, fun key => ?_⟩
    rw [stopped key]
    cases wanted : (wallets.get? key.2).filter fun w =>
        w.userId = key.1 && selects online w && supported w with
    | none =>
        have undesired : key ∉ ((wallets.where_ (selects online)).filter fun w =>
            supported w).map StreamWallet.key := by
          intro member
          obtain ⟨w, listed, rfl⟩ := List.mem_map.mp member
          obtain ⟨row, known⟩ := List.mem_filter.mp listed
          obtain ⟨stored, selected⟩ := Table.mem_where.mp row
          have found : wallets.get? w.key.2 = some w := stored
          rw [found, Option.filter_some_pos] at wanted
          · cases wanted
          · simp [StreamWallet.key, selected, known]
        split
        · rfl
        case isFalse keyless =>
          have absent : key ∉ r'.streams := fun member =>
            keyless (List.mem_filter.mpr ⟨member, decide_eq_true undesired⟩)
          unfold runningTask
          rw [AList.lookup_eq_none.mpr absent]
          rfl
    | some w =>
        obtain ⟨stored, holds⟩ := Option.filter_eq_some_iff.mp wanted
        simp only [Bool.and_eq_true, decide_eq_true_eq] at holds
        obtain ⟨⟨user, selected⟩, known⟩ := holds
        have wallet : w.id = key.2 := Table.key_of_get? stored
        have named : key = w.key := Prod.ext user.symm wallet.symm
        have row : w ∈ wallets.where_ (selects online) :=
          List.mem_filter.mpr ⟨Table.mem_of_get? stored, selected⟩
        have desired : key ∈ ((wallets.where_ (selects online)).filter fun w =>
            supported w).map StreamWallet.key :=
          named ▸ List.mem_map_of_mem (List.mem_filter.mpr ⟨row, known⟩)
        have spared : key ∉ r'.streams.keys.filter (· ∉
            ((wallets.where_ (selects online)).filter fun w => supported w).map StreamWallet.key) := by
          intro reaped
          have undesired := of_decide_eq_true (List.mem_filter.mp reaped).2
          exact undesired desired
        rw [if_neg spared, named]
        exact own w row known

/-- A running stream sets the state of its entry. -/
theorem Sound.set (sound : r.Sound) {t t' : StreamTask} (running : r.runningTask key = some t)
    (task : t'.task = t.task) (creds : t'.creds = t.creds) :
    Sound { r with streams := r.streams.insert key t' } := by
  have entry : r.streams.lookup key = some t := (Option.filter_eq_some_iff.mp running).1
  have split : ∀ key', ∀ t₁ ∈ (r.streams.insert key t').lookup key',
      ∃ t₀ ∈ r.streams.lookup key', t₁.task = t₀.task := by
    intro key' t₁ found
    by_cases same : key' = key
    · subst same
      rw [AList.lookup_insert] at found
      cases found
      exact ⟨t, entry, task⟩
    · rw [AList.lookup_insert_ne same] at found
      exact ⟨t₁, found, rfl⟩
  refine ⟨?_, ?_, ?_, sound.nodup⟩
  · intro key' t₁ found
    obtain ⟨t₀, old, same⟩ := split key' t₁ found
    rw [same]
    exact sound.fresh key' t₀ old
  · intro key₁ t₁ found₁ key₂ t₂ found₂ same
    obtain ⟨t₁', old₁, same₁⟩ := split key₁ t₁ found₁
    obtain ⟨t₂', old₂, same₂⟩ := split key₂ t₂ found₂
    exact sound.apart key₁ t₁' old₁ key₂ t₂' old₂ (same₁.symm.trans (same.trans same₂))
  · intro l member
    obtain ⟨t₀, old, own, used⟩ := sound.registered l member
    by_cases same : l.key = key
    · rw [same, entry] at old
      cases old
      refine ⟨t', ?_, task.trans own, creds.trans used⟩
      change t' ∈ (r.streams.insert key t').lookup l.key
      rw [same, AList.lookup_insert]
      rfl
    · exact ⟨t₀, (AList.lookup_insert_ne same).symm ▸ old, own, used⟩

/-- A task ends. -/
theorem Sound.end_ (sound : r.Sound) (task : Nat) :
    Sound { r with live := r.live.filter (·.task ≠ task) } :=
  ⟨sound.fresh, sound.apart, fun l member => sound.registered l (List.mem_filter.mp member).1,
    sound.nodup.sublist (List.filter_sublist.map _)⟩

end Registry

namespace Supervision

variable {s : Supervision}

theorem sound_setTask (sound : s.registry.Sound) {key : StreamKey} {t : StreamTask}
    (running : s.registry.runningTask key = some t) (state : Status) (authFailed ends : Bool) :
    (s.setTask key { t with state, authFailed } ends).registry.Sound := by
  have set : (s.setTask key { t with state, authFailed } false).registry.Sound :=
    sound.set running rfl rfl
  cases ends with
  | false => exact set
  | true => exact set.end_ t.task

theorem preserves_sound : Preserves step (fun _ _ => True) fun s => s.registry.Sound := by
  intro s act s' sound _ stepped
  have edited : ∀ id f, (s.editWallet id f).registry = s.registry := by
    intro id f
    unfold editWallet
    split <;> rfl
  cases act with
  | createWallet w =>
      cases stepped
      exact sound
  | updateWallet id purpose credentials =>
      cases stepped
      rw [edited]
      exact sound
  | archiveWallet id =>
      cases stepped
      rw [edited]
      exact sound
  | unarchiveWallet id =>
      cases stepped
      rw [edited]
      exact sound
  | deleteWallet id =>
      cases stepped
      exact sound
  | heartbeat user =>
      cases stepped
      exact sound
  | leave user =>
      cases stepped
      exact sound
  | redis up =>
      cases stepped
      exact sound
  | connection key up =>
      obtain ⟨t, running, rfl⟩ := Option.map_eq_some_iff.mp stepped
      exact sound_setTask sound running _ _ false
  | authFails key =>
      obtain ⟨t, running, rfl⟩ := Option.map_eq_some_iff.mp stepped
      exact sound_setTask sound running _ _ true
  | dies key =>
      obtain ⟨t, running, rfl⟩ := Option.map_eq_some_iff.mp stepped
      exact sound_setTask sound running _ _ true
  | scan =>
      cases stepped
      exact (sound.scan s.online s.wallets).1

/-- In every reachable state the running streams are those of the registry. -/
theorem sound_of_run (run : Run step (fun _ _ => True) .initial s) : s.registry.Sound := by
  refine run.invariant preserves_sound ⟨?_, ?_, ?_, List.nodup_nil⟩
  · intro key t found
    cases found
  · intro key t found
    cases found
  · intro l member
    cases member

/-- The streams that run after a scan. -/
theorem running_scan (sound : s.registry.Sound) (key : StreamKey) :
    s.scan.running key = ((s.desired key).bind s.registry.kept).toList := by
  obtain ⟨still, after⟩ := sound.scan s.online s.wallets
  have whole : s.scan.running key = ((s.scan.registry.runningTask key).map StreamTask.creds).toList :=
    still.running key
  have kept : (s.scan.registry.runningTask key).map StreamTask.creds =
      (s.desired key).bind s.registry.kept := after key
  rw [whole, kept]

theorem key_of_desired {key : StreamKey} {w : StreamWallet} (found : s.desired key = some w) :
    w.key = key := by
  obtain ⟨stored, holds⟩ := Option.filter_eq_some_iff.mp found
  simp only [Bool.and_eq_true, decide_eq_true_eq] at holds
  exact Prod.ext holds.1.1 (Table.key_of_get? stored)

theorem toList_inj {α : Type} {a b : Option α} : a.toList = b.toList ↔ a = b := by
  cases a <;> cases b <;> simp

/-- A scan leaves each wallet with the right stream if and only if it finds nothing that it does
not change. -/
theorem followsWallets_scan_iff (run : Run step (fun _ _ => True) .initial s) :
    s.scan.FollowsWallets ↔ s.Spares := by
  refine forall_congr' fun key => ?_
  rw [running_scan (sound_of_run run)]
  change _ = (s.wanted key).toList ↔ _
  cases found : s.desired key with
  | none =>
      have unwanted : s.wanted key = none := by
        unfold wanted current
        rw [found]
        rfl
      rw [unwanted]
      simp
  | some w =>
      have named := key_of_desired found
      rw [Option.bind_some]
      unfold Registry.kept
      rw [named]
      cases running : s.registry.runningTask key with
      | some t =>
          dsimp only
          rw [toList_inj]
          simp [eq_comm]
      | none =>
          have usable : s.current key = w.credentials.filter Creds.usable := by
            unfold current
            rw [found]
            rfl
          dsimp only
          rw [← usable, toList_inj]
          unfold wanted
          cases given : s.current key with
          | none => simp
          | some creds =>
              cases gaveUp : s.registry.gaveUp key <;>
                by_cases refused : (key, creds) ∈ s.refused <;>
                  simp [Option.filter, refused]

/-! ## Credentials that change -/

def keyOf (apiKey : String) : Creds := [("api_key", apiKey), ("api_secret", "s")]

def binanceWallet : StreamWallet where
  id := 1
  userId := 1
  walletType := .exchange
  typeValue := "binance"
  purpose := .both
  isArchived := false
  credentials := some (keyOf "A")

/-- A stream is started for a user who is online. -/
def started : List SupervisionAct := [.createWallet binanceWallet, .heartbeat 1, .scan]

/-- Other credentials are stored while it runs. -/
def rotated : List SupervisionAct := started ++ [.updateWallet 1 .both (some (keyOf "B"))]

/-- Other credentials are stored after it was refused. -/
def reentered : List SupervisionAct :=
  started ++ [.authFails (1, 1), .updateWallet 1 .both (some (keyOf "B"))]

/-- The user leaves and comes back after it was refused. -/
def returned : List SupervisionAct :=
  started ++ [.authFails (1, 1), .leave 1, .scan, .heartbeat 1]

theorem followsWallets_scan_iff_rotated :
    ∃ s, exec step .initial rotated = some s ∧ (s.scan.FollowsWallets ↔ s.Spares) := by
  have enabled : (exec step .initial rotated).isSome := by decide +kernel
  obtain ⟨s, executed⟩ := Option.isSome_iff_exists.mp enabled
  exact ⟨s, executed, followsWallets_scan_iff (Run.of_exec executed)⟩

/-- The streams of the wallet after a scan, and those that it should have. -/
def streamsAfter (acts : List SupervisionAct) : Option (List Creds × Option Creds) :=
  (exec step .initial acts).map fun s => (s.scan.running (1, 1), s.scan.wanted (1, 1))

theorem not_followsWallets {acts : List SupervisionAct} {running : List Creds}
    {wanted : Option Creds} (after : streamsAfter acts = some (running, wanted))
    (unlike : running ≠ wanted.toList) : ¬AlwaysFollowsWallets := by
  intro follows
  obtain ⟨s, executed, read⟩ := Option.map_eq_some_iff.mp after
  cases read
  exact unlike (follows s (Run.of_exec executed) (1, 1))

theorem alwaysFollowsWallets_broken :
    (¬AlwaysFollowsWallets) ∧
      streamsAfter rotated = some ([keyOf "A"], some (keyOf "B")) ∧
      streamsAfter reentered = some ([], some (keyOf "B")) ∧
      streamsAfter returned = some ([keyOf "A"], none) := by
  have still : streamsAfter rotated = some ([keyOf "A"], some (keyOf "B")) := by decide +kernel
  have absent : streamsAfter reentered = some ([], some (keyOf "B")) := by decide +kernel
  have again : streamsAfter returned = some ([keyOf "A"], none) := by decide +kernel
  exact ⟨not_followsWallets still (by decide +kernel), still, absent, again⟩

end Supervision

end UserStream

end Avalant
