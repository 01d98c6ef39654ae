import Avalant.Lib.Lease
import Avalant.Lib.Run
import Mathlib.Algebra.Order.Group.Nat
import Mathlib.Data.Fintype.Basic
import Mathlib.Data.List.Pairwise
import Mathlib.Logic.Function.Basic

/-!
The replicas that poll Telegram for the updates of one bot, `tg_bot_service.py`.

A replica that gets the key in Redis drains what Telegram has pending, and polls from
there. A thread of its own puts the key off every 12 s, and sets `lost` when that fails;
the poll loop looks at `lost` before each request and each update. Calls to Redis
and to Telegram are carried out at some moment before they return; they may fail
before or after that. A replica can be cancelled, and can go away for good at any time.

Times are milliseconds. `fresh` and `handled` are for the statements.
-/

namespace Avalant

open Transition

namespace Telegram

/-- `_LOCK_TTL_S`. -/
def lockTtl : ℕ := 60000

/-- `_LOCK_RENEW_S`. -/
def lockRenew : ℕ := 12000

/-- What Telegram sends at once, unless it is asked for fewer. -/
def updatesLimit : ℕ := 100

abbrev Key (ι : Type) := Lease.Key ι ℕ lockTtl

/-- Where the poll loop is. A call has the moment it began, and its answer once it is carried out. -/
inductive Phase
  /-- Asleep between two tries. -/
  | idle
  /-- In `_try_acquire`. -/
  | acquiring (since : ℕ) (answer : Option Bool)
  /-- In `_drain_offset`; `since` is when the lock was asked for. -/
  | draining (since : ℕ) (answer : Option (List ℕ))
  /-- Before it looks at `lost`, with the updates left of the last answer. -/
  | polling (batch : List ℕ)
  | fetching (answer : Option (List ℕ))
  /-- In `_handle_update`. -/
  | handling (rest : List ℕ)
  /-- Before `_release_lock`. -/
  | stopping
  | gone
  deriving DecidableEq

/-- `_renew_thread`. -/
inductive Renewer
  | off
  | waiting (since : ℕ)
  | renewing (since : ℕ) (answer : Option Bool)
  deriving DecidableEq

structure Replica where
  phase : Phase := .idle
  renewer : Renewer := .off
  /-- The event of the last time it led. -/
  lost : Bool := false
  /-- The entry of `_offsets`. -/
  offset : Option ℕ := none
  deriving DecidableEq

/-- The updates of the bot, by their numbers. -/
structure Updates where
  /-- What Telegram has. -/
  queue : List ℕ := []
  /-- The least number that has not come. -/
  next : ℕ := 0
  /-- What has come since the last drain. -/
  fresh : List ℕ := []
  /-- What `_handle_update` was called with. -/
  handled : List ℕ := []

structure System (ι : Type) where
  key : Key ι := .new 0
  replicas : ι → Replica := fun _ => {}
  updates : Updates := {}

inductive Act (ι : Type)
  | wait (until_ : ℕ)
  | arrive (id : ℕ)
  | acquire (i : ι)
  | setNx (i : ι)
  | acquired (i : ι)
  | refused (i : ι)
  | drain (i : ι)
  | drained (i : ι)
  /-- The drain fails, which is only logged. -/
  | undrained (i : ι)
  | next (i : ι)
  | fetch (i : ι)
  | fetched (i : ι)
  | unfetched (i : ι)
  | finish (i : ι)
  | cancel (i : ι)
  | release (i : ι) (reached : Bool)
  | wake (i : ι)
  | renew (i : ι)
  | renewed (i : ι)
  | unrenewed (i : ι)
  /-- A renewal that was on its way when its thread was left behind. -/
  | stray (i : ι)
  | crash (i : ι)
  deriving DecidableEq

def Replica.offsetOr (r : Replica) : ℕ := r.offset.getD 0

namespace Updates

def arrive (u : Updates) (id : ℕ) : Updates :=
  { u with queue := u.queue ++ [id], next := id + 1, fresh := u.fresh ++ [id] }

/-- A request with offset -1 leaves the last. -/
def drain (u : Updates) : Updates := { u with queue := u.queue.getLast?.toList, fresh := [] }

/-- A request with an offset leaves the updates from there on. -/
def confirm (u : Updates) (offset : ℕ) : Updates :=
  { u with queue := u.queue.filter fun id => offset ≤ id }

def handle (u : Updates) (id : ℕ) : Updates := { u with handled := u.handled ++ [id] }

end Updates

/-- `_drain_offset`, of an answer. -/
def drainOffset (offset : ℕ) (ids : List ℕ) : ℕ :=
  match ids.getLast? with
  | some last => last + 1
  | none => offset

namespace System

variable {ι : Type} [DecidableEq ι]

def set (s : System ι) (i : ι) (r : Replica) : System ι :=
  { s with replicas := Function.update s.replicas i r }

def step (s : System ι) : Act ι → Option (System ι)
  | .wait t => some { s with key := s.key.wait t }
  | .arrive id =>
      if s.updates.next ≤ id then some { s with updates := s.updates.arrive id } else none
  | .acquire i =>
      let r := s.replicas i
      match r.phase with
      | .idle => some (s.set i { r with phase := .acquiring s.key.now none })
      | _ => none
  | .setNx i =>
      let r := s.replicas i
      match r.phase with
      | .acquiring since none =>
          some { s.set i { r with phase := .acquiring since (some (s.key.acquire i).2) } with
            key := (s.key.acquire i).1 }
      | _ => none
  | .acquired i =>
      let r := s.replicas i
      match r.phase with
      | .acquiring since (some true) =>
          some (s.set i { r with phase := .draining since none, lost := false })
      | _ => none
  | .refused i =>
      let r := s.replicas i
      match r.phase with
      | .acquiring _ _ => some (s.set i { r with phase := .idle })
      | _ => none
  | .drain i =>
      let r := s.replicas i
      match r.phase with
      | .draining since none =>
          some { s.set i { r with phase := .draining since (some s.updates.drain.queue) } with
            updates := s.updates.drain }
      | _ => none
  | .drained i =>
      let r := s.replicas i
      match r.phase with
      | .draining _ (some ids) =>
          some (s.set i { r with
            phase := .polling [], renewer := .waiting s.key.now
            offset := some (drainOffset r.offsetOr ids) })
      | _ => none
  | .undrained i =>
      let r := s.replicas i
      match r.phase with
      | .draining _ _ =>
          some (s.set i { r with
            phase := .polling [], renewer := .waiting s.key.now, offset := some r.offsetOr })
      | _ => none
  | .next i =>
      let r := s.replicas i
      match r.phase with
      | .polling batch =>
          if r.lost then some (s.set i { r with phase := .stopping })
          else
            match batch with
            | [] => some (s.set i { r with phase := .fetching none })
            | id :: rest =>
                some { s.set i { r with
                    phase := .handling rest, offset := some (max r.offsetOr (id + 1)) } with
                  updates := s.updates.handle id }
      | _ => none
  | .fetch i =>
      let r := s.replicas i
      match r.phase with
      | .fetching none =>
          let updates := s.updates.confirm r.offsetOr
          some { s.set i { r with
              phase := .fetching (some (updates.queue.take updatesLimit)) } with
            updates }
      | _ => none
  | .fetched i =>
      let r := s.replicas i
      match r.phase with
      | .fetching (some ids) => some (s.set i { r with phase := .polling ids })
      | _ => none
  | .unfetched i =>
      let r := s.replicas i
      match r.phase with
      | .fetching _ => some (s.set i { r with phase := .polling [] })
      | _ => none
  | .finish i =>
      let r := s.replicas i
      match r.phase with
      | .handling rest => some (s.set i { r with phase := .polling rest })
      | _ => none
  | .cancel i =>
      let r := s.replicas i
      match r.phase with
      | .acquiring _ _ | .stopping | .gone => none
      | _ => some (s.set i { r with phase := .stopping, lost := true, offset := none })
  | .release i reached =>
      let r := s.replicas i
      match r.phase with
      | .stopping =>
          some { s.set i { r with phase := .idle, renewer := .off } with
            key := if reached then s.key.release i else s.key }
      | _ => none
  | .wake i =>
      let r := s.replicas i
      match r.renewer with
      | .waiting since =>
          if r.lost then some (s.set i { r with renewer := .off })
          else if since + lockRenew ≤ s.key.now then
            some (s.set i { r with renewer := .renewing s.key.now none })
          else none
      | _ => none
  | .renew i =>
      let r := s.replicas i
      match r.renewer with
      | .renewing since none =>
          some { s.set i { r with renewer := .renewing since (some (s.key.renew i).2) } with
            key := (s.key.renew i).1 }
      | _ => none
  | .renewed i =>
      let r := s.replicas i
      match r.renewer with
      | .renewing _ (some true) => some (s.set i { r with renewer := .waiting s.key.now })
      | _ => none
  | .unrenewed i =>
      let r := s.replicas i
      match r.renewer with
      | .renewing _ _ => some (s.set i { r with renewer := .off, lost := true })
      | _ => none
  | .stray i => some { s with key := (s.key.renew i).1 }
  | .crash i =>
      some (s.set i { s.replicas i with phase := .gone, renewer := .off })

/-- The forms of a step. -/
inductive Moves (s : System ι) : Act ι → System ι → Prop
  | wait (t : ℕ) : Moves s (.wait t) { s with key := s.key.wait t }
  | arrive {id : ℕ} (new : s.updates.next ≤ id) :
      Moves s (.arrive id) { s with updates := s.updates.arrive id }
  | acquire {i : ι} (phase : (s.replicas i).phase = .idle) :
      Moves s (.acquire i) (s.set i { s.replicas i with phase := .acquiring s.key.now none })
  | setNx {i : ι} {since : ℕ} (phase : (s.replicas i).phase = .acquiring since none) :
      Moves s (.setNx i)
        { s.set i { s.replicas i with phase := .acquiring since (some (s.key.acquire i).2) } with
          key := (s.key.acquire i).1 }
  | acquired {i : ι} {since : ℕ} (phase : (s.replicas i).phase = .acquiring since (some true)) :
      Moves s (.acquired i)
        (s.set i { s.replicas i with phase := .draining since none, lost := false })
  | refused {i : ι} {since : ℕ} {answer : Option Bool}
      (phase : (s.replicas i).phase = .acquiring since answer) :
      Moves s (.refused i) (s.set i { s.replicas i with phase := .idle })
  | drain {i : ι} {since : ℕ} (phase : (s.replicas i).phase = .draining since none) :
      Moves s (.drain i)
        { s.set i { s.replicas i with
            phase := .draining since (some s.updates.drain.queue) } with
          updates := s.updates.drain }
  | drained {i : ι} {since : ℕ} {ids : List ℕ}
      (phase : (s.replicas i).phase = .draining since (some ids)) :
      Moves s (.drained i)
        (s.set i { s.replicas i with
          phase := .polling [], renewer := .waiting s.key.now
          offset := some (drainOffset (s.replicas i).offsetOr ids) })
  | undrained {i : ι} {since : ℕ} {answer : Option (List ℕ)}
      (phase : (s.replicas i).phase = .draining since answer) :
      Moves s (.undrained i)
        (s.set i { s.replicas i with
          phase := .polling [], renewer := .waiting s.key.now
          offset := some (s.replicas i).offsetOr })
  | stop {i : ι} {batch : List ℕ} (phase : (s.replicas i).phase = .polling batch)
      (lost : (s.replicas i).lost = true) :
      Moves s (.next i) (s.set i { s.replicas i with phase := .stopping })
  | request {i : ι} (phase : (s.replicas i).phase = .polling [])
      (leads : (s.replicas i).lost = false) :
      Moves s (.next i) (s.set i { s.replicas i with phase := .fetching none })
  | handle {i : ι} {id : ℕ} {rest : List ℕ} (phase : (s.replicas i).phase = .polling (id :: rest))
      (leads : (s.replicas i).lost = false) :
      Moves s (.next i)
        { s.set i { s.replicas i with
            phase := .handling rest
            offset := some (max (s.replicas i).offsetOr (id + 1)) } with
          updates := s.updates.handle id }
  | fetch {i : ι} (phase : (s.replicas i).phase = .fetching none) :
      Moves s (.fetch i)
        { s.set i { s.replicas i with
            phase := .fetching (some
              ((s.updates.confirm (s.replicas i).offsetOr).queue.take updatesLimit)) } with
          updates := s.updates.confirm (s.replicas i).offsetOr }
  | fetched {i : ι} {ids : List ℕ} (phase : (s.replicas i).phase = .fetching (some ids)) :
      Moves s (.fetched i) (s.set i { s.replicas i with phase := .polling ids })
  | unfetched {i : ι} {answer : Option (List ℕ)}
      (phase : (s.replicas i).phase = .fetching answer) :
      Moves s (.unfetched i) (s.set i { s.replicas i with phase := .polling [] })
  | finish {i : ι} {rest : List ℕ} (phase : (s.replicas i).phase = .handling rest) :
      Moves s (.finish i) (s.set i { s.replicas i with phase := .polling rest })
  | cancel {i : ι} :
      Moves s (.cancel i)
        (s.set i { s.replicas i with phase := .stopping, lost := true, offset := none })
  | release {i : ι} {reached : Bool} (phase : (s.replicas i).phase = .stopping) :
      Moves s (.release i reached)
        { s.set i { s.replicas i with phase := .idle, renewer := .off } with
          key := if reached then s.key.release i else s.key }
  | leave {i : ι} {since : ℕ} (renewer : (s.replicas i).renewer = .waiting since)
      (lost : (s.replicas i).lost = true) :
      Moves s (.wake i) (s.set i { s.replicas i with renewer := .off })
  | wake {i : ι} {since : ℕ} (renewer : (s.replicas i).renewer = .waiting since)
      (leads : (s.replicas i).lost = false) :
      Moves s (.wake i) (s.set i { s.replicas i with renewer := .renewing s.key.now none })
  | renew {i : ι} {since : ℕ} (renewer : (s.replicas i).renewer = .renewing since none) :
      Moves s (.renew i)
        { s.set i { s.replicas i with renewer := .renewing since (some (s.key.renew i).2) } with
          key := (s.key.renew i).1 }
  | renewed {i : ι} {since : ℕ}
      (renewer : (s.replicas i).renewer = .renewing since (some true)) :
      Moves s (.renewed i) (s.set i { s.replicas i with renewer := .waiting s.key.now })
  | unrenewed {i : ι} {since : ℕ} {answer : Option Bool}
      (renewer : (s.replicas i).renewer = .renewing since answer) :
      Moves s (.unrenewed i) (s.set i { s.replicas i with renewer := .off, lost := true })
  | stray (i : ι) : Moves s (.stray i) { s with key := (s.key.renew i).1 }
  | crash (i : ι) :
      Moves s (.crash i) (s.set i { s.replicas i with phase := .gone, renewer := .off })

theorem moves {s s' : System ι} {a : Act ι} (stepped : s.step a = some s') : s.Moves a s' := by
  cases a with
  | wait t =>
      cases stepped
      exact .wait t
  | arrive id =>
      replace stepped : (if s.updates.next ≤ id then some _ else none) = some s' := stepped
      split at stepped
      case isTrue new =>
        cases stepped
        exact .arrive new
      case isFalse => cases stepped
  | stray i =>
      cases stepped
      exact .stray i
  | crash i =>
      cases stepped
      exact .crash i
  | next i =>
      unfold step at stepped
      dsimp only at stepped
      split at stepped
      case h_2 => cases stepped
      case h_1 batch phase =>
        split at stepped
        case isTrue lost =>
          cases stepped
          exact .stop phase lost
        case isFalse leads =>
          have leads := Bool.eq_false_of_not_eq_true leads
          split at stepped
          · cases stepped
            exact .request phase leads
          · cases stepped
            exact .handle phase leads
  | wake i =>
      unfold step at stepped
      dsimp only at stepped
      split at stepped
      case h_2 => cases stepped
      case h_1 since renewer =>
        split at stepped
        case isTrue lost =>
          cases stepped
          exact .leave renewer lost
        case isFalse leads =>
          split at stepped
          · cases stepped
            exact .wake renewer (Bool.eq_false_of_not_eq_true leads)
          · cases stepped
  | cancel i =>
      unfold step at stepped
      dsimp only at stepped
      split at stepped
      case h_4 =>
        cases stepped
        exact .cancel
      all_goals cases stepped
  | acquire i | setNx i | acquired i | refused i | drain i | drained i | undrained i | fetch i
  | fetched i | unfetched i | finish i | release i | renew i | renewed i | unrenewed i =>
      unfold step at stepped
      dsimp only at stepped
      split at stepped
      case h_2 => cases stepped
      case h_1 known =>
        cases stepped
        constructor
        all_goals exact known

end System

/-! ## The key of the one that leads -/

/-- How long a replica may take without the key being lost. -/
structure Delays where
  /-- From the call of `_try_acquire` to the start of the renewer. -/
  takeover : ℕ
  /-- How late the renewer may wake up. -/
  late : ℕ
  /-- A call of `_renew_lock`. -/
  call : ℕ
  first : takeover + lockRenew + late + call < lockTtl
  later : lockRenew + late + 2 * call < lockTtl

variable {ι : Type} [DecidableEq ι] {d : Delays}

/-- It may go on with requests and updates, or is about to. -/
def Replica.leads (r : Replica) : Bool :=
  match r.phase with
  | .draining _ _ | .polling _ | .fetching _ | .handling _ => !r.lost
  | .idle | .acquiring _ _ | .stopping | .gone => false

def Renewer.due (d : Delays) : Renewer → Option ℕ
  | .off => none
  | .waiting since => some (since + lockRenew + d.late)
  | .renewing since _ => some (since + d.call)

/-- What the replica is in now is over by then. -/
def Replica.due (d : Delays) (r : Replica) : Option ℕ :=
  match r.phase with
  | .acquiring since _ | .draining since _ => some (since + d.takeover)
  | .polling _ | .fetching _ | .handling _ => if r.lost then none else r.renewer.due d
  | .idle | .stopping | .gone => none

/-- Time does not pass a replica by that is due. -/
def Prompt (d : Delays) (s : System ι) : Act ι → Prop
  | .wait t => ∀ i, ∀ due ∈ (s.replicas i).due d, t ≤ due
  | _ => True

instance [Fintype ι] (s : System ι) : ∀ a, Decidable (Prompt d s a)
  | .wait t => inferInstanceAs (Decidable (∀ i, ∀ due ∈ (s.replicas i).due d, t ≤ due))
  | .arrive _ | .acquire _ | .setNx _ | .acquired _ | .refused _ | .drain _ | .drained _
  | .undrained _ | .next _ | .fetch _ | .fetched _ | .unfetched _ | .finish _ | .cancel _
  | .release _ _ | .wake _ | .renew _ | .renewed _ | .unrenewed _ | .stray _ | .crash _ =>
      inferInstanceAs (Decidable True)

def Renewer.Secure (d : Delays) (key : Key ι) (i : ι) : Renewer → Prop
  | .off => False
  | .waiting since => key.now ≤ since + lockRenew + d.late ∧
      key.Until i (since + lockRenew + d.late + d.call + 1)
  | .renewing since answer => since ≤ key.now ∧ key.now ≤ since + d.call ∧
      key.Until i (since + d.call + 1) ∧ (answer = some true → key.Until i (since + lockTtl))

/-- The key is the replica's until it is over with what it is in. -/
def Replica.Secure (d : Delays) (key : Key ι) (i : ι) (r : Replica) : Prop :=
  match r.phase with
  | .idle => r.renewer = .off
  | .acquiring since answer => r.renewer = .off ∧ since ≤ key.now ∧ key.now ≤ since + d.takeover ∧
      (answer = some true → key.Until i (since + lockTtl))
  | .draining since _ => r.renewer = .off ∧ r.lost = false ∧ key.now ≤ since + d.takeover ∧
      key.Until i (since + lockTtl)
  | .polling _ | .fetching _ | .handling _ => r.lost = false → r.renewer.Secure d key i
  | .stopping | .gone => True

variable {key key' : Key ι} {i j : ι} {r : Replica} {s s' : System ι} {a : Act ι}

omit [DecidableEq ι] in
theorem Renewer.Secure.holder {renewer : Renewer} (secure : renewer.Secure d key i) :
    key.holder = some i := by
  cases renewer with
  | off => cases secure
  | waiting since =>
      obtain ⟨prompt, mine⟩ := secure
      exact mine.holder (by omega)
  | renewing since answer =>
      obtain ⟨_, prompt, mine, _⟩ := secure
      exact mine.holder (by omega)

omit [DecidableEq ι] in
/-- The replica that leads has the key. -/
theorem Replica.Secure.holder (secure : r.Secure d key i) (leads : r.leads = true) :
    key.holder = some i := by
  unfold Replica.Secure at secure
  unfold Replica.leads at leads
  have first := d.first
  split at secure
  case h_3 since answer phase =>
    obtain ⟨_, _, prompt, mine⟩ := secure
    exact mine.holder (by omega)
  case h_4 phase | h_5 phase | h_6 phase =>
    rw [phase] at leads
    exact (secure (Bool.not_eq_true' _ ▸ leads)).holder
  case h_1 phase | h_2 phase | h_7 phase | h_8 phase =>
    rw [phase] at leads
    cases leads

omit [DecidableEq ι] in
theorem Renewer.Secure.of_key {renewer : Renewer} (secure : renewer.Secure d key i)
    (now : key'.now = key.now) (keeps : ∀ t, key.Until i t → key'.Until i t) :
    renewer.Secure d key' i := by
  cases renewer with
  | off => cases secure
  | waiting since => exact ⟨now ▸ secure.1, keeps _ secure.2⟩
  | renewing since answer =>
      exact ⟨now ▸ secure.1, now ▸ secure.2.1, keeps _ secure.2.2.1,
        fun done => keeps _ (secure.2.2.2 done)⟩

omit [DecidableEq ι] in
/-- What the others do to the key. -/
theorem Replica.Secure.of_key (secure : r.Secure d key i) (now : key'.now = key.now)
    (keeps : ∀ t, key.Until i t → key'.Until i t) : r.Secure d key' i := by
  unfold Replica.Secure at secure ⊢
  split at secure
  case h_1 => exact secure
  case h_2 =>
    exact ⟨secure.1, now ▸ secure.2.1, now ▸ secure.2.2.1,
      fun done => keeps _ (secure.2.2.2 done)⟩
  case h_3 => exact ⟨secure.1, secure.2.1, now ▸ secure.2.2.1, keeps _ secure.2.2.2⟩
  case h_4 | h_5 | h_6 => exact fun leads => (secure leads).of_key now keeps
  case h_7 | h_8 => trivial

omit [DecidableEq ι] in
theorem Renewer.Secure.wait {renewer : Renewer} {t : ℕ} (secure : renewer.Secure d key i)
    (prompt : ∀ due ∈ renewer.due d, t ≤ due) : renewer.Secure d (key.wait t) i := by
  cases renewer with
  | off => cases secure
  | waiting since => exact ⟨max_le secure.1 (prompt _ rfl), secure.2.wait⟩
  | renewing since answer =>
      obtain ⟨started, early, mine, done⟩ := secure
      exact ⟨le_trans started (le_max_left ..), max_le early (prompt _ rfl), mine.wait,
        fun answered => (done answered).wait⟩

omit [DecidableEq ι] in
theorem Replica.Secure.wait {t : ℕ} (secure : r.Secure d key i)
    (prompt : ∀ due ∈ r.due d, t ≤ due) : r.Secure d (key.wait t) i := by
  unfold Replica.Secure at secure ⊢
  unfold Replica.due at prompt
  split at secure
  case h_1 => exact secure
  case h_2 since answer phase =>
    rw [phase] at prompt
    obtain ⟨off, started, early, done⟩ := secure
    exact ⟨off, le_trans started (le_max_left ..), max_le early (prompt _ rfl),
      fun answered => (done answered).wait⟩
  case h_3 since answer phase =>
    rw [phase] at prompt
    obtain ⟨off, leads, early, mine⟩ := secure
    exact ⟨off, leads, max_le early (prompt _ rfl), mine.wait⟩
  case h_4 phase | h_5 phase | h_6 phase =>
    rw [phase] at prompt
    intro leads
    refine (secure leads).wait ?_
    rw [leads] at prompt
    exact prompt
  case h_7 | h_8 => trivial

omit [DecidableEq ι] in
/-- The renewer only runs under the poll loop. -/
theorem Replica.Secure.of_renewer {renewer : Renewer} (secure : r.Secure d key i)
    (on : r.renewer ≠ .off)
    (goes : r.lost = false → r.renewer.Secure d key i → renewer.Secure d key' i) :
    { r with renewer }.Secure d key' i := by
  unfold Replica.Secure at secure ⊢
  dsimp only
  split at secure
  case h_1 => exact absurd secure on
  case h_2 | h_3 => exact absurd secure.1 on
  case h_4 | h_5 | h_6 => exact fun leads => goes leads (secure leads)
  case h_7 | h_8 => trivial

omit [DecidableEq ι] in
/-- A replica that has lost the key, or is to give it back, has nothing to keep. -/
theorem Replica.Secure.of_lost {renewer : Renewer} {offset : Option ℕ} (secure : r.Secure d key i)
    (on : r.renewer ≠ .off) :
    { r with renewer, lost := true, offset }.Secure d key i := by
  unfold Replica.Secure at secure ⊢
  dsimp only
  split at secure
  case h_1 => exact absurd secure on
  case h_2 | h_3 => exact absurd secure.1 on
  case h_4 | h_5 | h_6 => exact fun leads => by cases leads
  case h_7 | h_8 => trivial

def Secured (d : Delays) (key : Key ι) (replicas : ι → Replica) : Prop :=
  ∀ i, (replicas i).Secure d key i

theorem Secured.set {replicas : ι → Replica}
    (others : ∀ j, j ≠ i → (replicas j).Secure d key j) (mine : r.Secure d key i) :
    Secured d key (Function.update replicas i r) :=
  (Function.forall_update_iff replicas fun j (r : Replica) => r.Secure d key j).mpr ⟨mine, others⟩

theorem Replica.leads_of_phase {phase : Phase} (known : r.phase = phase)
    (leads : { r with phase }.leads = true) : r.leads = true := by
  subst known
  exact leads

omit [DecidableEq ι] in
theorem Replica.Secure.of_phase {phase : Phase} (secure : r.Secure d key i)
    (known : r.phase = phase) : { r with phase }.Secure d key i := by
  subst known
  exact secure

theorem Secured.step :
    Preserves System.step (Prompt d) fun s : System ι => Secured d s.key s.replicas := by
  intro s a s' secured prompt stepped
  have only {i : ι} {r : Replica} (mine : r.Secure d s.key i) :
      Secured d s.key (Function.update s.replicas i r) :=
    Secured.set (fun j _ => secured j) mine
  have first := d.first
  have later := d.later
  cases System.moves stepped with
  | wait t => exact fun i => (secured i).wait (prompt i)
  | arrive => exact secured
  | stray i => exact fun j => (secured j).of_key Lease.Key.renew_now fun _ mine => mine.renew
  | crash i => exact only trivial
  | cancel => exact only trivial
  | @acquire i phase =>
      refine only ?_
      have secure := (secured i).of_phase phase
      exact ⟨secure, le_refl _, Nat.le_add_right .., fun no => by cases no⟩
  | @setNx i since phase =>
      refine Secured.set (fun j _ => (secured j).of_key Lease.Key.acquire_now fun _ mine =>
        mine.acquire) ?_
      obtain ⟨off, started, early, _⟩ := (secured i).of_phase phase
      refine ⟨off, ?_, ?_, fun got => ?_⟩
      · rw [Lease.Key.acquire_now]
        exact started
      · rw [Lease.Key.acquire_now]
        exact early
      · refine (Lease.Key.until_acquire (Option.some.inj got)).anti ?_
        exact Nat.add_le_add_right started _
  | @acquired i since phase =>
      refine only ?_
      have secure := (secured i).of_phase phase
      exact ⟨secure.1, rfl, secure.2.2.1, secure.2.2.2 rfl⟩
  | @refused i since answer phase => exact only ((secured i).of_phase phase).1
  | @drain i since phase =>
      have secure := (secured i).of_phase phase
      exact only secure
  | @drained i since ids phase =>
      refine only fun _ => ?_
      obtain ⟨_, _, early, mine⟩ := (secured i).of_phase phase
      exact ⟨by omega, mine.anti (by omega)⟩
  | @undrained i since answer phase =>
      refine only fun _ => ?_
      obtain ⟨_, _, early, mine⟩ := (secured i).of_phase phase
      exact ⟨by omega, mine.anti (by omega)⟩
  | stop => exact only trivial
  | @request i phase leads | @handle i _ _ phase leads | @fetch i phase | @fetched i _ phase
  | @unfetched i _ phase | @finish i _ phase =>
      have secure := (secured i).of_phase phase
      exact only secure
  | @release i reached phase =>
      refine Secured.set (fun j other => ?_) rfl
      cases reached with
      | false => exact secured j
      | true => exact (secured j).of_key Lease.Key.release_now fun _ mine => mine.release other
  | @leave i since renewer lost =>
      refine only ((secured i).of_renewer (by rw [renewer]; intro off; cases off) fun leads => ?_)
      cases lost.symm.trans leads
  | @wake i since renewer leads =>
      refine only ((secured i).of_renewer (by rw [renewer]; intro off; cases off) fun _ secure => ?_)
      rw [renewer] at secure
      obtain ⟨early, mine⟩ := secure
      exact ⟨le_refl _, Nat.le_add_right .., mine.anti (by omega), fun no => by cases no⟩
  | @renew i since renewer =>
      refine Secured.set (fun j _ => (secured j).of_key Lease.Key.renew_now fun _ mine =>
        mine.renew) ?_
      refine (secured i).of_renewer (by rw [renewer]; intro off; cases off) fun _ secure => ?_
      rw [renewer] at secure
      obtain ⟨started, early, mine, _⟩ := secure
      refine ⟨?_, ?_, mine.renew, fun got => ?_⟩
      · rw [Lease.Key.renew_now]
        exact started
      · rw [Lease.Key.renew_now]
        exact early
      · refine (Lease.Key.until_renew (Option.some.inj got)).anti ?_
        exact Nat.add_le_add_right started _
  | @renewed i since renewer =>
      refine only ((secured i).of_renewer (by rw [renewer]; intro off; cases off) fun _ secure => ?_)
      rw [renewer] at secure
      obtain ⟨started, early, _, done⟩ := secure
      exact ⟨by omega, (done rfl).anti (by omega)⟩
  | @unrenewed i since answer renewer =>
      exact only ((secured i).of_lost (by rw [renewer]; intro off; cases off))

theorem secured_of_run (run : Run System.step (Prompt d) {} s) : Secured d s.key s.replicas :=
  run.invariant Secured.step fun _ => rfl

/-- A replica that goes on with requests and updates has the lock. -/
theorem leader_holds_lock (run : Run System.step (Prompt d) {} s)
    (leads : (s.replicas i).leads = true) :
    s.key.holder = some i ∧ ∀ j, (s.replicas j).leads = true → j = i := by
  have holds := (secured_of_run run i).holder leads
  exact ⟨holds, fun j too =>
    Option.some.inj (((secured_of_run run j).holder too).symm.trans holds)⟩

/-- Half a minute to take over, and a renewer that wakes up within five seconds. -/
def ordinary : Delays := ⟨30000, 5000, 1500, by decide, by decide⟩

/-- A replica that has put the lock off, and another that asks for it. -/
theorem leader_holds_lock_two : ∃ s : System Bool,
    execGuarded System.step (Prompt ordinary) {} [.acquire false, .setNx false, .acquired false,
      .drain false, .drained false, .wait 12000, .wake false, .renew false, .renewed false,
      .acquire true, .setNx true, .refused true] = some s ∧
    s.key.holder = some false ∧ (s.replicas true).leads = false := by
  have ran : (execGuarded System.step (Prompt ordinary) ({} : System Bool) [.acquire false,
      .setNx false, .acquired false, .drain false, .drained false, .wait 12000, .wake false,
      .renew false, .renewed false, .acquire true, .setNx true, .refused true]).map (fun s =>
        (s.replicas false).leads) = some true := by
    decide +kernel
  obtain ⟨s, executed, leads⟩ := Option.map_eq_some_iff.mp ran
  have held := leader_holds_lock (Run.of_execGuarded executed) leads
  refine ⟨s, executed, held.1, Bool.eq_false_of_not_eq_true fun too => ?_⟩
  cases held.2 true too

end Telegram

end Avalant
