import Avalant.Admin.Settings
import Avalant.Lib.Table
import Mathlib.Data.Fintype.Basic
import Mathlib.Logic.Function.Basic
import Mathlib.Tactic.Linarith

/-!
`services/expiry_notifier_service.py`: the reminders before a plan expires.

A thread wakes up, reads the users that are to be reminded, sends one message
after the other, and commits the times of those that went out. Users renew,
cancel, link and unlink meanwhile, and come and go. Every worker process has such
a thread, and nothing keeps two of them from reading the same users.

`log` is for the statements: every message that Telegram has confirmed.
-/

namespace Avalant

open Transition Relational

namespace Notifier

/-! ## Rows and messages -/

/-- The columns of `users` that the notifier reads. -/
structure NoticeUser where
  id : Nat
  username : String
  plan : String
  autoRenew : Bool := true
  tgChatId : Option ℤ := none
  planExpiresAt : Option Time := none
  expiryNoticeLastSentAt : Option Time := none
  deriving DecidableEq, Repr

instance : Keyed NoticeUser := ⟨NoticeUser.id⟩

@[simp] theorem key_noticeUser (u : NoticeUser) : key u = u.id := rfl

/-- The settings of the process, and what `int` makes of a text. -/
structure Config where
  tgAuthBotToken : String
  tgBotToken : String
  publicBaseUrl : String
  ofText : String → Option ℤ

/-- `_bot_token`. -/
def botToken (config : Config) : String :=
  Python.strip (Python.orStr (some config.tgAuthBotToken) config.tgBotToken)

/-- `_public_base`. -/
def publicBase (config : Config) : String :=
  let url := Python.orStr (some config.publicBaseUrl) "https://avalant.xyz"
  String.ofList (url.toList.reverse.dropWhile (· = '/')).reverse

/-- The rounded-up days to a time, not below zero. -/
def daysLeft (expiresAt now : Time) : ℤ :=
  max 0 ((expiresAt - now) / 86400).ceil

/-- `_format_message`: the text, and where the button leads. -/
def formatMessage (config : Config) (user : NoticeUser) (days : ℤ) : String × String :=
  let when_ :=
    if days ≤ 0 then "today"
    else if days = 1 then "tomorrow"
    else "in <b>" ++ toString days ++ " days</b>"
  ("⏰ <b>Subscription reminder</b>\n\n" ++
    "Hi " ++ Python.orStr (some user.username) "there" ++ " — your <b>" ++
    Python.orStr (some user.plan) "?" ++ "</b> plan expires " ++ when_ ++
    ". Tap below to renew or change tier.\n\n" ++
    "You can stop these reminders from your <b>Profile → Cancel renewal</b>.",
    publicBase config ++ "/pricing?renew=1")

/-! ## Who is reminded -/

/-- What a pass has read from the settings. -/
structure Policy where
  days : ℤ
  intervalHours : ℤ
  deriving DecidableEq, Repr

/-- The settings as they are read, whatever is stored. -/
def policyOf (ofText : String → Option ℤ) (days interval : Json) : Policy :=
  ⟨getExpiryNoticeDays ofText days, getExpiryNoticeIntervalHours ofText interval⟩

def Policy.interval (policy : Policy) : Time := policy.intervalHours * 3600

/-- The filters of `_candidates`. -/
def isCandidate (policy : Policy) (now : Time) (user : NoticeUser) : Bool :=
  user.autoRenew && user.tgChatId.isSome &&
    (user.planExpiresAt.any fun expires => expires ≤ now + policy.days * 86400 ∧ now < expires) &&
    user.expiryNoticeLastSentAt.all fun last => policy.interval ≤ now - last

def candidates (policy : Policy) (now : Time) (users : Table NoticeUser) : List NoticeUser :=
  users.where_ (isCandidate policy now)

/-! ## A pass -/

/-- A message that went out, with the pass that sent it. -/
structure Sent where
  user : NoticeUser
  policy : Policy
  /-- The time of `_candidates`, and the time that the pass commits. -/
  readAt : Time
  stampedAt : Time
  message : String × String
  deriving DecidableEq, Repr

/-- A pass between its query and its commit. -/
structure Pass where
  policy : Policy
  readAt : Time
  /-- The second `utcnow`, once it is taken. -/
  now : Option Time := none
  rest : List NoticeUser
  sent : List Nat := []
  deriving DecidableEq, Repr

structure State (ι : Type) where
  clock : Time := 0
  users : Table NoticeUser := Table.empty
  seq : Nat := 0
  /-- Of every process. -/
  passes : ι → Option Pass := fun _ => none
  log : List Sent := []

/-- What a profile, a payment or the bot may change in a row. -/
structure Profile where
  username : String
  plan : String
  autoRenew : Bool
  tgChatId : Option ℤ
  planExpiresAt : Option Time
  deriving DecidableEq, Repr

inductive Act (ι : Type)
  | wait (until_ : Time)
  | signUp (profile : Profile)
  | edit (id : Nat) (profile : Profile)
  | delete (id : Nat)
  /-- `_candidates`, with the settings as they are stored. -/
  | scan (i : ι) (days interval : Json)
  | start (i : ι)
  | send (i : ι) (delivered : Bool)
  | commit (i : ι) (succeeds : Bool)
  /-- The process is restarted. -/
  | restart (i : ι)

def newUser (id : Nat) (profile : Profile) : NoticeUser :=
  { id, username := profile.username, plan := profile.plan, autoRenew := profile.autoRenew
    tgChatId := profile.tgChatId, planExpiresAt := profile.planExpiresAt }

def edited (id : Nat) (profile : Profile) (user : NoticeUser) : NoticeUser :=
  if user.id = id then
    { user with
      username := profile.username, plan := profile.plan, autoRenew := profile.autoRenew
      tgChatId := profile.tgChatId, planExpiresAt := profile.planExpiresAt }
  else user

/-- The committed column of the users that were sent to. -/
def stamped (sent : List Nat) (now : Time) (user : NoticeUser) : NoticeUser :=
  if user.id ∈ sent then { user with expiryNoticeLastSentAt := some now } else user

theorem id_edited (id : Nat) (profile : Profile) (user : NoticeUser) :
    key (edited id profile user) = key user := by
  unfold edited
  split
  · rfl
  · rfl

theorem id_stamped (sent : List Nat) (now : Time) (user : NoticeUser) :
    key (stamped sent now user) = key user := by
  unfold stamped
  split
  · rfl
  · rfl

/-- The text for a user of a pass. -/
def messageFor (config : Config) (user : NoticeUser) (now : Time) : String × String :=
  formatMessage config user (daysLeft (user.planExpiresAt.getD now) now)

section

variable {ι : Type} [DecidableEq ι]

def State.setPass (s : State ι) (i : ι) (pass : Option Pass) : State ι :=
  { s with passes := Function.update s.passes i pass }

@[simp] theorem passes_setPass (s : State ι) (i : ι) (pass : Option Pass) :
    (s.setPass i pass).passes i = pass := by
  unfold State.setPass
  exact Function.update_self ..

theorem passes_setPass_of_ne (s : State ι) {i j : ι} (other : j ≠ i) (pass : Option Pass) :
    (s.setPass i pass).passes j = s.passes j := by
  unfold State.setPass
  exact Function.update_of_ne other ..

def step (config : Config) (s : State ι) : Act ι → Option (State ι)
  | .wait until_ => if s.clock ≤ until_ then some { s with clock := until_ } else none
  | .signUp profile =>
      some { s with users := s.users.insert (newUser s.seq profile), seq := s.seq + 1 }
  | .edit id profile =>
      some { s with users := s.users.map (edited id profile) (id_edited id profile) }
  | .delete id => some { s with users := s.users.erase id }
  | .scan i days interval =>
      match s.passes i with
      | some _ => none
      | none =>
          let policy := policyOf config.ofText days interval
          if policy.days ≤ 0 ∨ botToken config = "" then some s
          else
            match candidates policy s.clock s.users with
            | [] => some s
            | users => some (s.setPass i (some { policy, readAt := s.clock, rest := users }))
  | .start i =>
      match s.passes i with
      | some ⟨policy, readAt, none, rest, sent⟩ =>
          some (s.setPass i (some ⟨policy, readAt, some s.clock, rest, sent⟩))
      | _ => none
  | .send i delivered =>
      match s.passes i with
      | some ⟨policy, readAt, some now, user :: rest, sent⟩ =>
          if delivered then
            some { s.setPass i (some ⟨policy, readAt, some now, rest, user.id :: sent⟩) with
              log := s.log ++
                [⟨user, policy, readAt, now, messageFor config user now⟩] }
          else some (s.setPass i (some ⟨policy, readAt, some now, rest, sent⟩))
      | _ => none
  | .commit i succeeds =>
      match s.passes i with
      | some ⟨_, _, some now, [], sent⟩ =>
          if succeeds then
            some { s.setPass i none with
              users := s.users.map (stamped sent now) (id_stamped sent now) }
          else some (s.setPass i none)
      | _ => none
  | .restart i => some (s.setPass i none)

end

/-- A pass begins when no process has one under way, and a pass that has sent something gets to
commit. -/
def OneByOne {ι : Type} (s : State ι) : Act ι → Prop
  | .scan _ _ _ => ∀ j, s.passes j = none
  | .commit _ succeeds => succeeds = true
  | .restart i => ∀ pass ∈ s.passes i, pass.sent = []
  | _ => True

instance {ι : Type} [Fintype ι] (s : State ι) : (a : Act ι) → Decidable (OneByOne s a)
  | .scan _ _ _ => inferInstanceAs (Decidable (∀ j, s.passes j = none))
  | .commit _ succeeds => inferInstanceAs (Decidable (succeeds = true))
  | .restart i => inferInstanceAs (Decidable (∀ pass ∈ s.passes i, pass.sent = []))
  | .wait _ | .signUp _ | .edit _ _ | .delete _ | .start _ | .send _ _ =>
      inferInstanceAs (Decidable True)

/-! ## The invariant -/

/-- What every message promises about the user, as read by the pass. -/
structure Due (e : Sent) : Prop where
  wanted : e.user.autoRenew = true
  linked : e.user.tgChatId.isSome = true
  expires : ∃ expires, e.user.planExpiresAt = some expires ∧ e.readAt < expires ∧
    expires ≤ e.readAt + e.policy.days * 86400
  interval : 1 ≤ e.policy.intervalHours

/-- Two messages to one user, the earlier one first. -/
def Spaced (e e' : Sent) : Prop :=
  e.user.id = e'.user.id → e.stampedAt + e'.policy.interval ≤ e'.readAt

section

variable {ι : Type}

/-- What a pass under way still relies on. -/
structure State.PassSound (s : State ι) (pass : Pass) : Prop where
  read : pass.readAt ≤ s.clock
  interval : 1 ≤ pass.policy.intervalHours
  started : ∀ now, pass.now = some now →
    pass.readAt ≤ now ∧ now ≤ s.clock ∧ ∀ e ∈ s.log, e.stampedAt ≤ now
  rest : (pass.rest.map NoticeUser.id).Nodup
  unsent : ∀ user ∈ pass.rest, user.id ∉ pass.sent
  candidate : ∀ user ∈ pass.rest, isCandidate pass.policy pass.readAt user = true
  old : ∀ user ∈ pass.rest, ∀ e ∈ s.log, e.user.id = user.id →
    e.stampedAt + pass.policy.interval ≤ pass.readAt
  known : ∀ user ∈ pass.rest, user.id < s.seq

structure State.Sound (s : State ι) : Prop where
  due : ∀ e ∈ s.log, Due e
  spaced : s.log.Pairwise Spaced
  past : ∀ e ∈ s.log, e.stampedAt ≤ s.clock
  rows : ∀ user ∈ s.users.rows, user.id < s.seq
  known : ∀ e ∈ s.log, e.user.id < s.seq
  /-- What was sent is in the column, or about to be committed. -/
  recorded : ∀ e ∈ s.log, ∀ user ∈ s.users.rows, user.id = e.user.id →
    (∃ last, user.expiryNoticeLastSentAt = some last ∧ e.stampedAt ≤ last) ∨
      ∃ i, ∃ pass ∈ s.passes i, e.user.id ∈ pass.sent ∧
        ∃ now, pass.now = some now ∧ e.stampedAt ≤ now
  pass : ∀ i, ∀ pass ∈ s.passes i, s.PassSound pass
  /-- At most one process is at it. -/
  one : ∀ i j, s.passes i ≠ none → s.passes j ≠ none → i = j

end

theorem isCandidate_eq_true {policy : Policy} {now : Time} {user : NoticeUser}
    (candidate : isCandidate policy now user = true) :
    user.autoRenew = true ∧ user.tgChatId.isSome = true ∧
      (∃ expires, user.planExpiresAt = some expires ∧ now < expires ∧
        expires ≤ now + policy.days * 86400) ∧
      ∀ last, user.expiryNoticeLastSentAt = some last → policy.interval ≤ now - last := by
  unfold isCandidate at candidate
  simp only [Bool.and_eq_true] at candidate
  obtain ⟨⟨⟨wanted, linked⟩, window⟩, paused⟩ := candidate
  refine ⟨wanted, linked, ?_, fun last sent => ?_⟩
  · cases expires : user.planExpiresAt with
    | none =>
        rw [expires] at window
        cases window
    | some at_ =>
        rw [expires] at window
        obtain ⟨near, future⟩ := of_decide_eq_true window
        exact ⟨at_, rfl, future, near⟩
  · rw [sent] at paused
    exact of_decide_eq_true paused

variable {ι : Type} [DecidableEq ι] {config : Config} {s s' : State ι} {i : ι}

omit [DecidableEq ι] in
/-- A step that leaves the log and the pass alone, and keeps the column of every row it keeps. -/
theorem State.Sound.of_rows (sound : s.Sound) (clock : s.clock ≤ s'.clock) (seq : s.seq ≤ s'.seq)
    (passes : s'.passes = s.passes) (log : s'.log = s.log)
    (bounded : ∀ user ∈ s'.users.rows, user.id < s'.seq)
    (rows : ∀ user ∈ s'.users.rows, s.seq ≤ user.id ∨ ∃ user₀ ∈ s.users.rows,
      user₀.id = user.id ∧ user₀.expiryNoticeLastSentAt = user.expiryNoticeLastSentAt) :
    s'.Sound := by
  refine ⟨?_, ?_, ?_, bounded, ?_, fun e member user row same => ?_, fun i p held => ?_, ?_⟩
  · rw [log]
    exact sound.due
  · rw [log]
    exact sound.spaced
  · rw [log]
    exact fun e member => (sound.past e member).trans clock
  · rw [log]
    exact fun e member => (sound.known e member).trans_le seq
  · rw [log] at member
    rw [passes]
    rcases rows user row with fresh | ⟨user₀, old, id, column⟩
    · exact absurd (sound.known e member) (by rw [← same]; exact not_lt.mpr fresh)
    · rw [← column]
      exact sound.recorded e member user₀ old (id.trans same)
  · rw [passes] at held
    obtain ⟨read, interval, started, rest, unsent, candidate, old, known⟩ := sound.pass i p held
    refine ⟨read.trans clock, interval, fun now taken => ?_, rest, unsent, candidate, ?_,
      fun user member => (known user member).trans_le seq⟩
    · obtain ⟨before, past, late⟩ := started now taken
      rw [log]
      exact ⟨before, past.trans clock, late⟩
    · rw [log]
      exact old
  · rw [passes]
    exact sound.one

omit [DecidableEq ι] in
/-- While a process has a pass under way, the others have none. -/
theorem State.Sound.others (sound : s.Sound) {p : Pass} (pass : s.passes i = some p) {j : ι}
    (other : j ≠ i) : s.passes j = none := by
  by_contra busy
  exact other (sound.one j i busy (by simp [pass]))

/-- The passes after one process, the only one that is at it, has gone on. -/
theorem one_setPass (others : ∀ j, j ≠ i → s.passes j = none) (pass : Option Pass) (j k : ι) :
    (s.setPass i pass).passes j ≠ none → (s.setPass i pass).passes k ≠ none → j = k := by
  have only : ∀ j, (s.setPass i pass).passes j ≠ none → j = i := by
    intro j busy
    by_contra other
    exact busy ((passes_setPass_of_ne s other pass).trans (others j other))
  exact fun first second => (only j first).trans (only k second).symm

/-- The pass of a process is the one that it has gone on with. -/
theorem held_setPass (others : ∀ j, j ≠ i → s.passes j = none) {pass : Option Pass} {j : ι} {p : Pass}
    (held : p ∈ (s.setPass i pass).passes j) : p ∈ pass := by
  by_cases same : j = i
  · subst same
    rwa [passes_setPass] at held
  · rw [passes_setPass_of_ne s same, others j same] at held
    cases held

/-- A step that changes only what the pass under way has still to do. -/
theorem State.Sound.of_pass (sound : s.Sound) (others : ∀ j, j ≠ i → s.passes j = none)
    (pass : Option Pass)
    (sent : ∀ p ∈ s.passes i, ∀ id ∈ p.sent, ∀ now, p.now = some now →
      ∃ p' ∈ pass, id ∈ p'.sent ∧ p'.now = some now)
    (kept : ∀ p' ∈ pass, s.PassSound p') : (s.setPass i pass).Sound := by
  refine ⟨sound.due, sound.spaced, sound.past, sound.rows, sound.known,
    fun e member user row same => ?_, fun j p' held => ?_, one_setPass others pass⟩
  · rcases sound.recorded e member user row same with stored | ⟨j, p, held, given, now, taken, late⟩
    · exact .inl stored
    · by_cases own : j = i
      · subst own
        obtain ⟨p', held', given', taken'⟩ := sent p held _ given now taken
        exact .inr ⟨j, p', by rwa [passes_setPass], given', now, taken', late⟩
      · rw [others j own] at held
        cases held
  · obtain ⟨read, interval, started, rest, unsent, candidate, old, known⟩ :=
      kept p' (held_setPass others held)
    exact ⟨read, interval, started, rest, unsent, candidate, old, known⟩

omit [DecidableEq ι] in
/-- With no pass under way, every candidate was last sent to long enough ago. -/
theorem State.Sound.scanned (sound : s.Sound) (idle : ∀ j, s.passes j = none) {policy : Policy}
    (interval : 1 ≤ policy.intervalHours) :
    State.PassSound s { policy, readAt := s.clock, rest := candidates policy s.clock s.users } := by
  have row : ∀ user ∈ candidates policy s.clock s.users,
      user ∈ s.users.rows ∧ isCandidate policy s.clock user = true :=
    fun user member => List.mem_filter.mp member
  refine ⟨le_rfl, interval, (fun _ taken => nomatch taken), ?_, fun user _ => List.not_mem_nil,
    fun user member => (row user member).2, fun user member e sent same => ?_,
    fun user member => sound.rows user (row user member).1⟩
  · exact s.users.nodup.sublist (List.filter_sublist.map _)
  · obtain ⟨stored, candidate⟩ := row user member
    obtain ⟨-, -, -, paused⟩ := isCandidate_eq_true candidate
    rcases sound.recorded e sent user stored same.symm with ⟨last, column, late⟩ | ⟨j, p, held, -⟩
    · have pause := paused last column
      change e.stampedAt + policy.interval ≤ s.clock
      linarith
    · rw [idle j] at held
      cases held

/-- A pass that takes its time has sent nothing yet. -/
theorem State.Sound.started (sound : s.Sound) {policy : Policy} {readAt : Time}
    {rest : List NoticeUser} {sent : List Nat}
    (pass : s.passes i = some ⟨policy, readAt, none, rest, sent⟩) :
    (s.setPass i (some ⟨policy, readAt, some s.clock, rest, sent⟩)).Sound := by
  obtain ⟨read, interval, -, nodup, unsent, candidate, old, known⟩ :=
    sound.pass i _ (Option.mem_def.mpr pass)
  refine sound.of_pass (fun j other => sound.others pass other) _
    (fun p held id given now taken => ?_) fun p' held => ?_
  · rw [pass] at held
    cases held
    cases taken
  · cases held
    refine ⟨read, interval, fun now taken => ?_, nodup, unsent, candidate, old, known⟩
    cases taken
    exact ⟨read, le_rfl, sound.past⟩

/-- A message that does not arrive leaves the others of the pass. -/
theorem State.Sound.skip (sound : s.Sound) {policy : Policy} {readAt now : Time} {user : NoticeUser}
    {rest : List NoticeUser} {sent : List Nat}
    (pass : s.passes i = some ⟨policy, readAt, some now, user :: rest, sent⟩) :
    (s.setPass i (some ⟨policy, readAt, some now, rest, sent⟩)).Sound := by
  obtain ⟨read, interval, started, nodup, unsent, candidate, old, known⟩ :=
    sound.pass i _ (Option.mem_def.mpr pass)
  refine sound.of_pass (fun j other => sound.others pass other) _
    (fun p held id given now' taken => ?_) fun p' held => ?_
  · rw [pass] at held
    cases held
    exact ⟨_, rfl, given, taken⟩
  · cases held
    exact ⟨read, interval, started, (List.nodup_cons.mp nodup).2,
      fun u member => unsent u (List.mem_cons_of_mem _ member),
      fun u member => candidate u (List.mem_cons_of_mem _ member),
      fun u member => old u (List.mem_cons_of_mem _ member),
      fun u member => known u (List.mem_cons_of_mem _ member)⟩

/-- A restart before the first message loses nothing that was sent. -/
theorem State.Sound.restart (sound : s.Sound) (unsent : ∀ p ∈ s.passes i, p.sent = []) :
    (s.setPass i none).Sound := by
  cases pass : s.passes i with
  | none =>
      have same : s.setPass i none = s := by
        unfold State.setPass
        rw [← pass, Function.update_eq_self]
      rw [same]
      exact sound
  | some p =>
      refine sound.of_pass (fun j other => sound.others pass other) none
        (fun p held id given => ?_) fun p' held => nomatch held
      rw [unsent p held] at given
      cases given

theorem State.Sound.send (sound : s.Sound) {policy : Policy} {readAt now : Time} {user : NoticeUser}
    {rest : List NoticeUser} {sent : List Nat} {message : String × String}
    (pass : s.passes i = some ⟨policy, readAt, some now, user :: rest, sent⟩) :
    State.Sound { s.setPass i (some ⟨policy, readAt, some now, rest, user.id :: sent⟩) with
      log := s.log ++ [⟨user, policy, readAt, now, message⟩] } := by
  have others := fun j (other : j ≠ i) => sound.others pass other
  obtain ⟨read, interval, started, nodup, unsent, candidate, old, known⟩ :=
    sound.pass i _ (Option.mem_def.mpr pass)
  obtain ⟨first, later⟩ := List.nodup_cons.mp nodup
  have here : user ∈ user :: rest := List.mem_cons_self
  have tail : ∀ {u : NoticeUser}, u ∈ rest → u ∈ user :: rest := List.mem_cons_of_mem user
  have other : ∀ u ∈ rest, u.id ≠ user.id := fun u member same =>
    first (List.mem_map.mpr ⟨u, member, same⟩)
  obtain ⟨before, soon, late⟩ := started now rfl
  refine ⟨fun e member => ?_, ?_, fun e member => ?_, sound.rows, fun e member => ?_,
    fun e member u row same => ?_, fun j p held => ?_, one_setPass others _⟩
  · rcases List.mem_append.mp member with before | last
    · exact sound.due e before
    · rw [List.mem_singleton.mp last]
      obtain ⟨wanted, linked, ⟨expires, known, future, near⟩, -⟩ :=
        isCandidate_eq_true (candidate user here)
      exact ⟨wanted, linked, ⟨expires, known, future, near⟩, interval⟩
  · refine List.pairwise_append.mpr ⟨sound.spaced, List.pairwise_singleton _ _, ?_⟩
    intro e before e' last
    rw [List.mem_singleton.mp last]
    exact fun same => old user here e before same
  · rcases List.mem_append.mp member with before | last
    · exact sound.past e before
    · rw [List.mem_singleton.mp last]
      exact soon
  · rcases List.mem_append.mp member with before | last
    · exact sound.known e before
    · rw [List.mem_singleton.mp last]
      exact known user here
  · have now_held : ∀ id ∈ user.id :: sent, ∀ e' : Sent, e'.stampedAt ≤ now → ∃ j,
        ∃ p ∈ (s.setPass i (some ⟨policy, readAt, some now, rest, user.id :: sent⟩)).passes j,
          id ∈ p.sent ∧ ∃ now', p.now = some now' ∧ e'.stampedAt ≤ now' :=
      fun id given e' stamp => ⟨i, _, passes_setPass s i _, given, now, rfl, stamp⟩
    rcases List.mem_append.mp member with before | last
    · rcases sound.recorded e before u row same with stored | ⟨j, p, held, given, _, taken, stamp⟩
      · exact .inl stored
      · by_cases own : j = i
        · subst own
          rw [pass] at held
          cases held
          cases taken
          exact .inr (now_held _ (List.mem_cons_of_mem _ given) e stamp)
        · rw [others j own] at held
          cases held
    · rw [List.mem_singleton.mp last]
      exact .inr (now_held user.id List.mem_cons_self _ le_rfl)
  · cases held_setPass others held
    refine ⟨read, interval, fun now' taken => ?_, later, fun u member => ?_,
      fun u member => candidate u (tail member), fun u member e given same => ?_,
      fun u member => known u (tail member)⟩
    · cases taken
      refine ⟨before, soon, fun e given => ?_⟩
      rcases List.mem_append.mp given with old | last
      · exact late e old
      · rw [List.mem_singleton.mp last]
    · rw [List.mem_cons, not_or]
      exact ⟨other u member, unsent u (tail member)⟩
    · rcases List.mem_append.mp given with before | last
      · exact old u (tail member) e before same
      · rw [List.mem_singleton.mp last] at same
        exact absurd same.symm (other u member)

theorem State.Sound.commit (sound : s.Sound) {policy : Policy} {readAt now : Time}
    {rest : List NoticeUser} {sent : List Nat}
    (pass : s.passes i = some ⟨policy, readAt, some now, rest, sent⟩) :
    State.Sound { s.setPass i none with
      users := s.users.map (stamped sent now) (id_stamped sent now) } := by
  have others := fun j (other : j ≠ i) => sound.others pass other
  obtain ⟨-, -, started, -⟩ := sound.pass i _ (Option.mem_def.mpr pass)
  obtain ⟨-, -, late⟩ := started now rfl
  refine ⟨sound.due, sound.spaced, sound.past, fun user member => ?_, sound.known,
    fun e member user row same => .inl ?_, fun j p held => ?_, one_setPass others none⟩
  · obtain ⟨user₀, old, rfl⟩ := List.mem_map.mp member
    exact (id_stamped sent now user₀).trans_lt (sound.rows user₀ old)
  · obtain ⟨user₀, old, rfl⟩ := List.mem_map.mp row
    have same₀ : user₀.id = e.user.id := (id_stamped sent now user₀).symm.trans same
    unfold stamped
    split
    case isTrue => exact ⟨now, rfl, late e member⟩
    case isFalse unsent =>
      rcases sound.recorded e member user₀ old same₀ with stored | ⟨j, p, held, given, -⟩
      · exact stored
      · by_cases own : j = i
        · subst own
          rw [pass] at held
          cases held
          exact absurd (same₀ ▸ given) unsent
        · rw [others j own] at held
          cases held
  · cases held_setPass others held

theorem sound_preserved : Preserves (step config) OneByOne fun s : State ι => s.Sound := by
  intro s a s' sound admitted stepped
  cases a with
  | wait until_ =>
      simp only [step] at stepped
      split at stepped
      case isTrue later =>
        cases stepped
        exact sound.of_rows later le_rfl rfl rfl sound.rows
          fun user row => .inr ⟨user, row, rfl, rfl⟩
      case isFalse => cases stepped
  | signUp profile =>
      cases stepped
      refine sound.of_rows le_rfl (Nat.le_succ _) rfl rfl (fun user row => ?_) fun user row => ?_
      · rcases Table.mem_rows_of_insert row with old | rfl
        · exact (sound.rows user old).trans (Nat.lt_succ_self _)
        · exact Nat.lt_succ_self _
      · rcases Table.mem_rows_of_insert row with old | rfl
        · exact .inr ⟨user, old, rfl, rfl⟩
        · exact .inl (Nat.le_refl s.seq)
  | edit id profile =>
      cases stepped
      refine sound.of_rows le_rfl le_rfl rfl rfl (fun user row => ?_) fun user row => ?_
      · obtain ⟨user₀, old, rfl⟩ := List.mem_map.mp row
        exact (id_edited id profile user₀).trans_lt (sound.rows user₀ old)
      · obtain ⟨user₀, old, rfl⟩ := List.mem_map.mp row
        refine .inr ⟨user₀, old, (id_edited id profile user₀).symm, ?_⟩
        unfold edited
        split
        · rfl
        · rfl
  | delete id =>
      cases stepped
      exact sound.of_rows le_rfl le_rfl rfl rfl
        (fun user row => sound.rows user (Table.mem_rows_erase.mp row).1)
        fun user row => .inr ⟨user, (Table.mem_rows_erase.mp row).1, rfl, rfl⟩
  | scan i days interval =>
      have idle : ∀ j, s.passes j = none := admitted
      simp only [step] at stepped
      split at stepped
      case h_1 => cases stepped
      case h_2 =>
        split at stepped
        · cases stepped
          exact sound
        · split at stepped
          case h_1 =>
            cases stepped
            exact sound
          case h_2 =>
            cases stepped
            have hours := (clampedInt_bounds config.ofText keyExpiryNoticeIntervalHours
              (by decide : (1 : ℤ) ≤ 168) interval).1
            refine sound.of_pass (fun j _ => idle j) _ (fun p held => ?_) fun p' held => ?_
            · rw [idle i] at held
              cases held
            · cases held
              exact sound.scanned idle hours
  | start i =>
      simp only [step] at stepped
      split at stepped
      case h_1 policy readAt rest sent pass =>
        cases stepped
        exact sound.started pass
      case h_2 => cases stepped
  | send i delivered =>
      simp only [step] at stepped
      split at stepped
      case h_1 policy readAt now user rest sent pass =>
        split at stepped
        · cases stepped
          exact sound.send pass
        · cases stepped
          exact sound.skip pass
      case h_2 => cases stepped
  | commit i succeeds =>
      simp only [step] at stepped
      split at stepped
      case h_1 policy readAt now sent pass =>
        have committed : succeeds = true := admitted
        rw [if_pos committed] at stepped
        cases stepped
        exact sound.commit pass
      case h_2 => cases stepped
  | restart i =>
      cases stepped
      exact sound.restart admitted

omit [DecidableEq ι] in
theorem sound_initial : State.Sound ({} : State ι) := by
  refine ⟨?_, List.Pairwise.nil, ?_, ?_, ?_, ?_, ?_, ?_⟩
  · intro e member
    cases member
  · intro e member
    cases member
  · intro user member
    cases member
  · intro e member
    cases member
  · intro e member
    cases member
  · intro i pass held
    cases held
  · intro i j busy
    exact absurd rfl busy

/-! ## Reminders -/

def oneBot : Config := ⟨"", "bot", "https://avalant.xyz/", fun _ => none⟩

def expiringUser : Profile := ⟨"ann", "pro", true, some 7, some 200000⟩

/-- A reminder, a pass of the other process too early for the next one, and the next one a day
later. -/
def twoReminders : List (Act Bool) :=
  [.signUp expiringUser, .scan false (.int 3) (.int 24), .start false, .send false true,
    .commit false true, .wait 3600, .scan true (.int 3) (.int 24), .wait 86400,
    .scan true (.int 3) (.int 24), .start true, .send true true, .commit true true]

end Notifier

end Avalant
