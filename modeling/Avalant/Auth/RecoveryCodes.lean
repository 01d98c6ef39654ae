import Avalant.Lib.Tasks
import Avalant.Auth.TwoFactor

/-!
Recovery codes under overlapping requests.

A request loads the user's row, checks a code against the list in it, and
writes the list without that code back as a whole. The code is spent once as
long as the list is, at that write, still the one the request has loaded.

A recovery code is told by its stored hash: every bcrypt hash has a salt of its
own, so no hash is drawn twice.
-/

namespace Avalant

open Transition

/-- The gates of a user's sensitive operations. -/
inductive GateOp
  | setup (secretEnc : String)
  | regenerate
  | disable
  deriving DecidableEq, Repr

inductive TotpRequest
  | login (code : String)
  | gate (op : GateOp) (body : GateBody)
  | verify (code : String)
  deriving DecidableEq, Repr

/-- What a statement finds outside the row. -/
structure TotpInput where
  gate : GateInput := {}
  /-- Whether the email half of a gate passes. -/
  emailOk : Bool := false
  /-- The hashes of the recovery codes generated. -/
  hashes : List String := []
  /-- Whether a commit gets through. -/
  commits : Bool := true
  deriving DecidableEq, Repr

inductive TotpTask
  | load (request : TotpRequest)
  /-- A request that is let through, on a row it has loaded, with the recovery code it used and
  the hashes it has drawn. -/
  | commit (loaded new : AuthUser) (used : Option String) (hashes : List String)
  deriving DecidableEq, Repr

/-- The row of the user, the hashes drawn, and the recovery codes of the requests that succeeded. -/
structure TotpStore where
  user : AuthUser
  generated : List String := []
  accepted : List String := []
  deriving DecidableEq, Repr

/-- The recovery code of a factor. -/
def SecondFactor.used : SecondFactor → Option String
  | .totp => none
  | .recovery used _ => some used

section

variable (crypto : Crypto)

/-- The recovery code a request uses when it is let through. -/
def usedCode (user : AuthUser) (now : Time) : TotpRequest → Option String
  | .login code =>
      ((user.secretEnc.bind crypto.decrypt).bind fun secret =>
        loginFactor crypto user secret code now).bind SecondFactor.used
  | .gate _ body => (gateFactor crypto user body now).bind SecondFactor.used
  | .verify _ => none

/-- The row a request leaves in its session. -/
def respondTotp (user : AuthUser) (input : TotpInput) : TotpRequest → Except HttpError AuthUser
  | .login code => loginTotp crypto user code input.gate
  | .gate (.setup secretEnc) body =>
      me2faSetup crypto user body input.emailOk input.gate secretEnc
  | .gate .regenerate body =>
      me2faRecoveryRegenerate crypto user body input.emailOk input.gate input.hashes
  | .gate .disable body => me2faDisable crypto user body input.emailOk input.gate
  | .verify code => me2faVerify crypto user code input.gate.now input.hashes

/-- The salts are new. -/
def freshHashes (store : TotpStore) (hashes : List String) : Bool :=
  hashes.Nodup && hashes.all fun hash => !store.generated.contains hash

def nextTotp (store : TotpStore) (_ : List TotpTask) (input : TotpInput) :
    TotpTask → Option (TotpStore × Option TotpTask)
  | .load request =>
      if freshHashes store input.hashes then
        let drawn := { store with generated := input.hashes ++ store.generated }
        match respondTotp crypto store.user input request with
        | .error _ => some (drawn, none)
        | .ok new =>
            some (drawn, some (.commit store.user new
              (usedCode crypto store.user input.gate.now request) input.hashes))
      else none
  | .commit loaded new used _ =>
      if input.commits then
        some ({ store with
          user := store.user.flush loaded new
          accepted := used.toList ++ store.accepted }, none)
      else some (store, none)

/-- The requests of one user that read or write the recovery codes. -/
def totpRequests : Program TotpStore TotpTask TotpRequest TotpInput where
  start _ request := some (.load request)
  next := nextTotp crypto

end

/-- No recovery code is accepted twice, and none that was accepted is valid. -/
structure TotpStore.SingleUse (store : TotpStore) : Prop where
  once : store.accepted.Nodup
  spent : ∀ hash ∈ store.accepted, hash ∉ store.user.recoveryCodes

/-- A user with recovery codes, none of them used. -/
structure TotpStore.Fresh (store : TotpStore) : Prop where
  distinct : store.user.recoveryCodes.Nodup
  generated : ∀ hash ∈ store.user.recoveryCodes, hash ∈ store.generated
  unused : store.accepted = []

/-- In every reachable state the recovery codes are single-use. -/
def SingleUseKept (crypto : Crypto)
    (ok : TotpStore → List TotpTask → TotpInput → TotpTask → Prop) : Prop :=
  ∀ (store : TotpStore) (s : Pool TotpStore TotpTask), store.Fresh →
    Run (totpRequests crypto).step (Program.guard ok) { store } s → s.store.SingleUse

namespace TotpStore

/-- A request that has used a recovery code commits on the list it has loaded. -/
def ListUnchanged (store : TotpStore) (_ : List TotpTask) (input : TotpInput) : TotpTask → Prop
  | .commit loaded _ (some _) _ => input.commits = true →
      store.user.totpRecoveryCodes = loaded.totpRecoveryCodes
  | _ => True

instance (store : TotpStore) (others : List TotpTask) (input : TotpInput) :
    (task : TotpTask) → Decidable (store.ListUnchanged others input task)
  | .commit _ _ (some _) _ => inferInstanceAs (Decidable (_ → _))
  | .commit _ _ none _ | .load _ => inferInstanceAs (Decidable True)

variable {crypto : Crypto} {store store' : TotpStore}

/-! ## What a request does to the list -/

theorem consumeFirst_eq_some {passes : String → Bool} {hashes remaining : List String}
    {used : String} (found : consumeFirst passes hashes = some (used, remaining)) :
    ∃ before after, hashes = before ++ used :: after ∧ remaining = before ++ after := by
  induction hashes generalizing remaining with
  | nil => cases found
  | cons hash rest ih =>
      unfold consumeFirst at found
      split at found
      · cases found
        exact ⟨[], rest, rfl, rfl⟩
      · obtain ⟨⟨found', left⟩, later, equal⟩ := Option.map_eq_some_iff.mp found
        obtain ⟨rfl, rfl⟩ := Prod.mk.inj equal
        obtain ⟨before, after, rfl, rfl⟩ := ih later
        exact ⟨hash :: before, after, rfl, rfl⟩

/-- `remaining` is the list without `used`. -/
def Spends (hashes : List String) (used : String) (remaining : List String) : Prop :=
  ∃ before after, hashes = before ++ used :: after ∧ remaining = before ++ after

theorem Spends.mem {hashes remaining : List String} {used : String}
    (spends : Spends hashes used remaining) : used ∈ hashes := by
  obtain ⟨before, after, rfl, -⟩ := spends
  simp

theorem Spends.subset {hashes remaining : List String} {used : String}
    (spends : Spends hashes used remaining) : ∀ hash ∈ remaining, hash ∈ hashes := by
  obtain ⟨before, after, rfl, rfl⟩ := spends
  intro hash member
  rcases List.mem_append.mp member with first | last
  · exact List.mem_append_left _ first
  · exact List.mem_append_right _ (List.mem_cons_of_mem _ last)

theorem Spends.nodup {hashes remaining : List String} {used : String}
    (spends : Spends hashes used remaining) (distinct : hashes.Nodup) :
    remaining.Nodup ∧ used ∉ remaining := by
  obtain ⟨before, after, rfl, rfl⟩ := spends
  have split := List.nodup_middle.mp distinct
  exact ⟨(List.nodup_cons.mp split).2, (List.nodup_cons.mp split).1⟩

/-- What a request that is let through leaves of the list, given the code it has used. -/
inductive ListWrite (loaded new : AuthUser) (hashes : List String) : Option String → Prop
  | kept : new.totpRecoveryCodes = loaded.totpRecoveryCodes → ListWrite loaded new hashes none
  | spent {used : String} {remaining : List String} :
      new.totpRecoveryCodes = some remaining → Spends loaded.recoveryCodes used remaining →
      ListWrite loaded new hashes (some used)
  | replaced {used : Option String} :
      new.totpRecoveryCodes = some hashes → (∀ code ∈ used, code ∈ loaded.recoveryCodes) →
      ListWrite loaded new hashes used
  | cleared {used : Option String} :
      new.totpRecoveryCodes = none → (∀ code ∈ used, code ∈ loaded.recoveryCodes) →
      ListWrite loaded new hashes used

theorem spends_of_verify {stored remaining : List String} {code used : String}
    (found : verifyAndConsumeRecoveryCode crypto stored code = some (used, remaining)) :
    Spends stored used remaining := by
  unfold verifyAndConsumeRecoveryCode at found
  split at found
  · cases found
  · exact consumeFirst_eq_some found

/-- A factor spends the code it has used. -/
inductive Spending (user : AuthUser) : Option SecondFactor → Prop
  | none : Spending user none
  | totp : Spending user (some .totp)
  | recovery {used : String} {remaining : List String} :
      Spends user.recoveryCodes used remaining → Spending user (some (.recovery used remaining))

theorem spending_of_found {user : AuthUser} {found : Option (String × List String)}
    (spends : ∀ used remaining, found = some (used, remaining) →
      Spends user.recoveryCodes used remaining) :
    Spending user (found.map fun entry => .recovery entry.1 entry.2) := by
  cases found with
  | none => exact .none
  | some entry => exact .recovery (spends entry.1 entry.2 rfl)

theorem spending_gateFactor (crypto : Crypto) (user : AuthUser) (body : GateBody) (now : Time) :
    Spending user (gateFactor crypto user body now) := by
  simp only [gateFactor]
  split
  · split
    · exact .totp
    · split
      · exact spending_of_found fun used remaining found => spends_of_verify found
      · exact .none
  · exact .none

theorem spending_loginFactor (crypto : Crypto) (user : AuthUser) (secret code : String) (now : Time) :
    Spending user (loginFactor crypto user secret code now) := by
  simp only [loginFactor]
  split
  case h_1 entry found =>
    split at found
    · exact .recovery (spends_of_verify found)
    · cases found
  · split
    · exact .totp
    · exact .none

/-- The row with the code of a factor burned. -/
theorem ListWrite.of_burn {user new : AuthUser} {factor : Option SecondFactor}
    {hashes : List String} (spending : Spending user factor)
    (same : new.totpRecoveryCodes =
      ((factor.map (SecondFactor.burn user)).getD user).totpRecoveryCodes) :
    ListWrite user new hashes (factor.bind SecondFactor.used) := by
  cases spending with
  | none => exact .kept same
  | totp => exact .kept same
  | recovery spends => exact .spent same spends

/-- The code of a factor is in the list. -/
theorem mem_of_spending {user : AuthUser} {factor : Option SecondFactor}
    (spending : Spending user factor) :
    ∀ code ∈ factor.bind SecondFactor.used, code ∈ user.recoveryCodes := by
  intro code used
  cases spending with
  | none => cases used
  | totp => cases used
  | recovery spends =>
      cases used
      exact spends.mem

theorem gate_row {user new : AuthUser} {body : GateBody} {emailOk requireBoth : Bool}
    {input : GateInput}
    (passed : sensitiveOpGate crypto user body emailOk input requireBoth = .ok new) :
    new = ((gateFactor crypto user body input.now).map (SecondFactor.burn user)).getD user := by
  simp only [sensitiveOpGate] at passed
  split at passed
  · cases passed
  · split at passed
    · cases passed
      rfl
    · cases passed

/-- The spec of a request for the list. -/
theorem listWrite_of_respond {user new : AuthUser} {input : TotpInput} {request : TotpRequest}
    (responded : respondTotp crypto user input request = .ok new) :
    ListWrite user new input.hashes (usedCode crypto user input.gate.now request) := by
  cases request with
  | login code =>
      simp only [respondTotp] at responded
      obtain ⟨secret, factor, readable, found, row⟩ := loginTotp_ok responded
      have spending := spending_loginFactor crypto user secret code input.gate.now
      rw [found] at spending
      have used : usedCode crypto user input.gate.now (.login code) =
          (some factor).bind SecondFactor.used := by
        simp only [usedCode, readable, Option.bind_some, found]
      rw [used]
      exact ListWrite.of_burn spending row
  | gate op body =>
      have spending := spending_gateFactor crypto user body input.gate.now
      cases op with
      | setup secretEnc =>
          simp only [respondTotp, me2faSetup] at responded
          obtain ⟨gated, passed, rest⟩ := ok_of_bind responded
          have row := congrArg AuthUser.totpRecoveryCodes (gate_row passed)
          cases rest
          exact ListWrite.of_burn spending row
      | regenerate =>
          simp only [respondTotp, me2faRecoveryRegenerate] at responded
          split at responded
          · obtain ⟨gated, passed, rest⟩ := ok_of_bind responded
            cases rest
            exact .replaced rfl (mem_of_spending spending)
          · cases responded
      | disable =>
          simp only [respondTotp, me2faDisable] at responded
          obtain ⟨gated, passed, rest⟩ := ok_of_bind responded
          cases rest
          exact .cleared rfl (mem_of_spending spending)
  | verify code =>
      simp only [respondTotp, me2faVerify] at responded
      split at responded
      · cases responded
      · split at responded
        · cases responded
        · split at responded
          · cases responded
            exact .replaced rfl fun _ none => by cases none
          · cases responded

/-! ## What is kept -/

/-- The invariant of the store: the valid codes are distinct, and every code is drawn once. -/
structure Sound (store : TotpStore) : Prop extends store.SingleUse where
  distinct : store.user.recoveryCodes.Nodup
  drawn : ∀ hash ∈ store.user.recoveryCodes, hash ∈ store.generated
  acceptedDrawn : ∀ hash ∈ store.accepted, hash ∈ store.generated

/-- A set that is drawn and not yet written. -/
structure Unwritten (store : TotpStore) (hashes : List String) : Prop where
  distinct : hashes.Nodup
  drawn : ∀ hash ∈ hashes, hash ∈ store.generated
  unaccepted : ∀ hash ∈ hashes, hash ∉ store.accepted
  invalid : ∀ hash ∈ hashes, hash ∉ store.user.recoveryCodes

/-- What a request in flight satisfies. -/
inductive Pending (store : TotpStore) : TotpTask → Prop
  | load (request : TotpRequest) : Pending store (.load request)
  | commit {loaded new : AuthUser} {used : Option String} {hashes : List String} :
      ListWrite loaded new hashes used → store.Unwritten hashes →
      Pending store (.commit loaded new used hashes)

/-- The hashes a request has drawn. -/
def hashesOf : TotpTask → List String
  | .load _ => []
  | .commit _ _ _ hashes => hashes

/-- Two requests have drawn different hashes. -/
def Disjoint (t t' : TotpTask) : Prop :=
  ∀ hash ∈ hashesOf t, hash ∉ hashesOf t'

theorem Disjoint.symm {t t' : TotpTask} (disjoint : Disjoint t t') : Disjoint t' t :=
  fun hash member member' => disjoint hash member' member

theorem freshHashes_iff {hashes : List String} :
    freshHashes store hashes = true ↔ hashes.Nodup ∧ ∀ hash ∈ hashes, hash ∉ store.generated := by
  simp [freshHashes]

/-! ## The load -/

theorem Unwritten.draw {hashes drawn : List String} (unwritten : store.Unwritten hashes) :
    ({ store with generated := drawn ++ store.generated }).Unwritten hashes :=
  ⟨unwritten.distinct, fun hash member => List.mem_append_right _ (unwritten.drawn hash member),
    unwritten.unaccepted, unwritten.invalid⟩

theorem Sound.draw (sound : store.Sound) (hashes : List String) :
    ({ store with generated := hashes ++ store.generated }).Sound :=
  ⟨⟨sound.once, sound.spent⟩, sound.distinct,
    fun hash member => List.mem_append_right _ (sound.drawn hash member),
    fun hash member => List.mem_append_right _ (sound.acceptedDrawn hash member)⟩

theorem Sound.unwritten (sound : store.Sound) {hashes : List String}
    (fresh : freshHashes store hashes = true) :
    ({ store with generated := hashes ++ store.generated }).Unwritten hashes := by
  obtain ⟨distinct, new⟩ := freshHashes_iff.mp fresh
  exact ⟨distinct, fun hash member => List.mem_append_left _ member,
    fun hash member accepted => new hash member (sound.acceptedDrawn hash accepted),
    fun hash member valid => new hash member (sound.drawn hash valid)⟩

/-! ## The commit -/

/-- What a commit does: the used code was valid and is not any more, and the valid codes are
former ones or drawn ones. -/
structure Committed (store store' : TotpStore) (used : Option String) (hashes : List String) :
    Prop where
  accepted : store'.accepted = used.toList ++ store.accepted
  generated : store'.generated = store.generated
  usedValid : ∀ code ∈ used, code ∈ store.user.recoveryCodes
  usedSpent : ∀ code ∈ used, code ∉ store'.user.recoveryCodes
  distinct : store'.user.recoveryCodes.Nodup
  origin : ∀ code ∈ store'.user.recoveryCodes, code ∈ store.user.recoveryCodes ∨ code ∈ hashes

/-- A flush writes a list that has changed, and leaves the stored one otherwise. -/
theorem flush_recoveryCodes (stored loaded new : AuthUser) :
    (loaded.totpRecoveryCodes ≠ new.totpRecoveryCodes ∧
        (stored.flush loaded new).totpRecoveryCodes = new.totpRecoveryCodes) ∨
      (stored.flush loaded new).totpRecoveryCodes = stored.totpRecoveryCodes := by
  unfold AuthUser.flush Python.dirty
  by_cases same : loaded.totpRecoveryCodes = new.totpRecoveryCodes
  · simp [same]
  · simp [same]

/-- On the list it was loaded from, a flush leaves the new one. -/
theorem flush_unchanged {stored loaded new : AuthUser}
    (unchanged : stored.totpRecoveryCodes = loaded.totpRecoveryCodes) :
    (stored.flush loaded new).totpRecoveryCodes = new.totpRecoveryCodes := by
  unfold AuthUser.flush
  rw [unchanged]
  exact Python.dirty_getD_loaded _ _

/-- The list after a flush: the new one when a code was used, else the new or the stored one. -/
theorem flush_of_used {stored loaded new : AuthUser} {used : Option String}
    (unchanged : ∀ code ∈ used, stored.totpRecoveryCodes = loaded.totpRecoveryCodes) :
    (stored.flush loaded new).totpRecoveryCodes = new.totpRecoveryCodes ∨
      (used = none ∧
        (stored.flush loaded new).totpRecoveryCodes = stored.totpRecoveryCodes) := by
  cases used with
  | some code => exact Or.inl (flush_unchanged (unchanged code rfl))
  | none =>
      rcases flush_recoveryCodes stored loaded new with ⟨-, written⟩ | left
      · exact Or.inl written
      · exact Or.inr ⟨rfl, left⟩

theorem recoveryCodes_congr {user user' : AuthUser}
    (same : user'.totpRecoveryCodes = user.totpRecoveryCodes) :
    user'.recoveryCodes = user.recoveryCodes := by
  unfold AuthUser.recoveryCodes
  rw [same]

theorem recoveryCodes_some {user : AuthUser} {codes : List String}
    (same : user.totpRecoveryCodes = some codes) : user.recoveryCodes = codes := by
  unfold AuthUser.recoveryCodes
  rw [same]
  rfl

theorem recoveryCodes_none {user : AuthUser} (same : user.totpRecoveryCodes = none) :
    user.recoveryCodes = [] := by
  unfold AuthUser.recoveryCodes
  rw [same]
  rfl

theorem committed_of_write (sound : store.Sound) {loaded new : AuthUser} {used : Option String}
    {hashes : List String} (write : ListWrite loaded new hashes used)
    (unwritten : store.Unwritten hashes)
    (unchanged : ∀ code ∈ used, store.user.totpRecoveryCodes = loaded.totpRecoveryCodes) :
    Committed store
      { store with
        user := store.user.flush loaded new
        accepted := used.toList ++ store.accepted } used hashes := by
  -- the code a request has used is still valid
  have valid : ∀ code ∈ used, code ∈ loaded.recoveryCodes → code ∈ store.user.recoveryCodes :=
    fun code given member => recoveryCodes_congr (unchanged code given) ▸ member
  -- a commit that leaves the stored list has used no code
  have kept : used = none →
      (store.user.flush loaded new).totpRecoveryCodes = store.user.totpRecoveryCodes →
      Committed store
        { store with
          user := store.user.flush loaded new
          accepted := used.toList ++ store.accepted } used hashes := by
    intro unused left
    have codes := recoveryCodes_congr left
    refine ⟨rfl, rfl, fun code given => ?_, fun code given => ?_, ?_, fun code member => ?_⟩
    · rw [unused] at given
      cases given
    · rw [unused] at given
      cases given
    · exact codes ▸ sound.distinct
    · exact Or.inl (codes ▸ member)
  cases write with
  | kept same =>
      rcases flush_recoveryCodes store.user loaded new with ⟨changed, -⟩ | left
      · exact absurd same.symm changed
      · exact kept rfl left
  | spent write spends =>
      have equal := unchanged _ rfl
      have loadedCodes := recoveryCodes_congr equal
      have codes := recoveryCodes_some ((flush_unchanged equal).trans write)
      rw [← loadedCodes] at spends
      obtain ⟨distinct, absent⟩ := spends.nodup sound.distinct
      refine ⟨rfl, rfl, fun code given => ?_, fun code given => ?_, ?_, fun code member => ?_⟩
      · cases given
        exact spends.mem
      · cases given
        exact codes ▸ absent
      · exact codes ▸ distinct
      · exact Or.inl (spends.subset code (codes ▸ member))
  | replaced write given =>
      rcases flush_of_used unchanged with written | ⟨unused, left⟩
      · have codes := recoveryCodes_some (written.trans write)
        refine ⟨rfl, rfl, fun code used => valid code used (given code used),
          fun code used => ?_, codes ▸ unwritten.distinct, fun code member =>
            Or.inr (codes ▸ member)⟩
        have before := valid code used (given code used)
        intro after
        exact unwritten.invalid code (codes ▸ after) before
      · exact kept unused left
  | cleared write given =>
      rcases flush_of_used unchanged with written | ⟨unused, left⟩
      · have codes := recoveryCodes_none (written.trans write)
        refine ⟨rfl, rfl, fun code used => valid code used (given code used),
          fun code _ => ?_, ?_, fun code member => ?_⟩
        · simp [codes]
        · simp [codes]
        · simp [codes] at member
      · exact kept unused left

theorem Sound.commit (sound : store.Sound) {used : Option String} {hashes : List String}
    (committed : Committed store store' used hashes) (unwritten : store.Unwritten hashes) :
    store'.Sound := by
  refine ⟨⟨?_, fun code accepted => ?_⟩, committed.distinct, fun code member => ?_,
    fun code accepted => ?_⟩
  · rw [committed.accepted, List.nodup_append]
    refine ⟨?_, sound.once, fun code used code' accepted same => ?_⟩
    · cases used with
      | none => exact List.nodup_nil
      | some code => exact List.nodup_singleton code
    · subst same
      exact sound.spent code accepted (committed.usedValid code (Option.mem_toList.mp used))
  · rw [committed.accepted] at accepted
    rcases List.mem_append.mp accepted with new | old
    · exact committed.usedSpent code (Option.mem_toList.mp new)
    · intro member
      rcases committed.origin code member with former | drawn
      · exact sound.spent code old former
      · exact unwritten.unaccepted code drawn old
  · rw [committed.generated]
    rcases committed.origin code member with former | drawn
    · exact sound.drawn code former
    · exact unwritten.drawn code drawn
  · rw [committed.generated]
    rw [committed.accepted] at accepted
    rcases List.mem_append.mp accepted with new | old
    · exact sound.drawn code (committed.usedValid code (Option.mem_toList.mp new))
    · exact sound.acceptedDrawn code old

/-- The sets the others have drawn stay unwritten. -/
theorem Unwritten.commit {used : Option String} {hashes others : List String}
    (unwritten : store.Unwritten others) (committed : Committed store store' used hashes)
    (disjoint : ∀ hash ∈ hashes, hash ∉ others) : store'.Unwritten others := by
  refine ⟨unwritten.distinct, fun code member => ?_, fun code member accepted => ?_,
    fun code member valid => ?_⟩
  · rw [committed.generated]
    exact unwritten.drawn code member
  · rw [committed.accepted] at accepted
    rcases List.mem_append.mp accepted with new | old
    · exact unwritten.invalid code member (committed.usedValid code (Option.mem_toList.mp new))
    · exact unwritten.unaccepted code member old
  · rcases committed.origin code valid with former | drawn
    · exact unwritten.invalid code member former
    · exact disjoint code drawn member

theorem Pending.mono {t : TotpTask} (pending : store.Pending t)
    (grown : ∀ hashes, hashes = hashesOf t → store.Unwritten hashes → store'.Unwritten hashes) :
    store'.Pending t := by
  cases pending with
  | load request => exact .load request
  | commit write unwritten => exact .commit write (grown _ rfl unwritten)

/-! ## Runs -/

theorem totp_starts : Program.Starts (totpRequests crypto) Sound Pending Disjoint := by
  intro store request task others _ _ started
  cases started
  refine ⟨.load request, fun t _ => ⟨fun hash member => ?_, fun hash _ member => ?_⟩⟩
  · cases member
  · cases member

theorem totp_keeps :
    Program.Keeps (totpRequests crypto) ListUnchanged Sound Pending Disjoint := by
  intro store others input task store' rest unchanged sound own holds done
  cases own with
  | load request =>
      simp only [totpRequests, nextTotp] at done
      split at done
      case isFalse => cases done
      case isTrue fresh =>
        have others' : ∀ t ∈ others,
            ({ store with generated := input.hashes ++ store.generated }).Pending t :=
          fun t member => (holds t member).1.mono fun _ _ unwritten => unwritten.draw
        split at done
        · cases done
          refine ⟨sound.draw input.hashes, others', fun t none => ?_⟩
          cases none
        case h_2 new responded =>
          cases done
          refine ⟨sound.draw input.hashes, others', fun t same => ?_⟩
          cases same
          refine ⟨.commit (listWrite_of_respond responded) (sound.unwritten fresh),
            fun t member => ?_⟩
          -- the others have drawn before
          have disjoint : Disjoint
              (.commit store.user new (usedCode crypto store.user input.gate.now request)
                input.hashes) t := by
            intro hash drawn earlier
            refine (freshHashes_iff.mp fresh).2 hash drawn ?_
            cases (holds t member).1 with
            | load request => cases earlier
            | commit write unwritten => exact unwritten.drawn hash earlier
          exact ⟨disjoint, disjoint.symm⟩
  | commit write unwritten =>
      simp only [totpRequests, nextTotp] at done
      split at done
      case isFalse =>
        cases done
        refine ⟨sound, fun t member => (holds t member).1, fun t none => ?_⟩
        cases none
      case isTrue commits =>
        cases done
        have committed := committed_of_write sound write unwritten fun code given => by
          cases given
          exact unchanged commits
        refine ⟨sound.commit committed unwritten, fun t member => ?_, fun t none => ?_⟩
        · obtain ⟨pending, disjoint, -⟩ := holds t member
          refine pending.mono fun hashes same unwritten' => ?_
          subst same
          exact unwritten'.commit committed disjoint
        · cases none

theorem sound_of_fresh_store (fresh : store.Fresh) : store.Sound := by
  have none : ∀ hash, hash ∉ store.accepted := by
    intro hash member
    rw [fresh.unused] at member
    cases member
  refine ⟨⟨?_, fun hash member => absurd member (none hash)⟩, fresh.distinct, fresh.generated,
    fun hash member => absurd member (none hash)⟩
  rw [fresh.unused]
  exact List.nodup_nil

end TotpStore

open TotpStore

/-- In every run whose requests spend a recovery code on the list they have loaded, recovery codes
are single-use. -/
theorem singleUseKept_of_listUnchanged (crypto : Crypto) : SingleUseKept crypto ListUnchanged := by
  intro store s fresh run
  exact (Program.run_satisfies totp_starts totp_keeps run
    (Pool.satisfies_start (sound_of_fresh_store fresh))).store.toSingleUse

/-! ## Two logins with one code -/

/-- The user of the runs, with the codes drawn when the factor was armed. -/
def armedStore : TotpStore :=
  { user := armedUser, generated := armedUser.recoveryCodes }

theorem armedStore_fresh : armedStore.Fresh := by
  refine ⟨?_, fun hash member => member, rfl⟩
  decide +kernel

/-- Two logins with a recovery code; the second one loads the row before the first one commits, or
after. -/
def twoLogins (first second : String) (overlap : Bool) : List (Event TotpRequest TotpInput) :=
  if overlap then
    [.begin_ 1 (.login first), .begin_ 2 (.login second), .advance 1 {}, .advance 2 {},
      .advance 1 {}, .advance 2 {}]
  else
    [.begin_ 1 (.login first), .begin_ 2 (.login second), .advance 1 {}, .advance 1 {},
      .advance 2 {}, .advance 2 {}]

/-- One after the other, two codes are spent. -/
example : ((execGuarded (totpRequests plainCrypto).step (Program.guard ListUnchanged)
      { store := armedStore } (twoLogins "aaaa-bbbb" "cccc-dddd" false)).map fun s =>
    (s.store.accepted, s.store.user.recoveryCodes)) =
    some (["#cccc-dddd", "#aaaa-bbbb"], []) := by
  decide +kernel

/-- At once, two different codes leave the first one valid. -/
example : ((exec (totpRequests plainCrypto).step { store := armedStore }
      (twoLogins "aaaa-bbbb" "cccc-dddd" true)).map fun s =>
    (s.store.accepted, s.store.user.recoveryCodes)) =
    some (["#cccc-dddd", "#aaaa-bbbb"], ["#aaaa-bbbb"]) := by
  decide +kernel

/-- At once, one code is accepted twice. -/
theorem singleUseKept_broken_by_overlap :
    ¬SingleUseKept plainCrypto (fun _ _ _ _ => True) ∧
      (exec (totpRequests plainCrypto).step { store := armedStore }
          (twoLogins "aaaa-bbbb" "aaaa-bbbb" true)).map (fun s => s.store.accepted) =
        some ["#aaaa-bbbb", "#aaaa-bbbb"] := by
  have result : (exec (totpRequests plainCrypto).step { store := armedStore }
      (twoLogins "aaaa-bbbb" "aaaa-bbbb" true)).map (fun s => s.store.accepted) =
      some ["#aaaa-bbbb", "#aaaa-bbbb"] := by decide +kernel
  refine ⟨fun kept => ?_, result⟩
  obtain ⟨s, ran, twice⟩ := Option.map_eq_some_iff.mp result
  have once := (kept armedStore s armedStore_fresh (Program.run_of_exec ran)).once
  rw [twice] at once
  exact absurd once (by decide)

end Avalant
