import Avalant.Lib.Run
import Avalant.Auth.TwoFactor

/-!
What a session may do to the second factor of its user.

Disabling takes both factors. A setup takes one, and it disarms at once: the
old secret is gone and the new one is not verified. So the rule of both factors
holds exactly as far as setups of an armed user keep it.
-/

namespace Avalant

open Transition

/-- The requests of a logged-in user, with what the server draws for them. -/
inductive SecurityRequest
  | emailCode (hash : String)
  | setup (body : GateBody) (secretEnc : String)
  | verify (code : String) (hashes : List String)
  | regenerate (body : GateBody) (hashes : List String)
  | disable (body : GateBody)
  deriving DecidableEq, Repr

/-- A request after which the user is no longer armed with a secret, and what it has presented. -/
structure Disarming where
  secretEnc : String
  factorOk : Bool
  emailOk : Bool
  deriving DecidableEq, Repr

/-- The user, the email codes, and the disarmings so far. -/
structure SecuritySession where
  user : AuthUser
  emails : EmailCodes := {}
  disarmings : List Disarming := []

namespace SecurityRequest

/-- The factors a request carries. -/
def body : SecurityRequest → GateBody
  | .setup body _ | .regenerate body _ | .disable body => body
  | .emailCode _ | .verify _ _ => {}

end SecurityRequest

namespace SecuritySession

variable (crypto : Crypto)

def factorOk (s : SecuritySession) (request : SecurityRequest) (input : GateInput) : Bool :=
  (gateFactor crypto s.user request.body input.now).isSome

def emailOk (s : SecuritySession) (request : SecurityRequest) (input : GateInput) : Bool :=
  gateEmail crypto s.emails s.user request.body input

/-- The email codes after a gate: an accepted one is burned, whether or not the gate is passed. -/
def emailsAfter (s : SecuritySession) (request : SecurityRequest) (input : GateInput) :
    EmailCodes :=
  if input.retryAfter = 0 ∧ s.emailOk crypto request input = true then
    s.emails.burn s.user.id input.redisUp
  else s.emails

/-- The response of a request: the row it commits, or an error. -/
def respond (s : SecuritySession) (input : GateInput) :
    SecurityRequest → Except HttpError AuthUser
  | .emailCode _ => .ok s.user
  | .setup body secretEnc =>
      me2faSetup crypto s.user body (s.emailOk crypto (.setup body secretEnc) input) input secretEnc
  | .verify code hashes => me2faVerify crypto s.user code input.now hashes
  | .regenerate body hashes =>
      me2faRecoveryRegenerate crypto s.user body
        (s.emailOk crypto (.regenerate body hashes) input) input hashes
  | .disable body =>
      me2faDisable crypto s.user body (s.emailOk crypto (.disable body) input) input

/-- The email codes a request leaves. -/
def emailsOf (s : SecuritySession) (input : GateInput) : SecurityRequest → EmailCodes
  | .emailCode hash => s.emails.issue s.user.id hash input.redisUp input.now
  | .setup body secretEnc => s.emailsAfter crypto (.setup body secretEnc) input
  | .verify _ _ => s.emails
  | .regenerate body hashes =>
      if s.user.totpVerifiedAt.isSome then s.emailsAfter crypto (.regenerate body hashes) input
      else s.emails
  | .disable body => s.emailsAfter crypto (.disable body) input

/-- The secret a user is no longer armed with. -/
def lost (before after : AuthUser) : Option String :=
  before.totpSecretEnc.filter fun secretEnc =>
    before.armedWith secretEnc && !after.armedWith secretEnc

def step (s : SecuritySession) (a : SecurityRequest × GateInput) : Option SecuritySession :=
  let (request, input) := a
  let user := (s.respond crypto input request).toOption.getD s.user
  let disarming := (lost s.user user).map fun secretEnc =>
    ⟨secretEnc, s.factorOk crypto request input, s.emailOk crypto request input⟩
  some
    { user
      emails := s.emailsOf crypto input request
      disarmings := disarming.toList ++ s.disarmings }

/-- Every disarming has presented both factors. -/
def BothPresented (s : SecuritySession) : Prop :=
  ∀ d ∈ s.disarmings, d.factorOk = true ∧ d.emailOk = true

/-- A setup of an armed user presents both factors or neither. -/
def SetupByBoth (s : SecuritySession) : SecurityRequest × GateInput → Prop
  | (.setup body secretEnc, input) => s.user.armed = true → input.retryAfter = 0 →
      s.factorOk crypto (.setup body secretEnc) input = s.emailOk crypto (.setup body secretEnc) input
  | _ => True

instance (s : SecuritySession) :
    (a : SecurityRequest × GateInput) → Decidable (s.SetupByBoth crypto a)
  | (.setup _ _, _) => inferInstanceAs (Decidable (_ → _ → _))
  | (.emailCode _, _) | (.verify _ _, _) | (.regenerate _ _, _) | (.disable _, _) =>
      inferInstanceAs (Decidable True)

end SecuritySession

/-- In every run that starts with an armed user, each disarming has presented both factors. -/
def DisarmedByBoth (crypto : Crypto)
    (ok : SecuritySession → SecurityRequest × GateInput → Prop) : Prop :=
  ∀ (user : AuthUser) (emails : EmailCodes) (s : SecuritySession), user.armed = true →
    Run (SecuritySession.step crypto) ok { user, emails } s → s.BothPresented

namespace SecuritySession

variable {crypto : Crypto} {s : SecuritySession}

/-! ## The gate -/

theorem burn_columns (user : AuthUser) (factor : SecondFactor) :
    (factor.burn user).totpSecretEnc = user.totpSecretEnc ∧
      (factor.burn user).totpVerifiedAt = user.totpVerifiedAt := by
  cases factor with
  | totp => exact ⟨rfl, rfl⟩
  | recovery used remaining => exact ⟨rfl, rfl⟩

/-- What a passed gate says, and the columns it leaves. -/
theorem sensitiveOpGate_ok {user user' : AuthUser} {body : GateBody} {emailOk requireBoth : Bool}
    {input : GateInput} (passed : sensitiveOpGate crypto user body emailOk input requireBoth =
      .ok user') :
    input.retryAfter = 0 ∧
      gateAccepts requireBoth (gateFactor crypto user body input.now).isSome emailOk = true ∧
      user'.totpSecretEnc = user.totpSecretEnc ∧ user'.totpVerifiedAt = user.totpVerifiedAt := by
  simp only [sensitiveOpGate] at passed
  split at passed
  · cases passed
  case isFalse cool =>
    split at passed
    case isFalse => cases passed
    case isTrue accepted =>
      refine ⟨not_not.mp cool, accepted, ?_⟩
      cases passed
      cases gateFactor crypto user body input.now with
      | none => exact ⟨rfl, rfl⟩
      | some factor => exact burn_columns user factor

theorem me2faVerify_ok {user user' : AuthUser} {code : String} {now : Time}
    {hashes : List String} (responded : me2faVerify crypto user code now hashes = .ok user') :
    user'.totpSecretEnc = user.totpSecretEnc ∧ user'.totpVerifiedAt.isSome = true := by
  unfold me2faVerify at responded
  split at responded
  · cases responded
  · split at responded
    · cases responded
    · split at responded
      · cases responded
        exact ⟨rfl, rfl⟩
      · cases responded

theorem me2faRecoveryRegenerate_ok {user user' : AuthUser} {body : GateBody} {emailOk : Bool}
    {input : GateInput} {hashes : List String}
    (responded : me2faRecoveryRegenerate crypto user body emailOk input hashes = .ok user') :
    user'.totpSecretEnc = user.totpSecretEnc ∧ user'.totpVerifiedAt = user.totpVerifiedAt := by
  unfold me2faRecoveryRegenerate at responded
  split at responded
  case isFalse => cases responded
  case isTrue =>
    obtain ⟨gated, passed, rest⟩ := ok_of_bind responded
    obtain ⟨-, -, secret, verified⟩ := sensitiveOpGate_ok passed
    cases rest
    exact ⟨secret, verified⟩

theorem lost_eq_none_of_columns {user user' : AuthUser}
    (secret : user'.totpSecretEnc = user.totpSecretEnc)
    (verified : user'.totpVerifiedAt.isSome = user.totpVerifiedAt.isSome) :
    lost user user' = none := by
  unfold lost
  rw [Option.filter_eq_none_iff]
  intro secretEnc _
  have same : user'.armedWith secretEnc = user.armedWith secretEnc := by
    unfold AuthUser.armedWith AuthUser.armed AuthUser.secretEnc
    rw [secret, verified]
  rw [same]
  simp

/-! ## One request -/

/-- A gate for both factors has seen both. -/
theorem both_of_gate {factorOk emailOk : Bool} (accepted : gateAccepts true factorOk emailOk = true) :
    factorOk = true ∧ emailOk = true := by
  simpa [gateAccepts] using accepted

/-- The step lemma: under the condition a request that disarms has presented both factors. -/
theorem presented_of_lost {request : SecurityRequest} {input : GateInput} {secretEnc : String}
    (admitted : s.SetupByBoth crypto (request, input))
    (gone : lost s.user ((s.respond crypto input request).toOption.getD s.user) = some secretEnc) :
    s.factorOk crypto request input = true ∧ s.emailOk crypto request input = true := by
  have armed : s.user.armed = true := by
    obtain ⟨-, lostSecret⟩ := Option.filter_eq_some_iff.mp gone
    simp only [AuthUser.armedWith, Bool.and_eq_true] at lostSecret
    exact lostSecret.1.1
  -- a request that leaves the two columns loses nothing
  have kept : ∀ user', s.respond crypto input request = .ok user' →
      user'.totpSecretEnc = s.user.totpSecretEnc →
      user'.totpVerifiedAt.isSome = s.user.totpVerifiedAt.isSome → False := by
    intro user' responded secret verified
    rw [responded] at gone
    change lost s.user user' = some secretEnc at gone
    rw [lost_eq_none_of_columns secret verified] at gone
    cases gone
  cases responded : s.respond crypto input request with
  | error e =>
      rw [responded] at gone
      change lost s.user s.user = some secretEnc at gone
      rw [lost_eq_none_of_columns rfl rfl] at gone
      cases gone
  | ok user' =>
      cases request with
      | emailCode hash =>
          cases responded
          exact (kept s.user rfl rfl rfl).elim
      | setup body newSecret =>
          obtain ⟨user, passed, -⟩ := ok_of_bind responded
          obtain ⟨cool, accepted, -⟩ := sensitiveOpGate_ok passed
          -- one of the factors is presented, so both are
          have same := admitted armed cool
          have one : s.factorOk crypto (.setup body newSecret) input = true ∨
              s.emailOk crypto (.setup body newSecret) input = true := by
            simpa [gateAccepts, factorOk, SecurityRequest.body] using accepted
          rcases one with factor | email
          · exact ⟨factor, same ▸ factor⟩
          · exact ⟨same.trans email, email⟩
      | verify code hashes =>
          obtain ⟨secret, verified⟩ := me2faVerify_ok responded
          have was := (Bool.and_eq_true_iff.mp armed).1
          exact (kept user' responded secret (verified.trans was.symm)).elim
      | regenerate body hashes =>
          obtain ⟨secret, verified⟩ := me2faRecoveryRegenerate_ok responded
          exact (kept user' responded secret (congrArg Option.isSome verified)).elim
      | disable body =>
          obtain ⟨user, passed, -⟩ := ok_of_bind responded
          obtain ⟨-, accepted, -⟩ := sensitiveOpGate_ok passed
          exact both_of_gate accepted

theorem bothPresented_preserved :
    Preserves (SecuritySession.step crypto) (fun s a => s.SetupByBoth crypto a)
      SecuritySession.BothPresented := by
  intro s call s' sound admitted stepped
  rcases call with ⟨request, input⟩
  simp only [SecuritySession.step, Option.some.injEq] at stepped
  subst stepped
  intro d member
  rcases List.mem_append.mp member with new | old
  · obtain ⟨secretEnc, gone, rfl⟩ := Option.map_eq_some_iff.mp (Option.mem_toList.mp new)
    dsimp only
    exact presented_of_lost admitted gone
  · exact sound d old

end SecuritySession

open SecuritySession

/-- In every run whose setups of an armed user present both factors or neither, nothing disarms
with less than both. -/
theorem disarmedByBoth_of_setupByBoth (crypto : Crypto) :
    DisarmedByBoth crypto fun s a => s.SetupByBoth crypto a := by
  intro user emails s _ run
  refine run.invariant bothPresented_preserved fun d member => ?_
  cases member

/-! ## A setup with the email code alone -/

/-- The email code is requested, and with it a new secret is set up. -/
def setupByEmail : List (SecurityRequest × GateInput) :=
  [(.emailCode "#123456", {}), (.setup { emailCode := some "123456" } "KRSXG5A", {})]

/-- With both factors the user is disarmed within the condition. -/
example : ((execGuarded (SecuritySession.step plainCrypto) (fun s a => s.SetupByBoth plainCrypto a)
      { user := armedUser }
      [(.emailCode "#123456", {}),
        (.disable { totpCode := some "000000", emailCode := some "123456" }, {})]).map
    fun s => s.disarmings) = some [⟨"JBSWY3DP", true, true⟩] := by
  decide +kernel

/-- The email code alone disarms. -/
theorem disarmedByBoth_broken_by_setup :
    ¬DisarmedByBoth plainCrypto (fun _ _ => True) ∧
      (exec (SecuritySession.step plainCrypto) { user := armedUser } setupByEmail).map
        (fun s => (s.disarmings, s.user.armed)) = some ([⟨"JBSWY3DP", false, true⟩], false) := by
  have result : (exec (SecuritySession.step plainCrypto) { user := armedUser } setupByEmail).map
      (fun s => (s.disarmings, s.user.armed)) = some ([⟨"JBSWY3DP", false, true⟩], false) := by
    decide +kernel
  refine ⟨fun kept => ?_, result⟩
  obtain ⟨s, ran, state⟩ := Option.map_eq_some_iff.mp result
  have both := kept armedUser {} s (by decide +kernel) (Run.of_exec ran)
  have shown : (⟨"JBSWY3DP", false, true⟩ : Disarming) ∈ s.disarmings := by
    rw [(Prod.mk.inj state).1]
    exact List.mem_singleton.mpr rfl
  exact absurd (both _ shown).1 (by decide)

end Avalant
