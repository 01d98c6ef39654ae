import Avalant.Auth.Sessions

/-!
No session without the second factor, as far as the other ways in keep it.

The password login asks for the second factor and refuses a blocked user. The
second leg does not look at the block again, the callback of Google looks at
neither, and the two Telegram logins do not look at the second factor.
-/

namespace Avalant

open Relational Transition

namespace AuthDb

/-- Where a way in does not look, there is nothing to see. -/
def Gated (crypto : Crypto) (db : AuthDb) : AuthRequest × AuthInput → Prop
  | (.loginTotp challenge code, input) =>
      ∀ user ∈ db.challenged challenge input.gate.now,
        (loginTotp crypto user (Python.strip code) input.gate).toOption.isSome = true →
          user.isBlocked = false
  | (.googleCallback state info, input) =>
      (db.withScope state googleOauthState input.gate.now).isSome = true →
        ∀ email ∈ info.bind verifiedEmail, ∀ user ∈ db.byEmail email,
          user.isBlocked = false ∧ user.armed = false
  | (.tgLogin body, input) =>
      (verifyWidgetPayload crypto body input.gate.now).toOption.isSome = true →
        ∀ user ∈ db.byTgId body.id, user.isBlocked = false → user.armed = false
  | (.consumeLoginToken token tgId _ _, input) =>
      (db.pendingLogin crypto token input.gate.now).isSome = true →
        ∀ user ∈ db.byTgId tgId, user.isBlocked = false → user.armed = false
  | _ => True

instance (crypto : Crypto) (db : AuthDb) :
    (a : AuthRequest × AuthInput) → Decidable (db.Gated crypto a)
  | (.loginTotp _ _, _) => inferInstanceAs (Decidable (∀ _ ∈ _, _))
  | (.googleCallback _ _, _) => inferInstanceAs (Decidable (_ → ∀ _ ∈ _, ∀ _ ∈ _, _))
  | (.tgLogin _, _) | (.consumeLoginToken _ _ _ _, _) =>
      inferInstanceAs (Decidable (_ → ∀ _ ∈ _, _))
  | (.register _ _ _, _) | (.login _ _, _) | (.googleAuthorize _, _) | (.tgBotLoginStart _, _)
  | (.checkLoginToken _, _) | (.passwordResetRequest _ _, _) | (.passwordResetConfirm _ _, _)
  | (.cookieSession _, _) | (.logout _, _) | (.edit _, _) => inferInstanceAs (Decidable True)

end AuthDb

/-- In every run, each session minted is of a user who is not blocked and, if armed, has presented
the second factor. -/
def SessionsSound (crypto : Crypto) (ok : AuthDb → AuthRequest × AuthInput → Prop) : Prop :=
  ∀ db db' : AuthDb, db.minted = [] → Run (AuthDb.step crypto) ok db db' →
    ∀ m ∈ db'.minted, m.Sound crypto

namespace AuthDb

variable {crypto : Crypto} {db db' : AuthDb} {input : AuthInput}

/-! ## What a request mints -/

/-- What a request adds to the minted sessions: nothing, or one that satisfies `P`. -/
inductive Mints (db : AuthDb) (P : Mint → Prop) (db' : AuthDb) : Prop
  | nothing : db'.minted = db.minted → Mints db P db'
  | one (m : Mint) : db'.minted = m :: db.minted → P m → Mints db P db'

theorem mints_refuse (P : Mint → Prop) (code : Nat) (detail : String) :
    Mints db P (db.refuse code detail).db :=
  .nothing rfl

theorem mints_answer (P : Mint → Prop) (message : String) (same : db'.minted = db.minted) :
    Mints db P (db'.answer message).db :=
  .nothing same

theorem mints_mint {P : Mint → Prop} {user : AuthUser} {code : Option String} {now : Time}
    (same : db'.minted = db.minted) (holds : P ⟨user, code, now⟩) :
    Mints db P (db'.mint user code now).db :=
  .one ⟨user, code, now⟩ (congrArg (List.cons _) same) holds

theorem insertUser_minted {user : AuthUser} (inserted : db.insertUser user = some db') :
    db'.minted = db.minted := by
  unfold insertUser at inserted
  split at inserted
  · cases inserted
  · cases inserted
    rfl

/-- A user who is neither blocked nor armed may have a session. -/
theorem sound_of_unarmed {user : AuthUser} {code : Option String} {now : Time}
    (unblocked : user.isBlocked = false) (unarmed : user.armed = false) :
    (Mint.mk user code now).Sound crypto := by
  refine ⟨unblocked, fun armed => ?_⟩
  rw [unarmed] at armed
  cases armed

/-! ## The ways in -/

theorem register_mints (username email : String) :
    Mints db (Mint.Sound crypto) (db.register username email input).db := by
  unfold register
  split
  · exact mints_refuse _ _ _
  · split
    · exact mints_refuse _ _ _
    · split
      · exact mints_answer _ _ rfl
      · dsimp only
        split
        · exact mints_refuse _ _ _
        case h_2 inserted =>
          exact mints_mint (insertUser_minted inserted) (sound_of_unarmed rfl rfl)

theorem login_mints (text password : String) :
    Mints db (Mint.Sound crypto) (db.login crypto text password input).db := by
  unfold login
  split
  · exact mints_refuse _ _ _
  · split
    · exact mints_refuse _ _ _
    · split
      · split
        · exact mints_refuse _ _ _
        · split
          · exact mints_refuse _ _ _
          · exact mints_refuse _ _ _
      case h_2 user known =>
        split
        · exact mints_refuse _ _ _
        case isFalse unblocked =>
          split
          · exact .nothing rfl
          case isFalse unarmed =>
            exact mints_mint rfl
              (sound_of_unarmed (Bool.eq_false_iff.mpr unblocked) (Bool.eq_false_iff.mpr unarmed))

/-- The second leg: the code is of the user the challenge names. -/
theorem loginTotpLeg_mints {challenge : Jwt} {code : String}
    (gated : db.Gated crypto (.loginTotp challenge code, input)) :
    Mints db (Mint.Sound crypto) (db.loginTotpLeg crypto challenge code input).db := by
  unfold loginTotpLeg
  dsimp only
  split
  · exact mints_refuse _ _ _
  · split
    · exact mints_refuse _ _ _
    · split
      · exact mints_refuse _ _ _
      case h_2 payload decoded =>
        split
        · exact mints_refuse _ _ _
        case isFalse scope =>
          split
          · exact mints_refuse _ _ _
          case h_2 user stored =>
            split
            · exact .nothing rfl
            case h_2 user' passed =>
              have named : db.challenged challenge input.gate.now = some user := by
                have right : (payload.scope == some totpChallenge) = true := by simpa using scope
                unfold challenged withScope
                rw [decoded, Option.filter_some, if_pos right]
                exact stored
              have accepted : (loginTotp crypto user (Python.strip code) input.gate).toOption.isSome =
                  true := by
                rw [passed]
                rfl
              obtain ⟨secret, factor, readable, found, -⟩ := loginTotp_ok passed
              refine mints_mint rfl ⟨gated user named accepted, fun _ => ⟨Python.strip code, rfl, ?_⟩⟩
              unfold validCode
              rw [readable]
              simp [found]

theorem loginOrRegisterViaGoogle_mints {email : String}
    (gated : ∀ user ∈ db.byEmail email, user.isBlocked = false ∧ user.armed = false) :
    Mints db (Mint.Sound crypto) (db.loginOrRegisterViaGoogle email input).db := by
  unfold loginOrRegisterViaGoogle
  split
  · dsimp only
    split
    · exact mints_answer _ _ rfl
    case h_2 inserted =>
      exact mints_mint (insertUser_minted inserted) (sound_of_unarmed rfl rfl)
  case h_2 user stored =>
    obtain ⟨unblocked, unarmed⟩ := gated user stored
    exact mints_mint rfl (sound_of_unarmed unblocked unarmed)

theorem googleCallback_mints {state : Jwt} {info : Option GoogleInfo}
    (gated : db.Gated crypto (.googleCallback state info, input)) :
    Mints db (Mint.Sound crypto) (db.googleCallback state info input).db := by
  unfold googleCallback
  split
  · exact mints_answer _ _ rfl
  case h_2 payload decoded =>
    split
    · exact mints_answer _ _ rfl
    case h_2 email verified =>
      have known : (db.withScope state googleOauthState input.gate.now).isSome = true := by
        rw [decoded]
        rfl
      exact loginOrRegisterViaGoogle_mints fun user stored => gated known email verified user stored

/-- A Telegram user is a stored one, with its block and its factor, or a new one. -/
theorem findOrCreate_spec {tgId : Int} {tgUsername : Option String} {user : AuthUser}
    (found : db.findOrCreateUserFromWidget tgId tgUsername input = some (db', user)) :
    db'.minted = db.minted ∧
      ((∃ old ∈ db.byTgId tgId, user.isBlocked = old.isBlocked ∧ user.armed = old.armed) ∨
        user.armed = false) := by
  unfold findOrCreateUserFromWidget at found
  split at found
  case h_1 old stored =>
    cases found
    exact ⟨rfl, Or.inl ⟨old, stored, rfl, rfl⟩⟩
  case h_2 =>
    obtain ⟨inserted, stored, equal⟩ := Option.map_eq_some_iff.mp found
    cases equal
    exact ⟨insertUser_minted stored, Or.inr rfl⟩

/-- A Telegram user who is let in is not armed, when the stored one is not. -/
theorem unarmed_of_found {tgId : Int} {tgUsername : Option String} {user : AuthUser}
    (found : db.findOrCreateUserFromWidget tgId tgUsername input = some (db', user))
    (unblocked : user.isBlocked = false)
    (gated : ∀ old ∈ db.byTgId tgId, old.isBlocked = false → old.armed = false) :
    user.armed = false := by
  rcases (findOrCreate_spec found).2 with ⟨old, stored, block, factor⟩ | new
  · rw [factor]
    exact gated old stored (block ▸ unblocked)
  · exact new

theorem tgLogin_mints {body : WidgetAuth} (gated : db.Gated crypto (.tgLogin body, input)) :
    Mints db (Mint.Sound crypto) (db.tgLogin crypto body input).db := by
  unfold tgLogin
  split
  · exact mints_refuse _ _ _
  · split
    · exact mints_refuse _ _ _
    case h_2 verified =>
      have known : (verifyWidgetPayload crypto body input.gate.now).toOption.isSome = true := by
        rw [verified]
        rfl
      split
      · exact mints_refuse _ _ _
      case h_2 found =>
        split
        · exact .nothing (findOrCreate_spec found).1
        case isFalse unblocked =>
          have free := Bool.eq_false_iff.mpr unblocked
          exact mints_mint (findOrCreate_spec found).1
            (sound_of_unarmed free (unarmed_of_found found free (gated known)))

theorem consumeLoginToken_mints {token : String} {tgId tgChatId : Int}
    {tgUsername : Option String}
    (gated : db.Gated crypto (.consumeLoginToken token tgId tgChatId tgUsername, input)) :
    Mints db (Mint.Sound crypto)
      (db.consumeLoginToken crypto token tgId tgChatId tgUsername input).db := by
  unfold consumeLoginToken
  split
  · dsimp only
    split
    · exact .nothing rfl
    · exact .nothing rfl
  case h_2 entry pending =>
    have known : (db.pendingLogin crypto token input.gate.now).isSome = true := by
      rw [pending]
      rfl
    split
    · exact mints_refuse _ _ _
    case h_2 found =>
      split
      · exact .nothing (findOrCreate_spec found).1
      case isFalse unblocked =>
        have free := Bool.eq_false_iff.mpr unblocked
        have unarmed := unarmed_of_found found free (gated known)
        exact .one _ (congrArg (List.cons _) (findOrCreate_spec found).1)
          (sound_of_unarmed free unarmed)

/-! ## The other requests mint nothing -/

theorem issueLoginToken_minted (token : String) :
    (db.issueLoginToken crypto token input).db.minted = db.minted := by
  unfold issueLoginToken
  split
  · rfl
  · rfl

theorem checkLoginToken_minted (token : String) :
    (db.checkLoginToken crypto token input).db.minted = db.minted := by
  unfold checkLoginToken
  split
  · rfl
  · split
    · rfl
    · split
      · rfl
      · rfl
      · rfl

theorem passwordResetRequest_minted (email token : String) :
    (db.passwordResetRequest crypto email token input).db.minted = db.minted := by
  unfold passwordResetRequest
  split
  · rfl
  · dsimp only
    split
    · rfl
    · rfl

theorem passwordResetConfirm_minted (token newPassword : String) :
    (db.passwordResetConfirm crypto token newPassword input).db.minted = db.minted := by
  unfold passwordResetConfirm
  split
  · rfl
  · split
    · rfl
    · split
      · rfl
      · split
        · rfl
        · rfl

theorem cookieSession_minted (token : Jwt) :
    (db.cookieSession token input).db.minted = db.minted := by
  unfold cookieSession
  split
  · rfl
  · split
    · rfl
    · split
      · rfl
      · split
        · rfl
        · split
          · rfl
          · rfl

theorem logout_minted (token : Jwt) : (db.logout token input).db.minted = db.minted := by
  unfold logout
  split
  · rfl
  · dsimp only
    split
    · rfl
    · rfl

/-! ## Runs -/

/-- The step lemma: under the condition every request mints soundly. -/
theorem handle_mints {request : AuthRequest} (gated : db.Gated crypto (request, input)) :
    Mints db (Mint.Sound crypto) (db.handle crypto input request).db := by
  cases request with
  | register username email password => exact register_mints username email
  | login text password => exact login_mints text password
  | loginTotp challenge code => exact loginTotpLeg_mints gated
  | googleAuthorize next => exact .nothing rfl
  | googleCallback state info => exact googleCallback_mints gated
  | tgLogin body => exact tgLogin_mints gated
  | tgBotLoginStart token => exact .nothing (issueLoginToken_minted token)
  | consumeLoginToken token tgId tgChatId tgUsername => exact consumeLoginToken_mints gated
  | checkLoginToken token => exact .nothing (checkLoginToken_minted token)
  | passwordResetRequest email token => exact .nothing (passwordResetRequest_minted email token)
  | passwordResetConfirm token newPassword =>
      exact .nothing (passwordResetConfirm_minted token newPassword)
  | cookieSession token => exact .nothing (cookieSession_minted token)
  | logout token => exact .nothing (logout_minted token)
  | edit user => exact .nothing rfl

theorem mints_preserved :
    Preserves (AuthDb.step crypto) (fun db a => db.Gated crypto a)
      fun db => ∀ m ∈ db.minted, m.Sound crypto := by
  intro db call db' sound gated stepped
  rcases call with ⟨request, input⟩
  cases stepped
  intro m member
  cases handle_mints gated with
  | nothing same => exact sound m (same ▸ member)
  | one m' added holds =>
      have split : m ∈ m' :: db.minted := added ▸ member
      rcases List.mem_cons.mp split with rfl | old
      · exact holds
      · exact sound m old

end AuthDb

open AuthDb

/-- In every run in which the other ways in are taken by users who would pass the password login
without a second factor, no session is minted without one. -/
theorem sessionsSound_of_gated (crypto : Crypto) :
    SessionsSound crypto fun db a => db.Gated crypto a := by
  intro db db' none run
  refine run.invariant mints_preserved fun m member => ?_
  rw [none] at member
  cases member

/-! ## A Google login of an armed user -/

def armedDb : AuthDb :=
  { users := Table.empty.insert armedUser, userSeq := 2 }

/-- The password, then the recovery code. -/
def passwordAndCode : List (AuthRequest × AuthInput) :=
  [(.login "alice" "secret", {}),
    (.loginTotp { sub := 1, exp := 300, jti := 0, scope := some totpChallenge } "aaaa-bbbb", {})]

/-- The consent screen, and the callback with the user's address. -/
def googleLogin : List (AuthRequest × AuthInput) :=
  [(.googleAuthorize "/portfolio", {}),
    (.googleCallback
      { sub := 0, exp := 300, jti := 0, scope := some googleOauthState, next := some "/portfolio" }
      (some ⟨some "Alice@x", true⟩), {})]

/-- The two legs of the password login mint one session, within the condition. -/
example : ((execGuarded (AuthDb.step plainCrypto) (fun db a => db.Gated plainCrypto a) armedDb
      passwordAndCode).map fun db =>
    (db.minted.map Mint.code, db.users.rows.map AuthUser.recoveryCodes)) =
    some ([some "aaaa-bbbb"], [["#cccc-dddd"]]) := by
  decide +kernel

/-- The Google login mints one without a code. -/
theorem sessionsSound_broken_by_google :
    ¬SessionsSound plainCrypto (fun _ _ => True) ∧
      (exec (AuthDb.step plainCrypto) armedDb googleLogin).map
        (fun db => db.minted.map fun m => (m.user.armed, m.code)) = some [(true, none)] := by
  have result : (exec (AuthDb.step plainCrypto) armedDb googleLogin).map
      (fun db => db.minted.map fun m => (m.user.armed, m.code)) = some [(true, none)] := by
    decide +kernel
  refine ⟨fun kept => ?_, result⟩
  obtain ⟨db, ran, minted⟩ := Option.map_eq_some_iff.mp result
  have shown : (true, none) ∈ db.minted.map fun m => (m.user.armed, m.code) := by
    rw [minted]
    exact List.mem_singleton.mpr rfl
  obtain ⟨m, member, columns⟩ := List.mem_map.mp shown
  obtain ⟨armed, uncoded⟩ := Prod.mk.inj columns
  obtain ⟨code, presented, -⟩ := (kept armedDb db rfl (Run.of_exec ran) m member).secondFactor armed
  rw [uncoded] at presented
  cases presented

end Avalant
