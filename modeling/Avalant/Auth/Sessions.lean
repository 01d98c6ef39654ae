import Avalant.Lib.Run
import Avalant.Lib.Table
import Avalant.Auth.TwoFactor

/-!
The requests that log a user in, and the tokens they mint.

A JWT is told by its claims, and decodes when it was issued and has not expired:
nobody else can sign one. A revocation is kept until the token expires, to the
second. A request is one step. What happens to a user's row
outside these requests (a block, a new secret, a Telegram link) is a step that
may change any column.

The list of minted sessions is for the statements; no code reads it.
-/

namespace Avalant

open Relational Transition

instance : Keyed AuthUser := ⟨AuthUser.id⟩

@[simp] theorem key_authUser (u : AuthUser) : key u = u.id := rfl

/-! ## Tokens -/

/-- The claims of a token. -/
structure Jwt where
  sub : Nat
  /-- In whole seconds. -/
  exp : Int
  jti : Nat
  scope : Option String := none
  next : Option String := none
  deriving DecidableEq, Repr

/-- An unscoped token: the row of its user, as the request that mints it finds or makes it, and the
code presented. -/
structure Mint where
  user : AuthUser
  code : Option String
  now : Time
  deriving DecidableEq, Repr

/-- A valid TOTP or an unused recovery code of the user. -/
def validCode (crypto : Crypto) (user : AuthUser) (code : String) (now : Time) : Bool :=
  (user.secretEnc.bind crypto.decrypt).any fun secret =>
    (loginFactor crypto user secret code now).isSome

/-- Minted for a user who is not blocked and, if armed, has presented the second factor. -/
structure Mint.Sound (crypto : Crypto) (m : Mint) : Prop where
  unblocked : m.user.isBlocked = false
  secondFactor : m.user.armed = true → ∃ code ∈ m.code, validCode crypto m.user code m.now = true

/-- A file of the login-by-bot flow. -/
inductive LoginStatus
  | pending
  | blocked
  | ok (jwt : Jwt) (userId : Nat) (username : String)
  deriving DecidableEq, Repr

structure LoginEntry where
  tokenHash : String
  status : LoginStatus
  ts : Time
  deriving DecidableEq, Repr

structure PasswordResetToken where
  tokenHash : String
  userId : Nat
  expiresAt : Time
  usedAt : Option Time := none
  deriving DecidableEq, Repr

structure AuthDb where
  users : Table AuthUser := Table.empty
  userSeq : Nat := 0
  logins : List LoginEntry := []
  resets : List PasswordResetToken := []
  /-- The revoked tokens: the `jti`, and when the entry expires. -/
  revoked : List (Nat × Time) := []
  issued : List Jwt := []
  minted : List Mint := []

/-! ## Requests -/

/-- The fields of the login widget. -/
structure WidgetAuth where
  id : Int
  authDate : Int
  hash : String
  firstName : Option String := none
  lastName : Option String := none
  username : Option String := none
  photoUrl : Option String := none
  deriving DecidableEq, Repr

/-- Google's userinfo. -/
structure GoogleInfo where
  email : Option String
  emailVerified : Bool
  deriving DecidableEq, Repr

inductive AuthRequest
  | register (username email password : String)
  | login (login password : String)
  | loginTotp (challenge : Jwt) (code : String)
  | googleAuthorize (next : String)
  /-- The callback, with what Google answers to the exchange of its code. -/
  | googleCallback (state : Jwt) (info : Option GoogleInfo)
  | tgLogin (body : WidgetAuth)
  | tgBotLoginStart (token : String)
  /-- The bot's `/start auth-<token>`. -/
  | consumeLoginToken (token : String) (tgId tgChatId : Int) (tgUsername : Option String)
  | checkLoginToken (token : String)
  | passwordResetRequest (email token : String)
  | passwordResetConfirm (token newPassword : String)
  | cookieSession (token : Jwt)
  | logout (token : Jwt)
  /-- Another write to a user's row. -/
  | edit (user : AuthUser)
  deriving DecidableEq, Repr

/-- What a request finds outside the state. -/
structure AuthInput where
  gate : GateInput := {}
  /-- Whether the limit of the address is reached. -/
  limited : Bool := false
  /-- The user name drawn for a new user. -/
  username : String := ""
  /-- The hash of a new password. -/
  hashed : String := ""
  deriving DecidableEq, Repr

/-- `_decode_state` and `decode_payload` read a claim of `scope`. -/
def totpChallenge : String := "totp_challenge"

def googleOauthState : String := "google_oauth_state"

/-- `settings.ACCESS_TOKEN_EXPIRE_DAYS`. -/
def accessTokenExpireDays : Time := 30

inductive AuthReply
  | session (token : Jwt)
  | challenge (token : Jwt)
  | state (token : Jwt)
  | text (message : String)
  deriving DecidableEq, Repr

/-- The state a request leaves, and its answer. -/
structure Handled where
  db : AuthDb
  reply : Except HttpError AuthReply

namespace AuthDb

/-! ## Reads -/

/-- `get_user_by_email`. -/
def byEmail (db : AuthDb) (email : String) : Option AuthUser :=
  db.users.rows.find? fun u => u.email == Python.lower email

/-- `get_user_by_username`. -/
def byUsername (db : AuthDb) (username : String) : Option AuthUser :=
  db.users.rows.find? fun u => u.username == Python.lower username

/-- `User.tg_id == tg_id`. -/
def byTgId (db : AuthDb) (tgId : Int) : Option AuthUser :=
  db.users.rows.find? fun u => u.tgId == some tgId

/-- `decode_payload`. -/
def decodePayload (db : AuthDb) (token : Jwt) (now : Time) : Option Jwt :=
  if db.issued.contains token ∧ now.floor ≤ token.exp then some token else none

/-- `is_revoked`: without Redis, nothing is. -/
def isRevoked (db : AuthDb) (jti : Nat) (redisUp : Bool) (now : Time) : Bool :=
  redisUp && db.revoked.any fun entry => entry.1 == jti && decide (now < entry.2)

/-- The decoded token, if it has this scope. -/
def withScope (db : AuthDb) (token : Jwt) (scope : String) (now : Time) : Option Jwt :=
  (db.decodePayload token now).filter fun payload => payload.scope == some scope

/-- `_read_login`. -/
def readLogin (db : AuthDb) (tokenHash : String) : Option LoginEntry :=
  db.logins.find? fun entry => entry.tokenHash == tokenHash

/-! ## Writes -/

/-- `create_token`. -/
def createToken (db : AuthDb) (sub : Nat) (ttl : Time) (scope next : Option String) (now : Time) :
    AuthDb × Jwt :=
  let token : Jwt := { sub, exp := (now + ttl).floor, jti := db.issued.length, scope, next }
  ({ db with issued := token :: db.issued }, token)

/-- The unscoped token of a session. -/
def mint (db : AuthDb) (user : AuthUser) (code : Option String) (now : Time) : Handled :=
  let (db, token) := db.createToken user.id (accessTokenExpireDays * 86400) none none now
  { db := { db with minted := ⟨user, code, now⟩ :: db.minted }, reply := .ok (.session token) }

/-- Refuse, with nothing written. -/
def refuse (db : AuthDb) (code : Nat) (detail : String) : Handled :=
  ⟨db, .error ⟨code, detail⟩⟩

/-- Answer a text, with nothing minted. -/
def answer (db : AuthDb) (message : String) : Handled :=
  ⟨db, .ok (.text message)⟩

/-- `UPDATE users`, committed. -/
def updateUser (db : AuthDb) (user : AuthUser) : AuthDb :=
  { db with
    users := db.users.map (fun u => if u.id = user.id then { user with id := u.id } else u)
      (fun u => by split <;> rfl) }

/-- `INSERT INTO users`, against the unique columns. -/
def insertUser (db : AuthDb) (user : AuthUser) : Option AuthDb :=
  if db.users.rows.any fun u =>
      u.username == user.username || u.email == user.email ||
        (user.tgId.isSome && u.tgId == user.tgId)
  then none
  else some { db with users := db.users.insert user, userSeq := db.userSeq + 1 }

/-- `_write_login`. -/
def writeLogin (db : AuthDb) (entry : LoginEntry) : AuthDb :=
  { db with logins := entry :: db.logins.filter fun e => e.tokenHash != entry.tokenHash }

/-- `_delete_login`. -/
def deleteLogin (db : AuthDb) (tokenHash : String) : AuthDb :=
  { db with logins := db.logins.filter fun e => e.tokenHash != tokenHash }

/-! ## Password login -/

def tooMany : String := "Too many attempts. Please wait a few minutes and try again."

def blockedText : String := "Your account has been blocked. Please contact support."

/-- `auth_service.register_user` behind `/register`. -/
def register (db : AuthDb) (username email : String) (input : AuthInput) : Handled :=
  if input.limited then db.refuse 429 tooMany
  else if (db.byUsername username).isSome then db.refuse 409 "Username already taken"
  else if (db.byEmail email).isSome then
    db.answer
      "Account creation submitted. If this email is new, we've sent a verification link."
  else
    let user : AuthUser :=
      { id := db.userSeq
        username := Python.strip (Python.lower username)
        email := Python.strip (Python.lower email)
        hashedPassword := input.hashed }
    match db.insertUser user with
    | none => db.refuse 500 "Internal Server Error"
    | some db => db.mint user none input.gate.now

/-- The user of a login text. -/
def byLogin (db : AuthDb) (login : String) : Option AuthUser :=
  (db.byEmail login).or (db.byUsername login)

/-- `authenticate_user`. -/
def authenticate (db : AuthDb) (crypto : Crypto) (login password : String) : Option AuthUser :=
  (db.byLogin login).filter fun user => crypto.bcryptVerify password user.hashedPassword

/-- `/login`. -/
def login (db : AuthDb) (crypto : Crypto) (login password : String) (input : AuthInput) : Handled :=
  if input.limited then db.refuse 429 tooMany
  else if input.gate.retryAfter ≠ 0 then
    db.refuse 429
      ("Too many failed attempts. Try again in " ++ seconds input.gate.retryAfter ++ ".")
  else
    match db.authenticate crypto login password with
    | none =>
        if (db.byLogin login).any AuthUser.isBlocked then db.refuse 403 blockedText
        else if input.gate.cooldown ≠ 0 then
          db.refuse 429
            ("Too many failed attempts. Try again in " ++ seconds input.gate.cooldown ++ ".")
        else db.refuse 401 "Invalid credentials"
    | some user =>
        if user.isBlocked then db.refuse 403 blockedText
        else if user.armed then
          let (db, token) := db.createToken user.id 300 (some totpChallenge) none input.gate.now
          ⟨db, .ok (.challenge token)⟩
        else db.mint user none input.gate.now

/-- The user a challenge names. -/
def challenged (db : AuthDb) (challenge : Jwt) (now : Time) : Option AuthUser :=
  (db.withScope challenge totpChallenge now).bind fun payload => db.users.get? payload.sub

/-- `/login/totp`. -/
def loginTotpLeg (db : AuthDb) (crypto : Crypto) (challenge : Jwt) (code : String)
    (input : AuthInput) : Handled :=
  let code := Python.strip code
  if input.limited then db.refuse 429 tooMany
  else if code = "" then db.refuse 422 "challenge and code required"
  else
    match db.decodePayload challenge input.gate.now with
    | none => db.refuse 500 "Internal Server Error"
    | some payload =>
        if payload.scope ≠ some totpChallenge then db.refuse 401 "Bad challenge scope"
        else
          match db.users.get? payload.sub with
          | none => db.refuse 401 "No 2FA configured"
          | some user =>
              match loginTotp crypto user code input.gate with
              | .error e => ⟨db, .error e⟩
              | .ok user' => (db.updateUser user').mint user (some code) input.gate.now

/-! ## Google -/

def googleAuthorize (db : AuthDb) (next : String) (input : AuthInput) : Handled :=
  let safeNext := if next.toList.head? = some '/' then next else "/portfolio"
  let (db, token) :=
    db.createToken 0 300 (some googleOauthState) (some safeNext) input.gate.now
  ⟨db, .ok (.state token)⟩

/-- The address of a userinfo, when Google has verified it. -/
def verifiedEmail (info : GoogleInfo) : Option String :=
  (Python.nonEmpty (info.email.map fun email => Python.strip (Python.lower email))).filter fun _ =>
    info.emailVerified

/-- The redirect of a callback that fails. -/
def googleError (db : AuthDb) (error : String) : Handled :=
  db.answer ("/login?google_error=" ++ error)

/-- `login_or_register_via_google`. -/
def loginOrRegisterViaGoogle (db : AuthDb) (email : String) (input : AuthInput) : Handled :=
  match db.byEmail email with
  | none =>
      let user : AuthUser :=
        { id := db.userSeq
          username := input.username
          email := email
          hashedPassword := input.hashed
          hasPassword := false
          emailVerifiedAt := some input.gate.now }
      match db.insertUser user with
      | none => db.googleError "db_failed"
      | some db => db.mint user none input.gate.now
  | some user =>
      let user' := { user with emailVerifiedAt := user.emailVerifiedAt.or (some input.gate.now) }
      (db.updateUser user').mint user' none input.gate.now

/-- `/google/callback`. -/
def googleCallback (db : AuthDb) (state : Jwt) (info : Option GoogleInfo) (input : AuthInput) :
    Handled :=
  match db.withScope state googleOauthState input.gate.now with
  | none => db.googleError "bad_state"
  | some _ =>
      match info.bind verifiedEmail with
      | none => db.googleError "exchange_failed"
      | some email => db.loginOrRegisterViaGoogle email input

/-! ## Telegram -/

/-- `WIDGET_MAX_AGE`. -/
def widgetMaxAge : Int := 3600

/-- The data-check string: the fields that are not empty, by name. -/
def dataCheckString (body : WidgetAuth) : String :=
  let fields : List (String × Option String) :=
    [("auth_date", some (toString body.authDate)), ("first_name", body.firstName),
      ("id", some (toString body.id)), ("last_name", body.lastName),
      ("photo_url", body.photoUrl), ("username", body.username)]
  "\n".intercalate
    (fields.filterMap fun field => (Python.nonEmpty field.2).map fun value => field.1 ++ "=" ++ value)

/-- `verify_widget_payload`. -/
def verifyWidgetPayload (crypto : Crypto) (body : WidgetAuth) (now : Time) : Except String Unit :=
  if body.hash = "" then .error "missing hash"
  else if body.authDate ≤ 0 ∨ body.id ≤ 0 then .error "invalid auth_date or id"
  else if widgetMaxAge < (now.floor - body.authDate).natAbs then
    .error "auth_date is stale (> 1 hour old)"
  else if crypto.widgetHmac (dataCheckString body) ≠ body.hash then .error "hash mismatch"
  else .ok ()

/-- `find_or_create_user_from_widget`. -/
def findOrCreateUserFromWidget (db : AuthDb) (tgId : Int) (tgUsername : Option String)
    (input : AuthInput) : Option (AuthDb × AuthUser) :=
  match db.byTgId tgId with
  | some user =>
      let known := (Python.nonEmpty user.tgUsername).or (Python.nonEmpty tgUsername)
      let user' := { user with tgUsername := known.or user.tgUsername }
      some (db.updateUser user', user')
  | none =>
      let user : AuthUser :=
        { id := db.userSeq
          username := input.username
          email := "tg_" ++ toString tgId ++ "@tg.avalant.local"
          hashedPassword := input.hashed
          tgId := some tgId
          tgUsername := Python.nonEmpty tgUsername }
      (db.insertUser user).map fun db => (db, user)

/-- `/tg-login`. -/
def tgLogin (db : AuthDb) (crypto : Crypto) (body : WidgetAuth) (input : AuthInput) : Handled :=
  if input.limited then db.refuse 429 tooMany
  else
    match verifyWidgetPayload crypto body input.gate.now with
    | .error _ => db.refuse 401 "Telegram authentication failed"
    | .ok () =>
        match db.findOrCreateUserFromWidget body.id body.username input with
        | none => db.refuse 500 "Internal Server Error"
        | some (db, user) =>
            if user.isBlocked then db.refuse 401 "Telegram authentication failed"
            else db.mint user none input.gate.now

/-- `_LOGIN_TOKEN_TTL`. -/
def loginTokenTtl : Time := 300

/-- `issue_login_token`. -/
def issueLoginToken (db : AuthDb) (crypto : Crypto) (token : String) (input : AuthInput) :
    Handled :=
  if input.limited then db.refuse 429 tooMany
  else (db.writeLogin ⟨crypto.sha256 token, .pending, input.gate.now⟩).answer token

/-- The pending entry of a token that has not expired. -/
def pendingLogin (db : AuthDb) (crypto : Crypto) (token : String) (now : Time) :
    Option LoginEntry :=
  (db.readLogin (crypto.sha256 token)).filter fun entry =>
    entry.status == .pending && decide (now - entry.ts ≤ loginTokenTtl)

/-- `consume_login_token`. -/
def consumeLoginToken (db : AuthDb) (crypto : Crypto) (token : String) (tgId tgChatId : Int)
    (tgUsername : Option String) (input : AuthInput) : Handled :=
  match db.pendingLogin crypto token input.gate.now with
  | none =>
      let db := if (db.readLogin (crypto.sha256 token)).any fun entry => entry.status == .pending
        then db.deleteLogin (crypto.sha256 token) else db
      db.answer "expired"
  | some entry =>
      match db.findOrCreateUserFromWidget tgId tgUsername input with
      | none => db.refuse 500 "Internal Server Error"
      | some (db, user) =>
          if user.isBlocked then
            (db.writeLogin { entry with status := .blocked }).answer "Your account is blocked."
          else
            let user' := { user with
              tgChatId := user.tgChatId.or (some tgChatId)
              tgId := user.tgId.or (some tgId) }
            let handled := (db.updateUser user').mint user' none input.gate.now
            match handled.reply with
            | .ok (.session token) =>
                { handled with
                  db := handled.db.writeLogin
                    { entry with status := .ok token user'.id user'.username } }
            | _ => handled

/-- `check_login_token`: it hands out a token minted before. -/
def checkLoginToken (db : AuthDb) (crypto : Crypto) (token : String) (input : AuthInput) :
    Handled :=
  match db.readLogin (crypto.sha256 token) with
  | none => db.answer "expired"
  | some entry =>
      if loginTokenTtl < input.gate.now - entry.ts then
        (db.deleteLogin (crypto.sha256 token)).answer "expired"
      else
        match entry.status with
        | .pending => db.answer "pending"
        | .blocked => db.answer "blocked"
        | .ok jwt _ _ => ⟨db.deleteLogin (crypto.sha256 token), .ok (.session jwt)⟩

/-! ## Password reset, cookie recovery, logout -/

/-- `/password-reset/request`. -/
def passwordResetRequest (db : AuthDb) (crypto : Crypto) (email token : String)
    (input : AuthInput) : Handled :=
  if input.limited then db.refuse 429 tooMany
  else
    let generic := "If that email is registered, a reset link has been sent."
    match db.byEmail (Python.strip email) with
    | none => db.answer generic
    | some user =>
        let kept := db.resets.filter fun row => row.userId != user.id || row.usedAt.isSome
        let row : PasswordResetToken :=
          { tokenHash := crypto.sha256 token, userId := user.id, expiresAt := input.gate.now + 900 }
        answer { db with resets := row :: kept } generic

/-- `/password-reset/confirm`. -/
def passwordResetConfirm (db : AuthDb) (crypto : Crypto) (token newPassword : String)
    (input : AuthInput) : Handled :=
  if input.limited then db.refuse 429 tooMany
  else if token = "" ∨ newPassword.length < 8 then
    db.refuse 400 "Token and a password ≥ 8 chars are required"
  else
    match (db.resets.find? fun row => row.tokenHash == crypto.sha256 token).filter fun row =>
        row.usedAt.isNone && decide (input.gate.now ≤ row.expiresAt) with
    | none => db.refuse 400 "Token invalid or expired"
    | some row =>
        match db.users.get? row.userId with
        | none => db.refuse 400 "Token invalid or expired"
        | some user =>
            let db := db.updateUser { user with hashedPassword := input.hashed, hasPassword := true }
            answer { db with
              resets := db.resets.map fun r =>
                if r.tokenHash = row.tokenHash then { r with usedAt := some input.gate.now } else r }
              "ok"

/-- `/cookie-session`: it re-emits the token of the cookie. -/
def cookieSession (db : AuthDb) (token : Jwt) (input : AuthInput) : Handled :=
  match db.decodePayload token input.gate.now with
  | none => db.refuse 401 "Invalid or expired cookie"
  | some payload =>
      if payload.scope.isSome then db.refuse 401 "Cookie carries a scoped token"
      else if db.isRevoked payload.jti input.gate.redisUp input.gate.now then db.refuse 401 "Session revoked"
      else
        match db.users.get? payload.sub with
        | none => db.refuse 401 "User not found"
        | some user =>
            if user.isBlocked then db.refuse 403 "Account is blocked"
            else ⟨db, .ok (.session token)⟩

/-- `/logout`. -/
def logout (db : AuthDb) (token : Jwt) (input : AuthInput) : Handled :=
  match db.decodePayload token input.gate.now with
  | none => db.answer "ok"
  | some payload =>
      let ttl := (payload.exp - input.gate.now).floor
      if input.gate.redisUp ∧ 0 < ttl then
        answer { db with revoked := (payload.jti, input.gate.now + ttl) :: db.revoked } "ok"
      else db.answer "ok"

end AuthDb

/-! ## The service -/

/-- A request and its answer. -/
def AuthDb.handle (crypto : Crypto) (db : AuthDb) (input : AuthInput) : AuthRequest → Handled
  | .register username email _ => db.register username email input
  | .login login password => db.login crypto login password input
  | .loginTotp challenge code => db.loginTotpLeg crypto challenge code input
  | .googleAuthorize next => db.googleAuthorize next input
  | .googleCallback state info => db.googleCallback state info input
  | .tgLogin body => db.tgLogin crypto body input
  | .tgBotLoginStart token => db.issueLoginToken crypto token input
  | .consumeLoginToken token tgId tgChatId tgUsername =>
      db.consumeLoginToken crypto token tgId tgChatId tgUsername input
  | .checkLoginToken token => db.checkLoginToken crypto token input
  | .passwordResetRequest email token => db.passwordResetRequest crypto email token input
  | .passwordResetConfirm token newPassword =>
      db.passwordResetConfirm crypto token newPassword input
  | .cookieSession token => db.cookieSession token input
  | .logout token => db.logout token input
  | .edit user => (db.updateUser user).answer "ok"

def AuthDb.step (crypto : Crypto) (db : AuthDb) (a : AuthRequest × AuthInput) : Option AuthDb :=
  some (db.handle crypto a.2 a.1).db

end Avalant
