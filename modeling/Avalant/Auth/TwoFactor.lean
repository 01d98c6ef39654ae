import Avalant.Lib.Python
import Avalant.Db.Models

/-!
The second factor: TOTP, recovery codes, email codes, and the endpoints that
read and write them.

An endpoint takes the loaded user row to the row it leaves in the session; the
commit writes the columns in which the two differ. The libraries behind it
(bcrypt, Fernet, pyotp, the HMAC and the hashes) are the fields of `Crypto`.
-/

namespace Avalant

/-- What the libraries compute. -/
structure Crypto where
  /-- `bcrypt.verify(plain, hashed)`. -/
  bcryptVerify : String → String → Bool
  /-- Fernet; `none` where it raises. -/
  decrypt : String → Option String
  /-- `pyotp.TOTP(secret).verify(code, valid_window=1)`. -/
  totpVerify : String → String → Time → Bool
  /-- `hashlib.sha256(..).hexdigest()`. -/
  sha256 : String → String
  /-- The HMAC under the bot's key. -/
  widgetHmac : String → String

/-- The columns of `users` that the login services read or write. -/
structure AuthUser where
  id : Nat
  username : String
  email : String
  hashedPassword : String
  hasPassword : Bool := true
  isBlocked : Bool := false
  emailVerifiedAt : Option Time := none
  tgId : Option Int := none
  tgChatId : Option Int := none
  tgUsername : Option String := none
  totpSecretEnc : Option String := none
  totpVerifiedAt : Option Time := none
  totpRecoveryCodes : Option (List String) := none
  totpLastUsedAt : Option Time := none
  deriving DecidableEq, Repr

/-- The secret, unless the column is empty. -/
def AuthUser.secretEnc (user : AuthUser) : Option String :=
  Python.nonEmpty user.totpSecretEnc

/-- `user.totp_verified_at is not None and user.totp_secret_enc`. -/
def AuthUser.armed (user : AuthUser) : Bool :=
  user.totpVerifiedAt.isSome && user.secretEnc.isSome

/-- Armed with the secret of this column value. -/
def AuthUser.armedWith (user : AuthUser) (secretEnc : String) : Bool :=
  user.armed && user.totpSecretEnc == some secretEnc

/-- `user.totp_recovery_codes or []`. -/
def AuthUser.recoveryCodes (user : AuthUser) : List String :=
  user.totpRecoveryCodes.getD []

/-! ## `services/totp.py` -/

def isRecoveryFormat (code : String) : Bool :=
  let s := Python.strip code
  Python.contains s "-" && 8 ≤ s.length

/-- The first hash that passes, and the list without it. -/
def consumeFirst (passes : String → Bool) : List String → Option (String × List String)
  | [] => none
  | hash :: rest =>
      if passes hash then some (hash, rest)
      else (consumeFirst passes rest).map fun found => (found.1, hash :: found.2)

/-- `verify_and_consume_recovery_code`: the hash that matches, and the remaining ones. -/
def verifyAndConsumeRecoveryCode (crypto : Crypto) (stored : List String) (code : String) :
    Option (String × List String) :=
  if code = "" then none
  else consumeFirst (crypto.bcryptVerify (Python.lower (Python.strip code))) stored

def digits (s : String) : Bool :=
  s != "" && s.toList.all Char.isDigit

def verifyCode (crypto : Crypto) (secret code : String) (now : Time) : Bool :=
  digits (Python.strip code) && crypto.totpVerify secret (Python.strip code) now

/-! ## `services/email_confirm.py` -/

/-- The stored hashes: in Redis until they expire, and in the fallback of the process. -/
structure EmailCodes where
  redis : Nat → Option (String × Time) := fun _ => none
  mem : Nat → Option String := fun _ => none

namespace EmailCodes

def ttlSeconds : Time := 600

/-- `issue`, with the hash of the new code. -/
def issue (codes : EmailCodes) (userId : Nat) (hash : String) (redisUp : Bool) (now : Time) :
    EmailCodes :=
  if redisUp then
    { codes with redis := Function.update codes.redis userId (some (hash, now + ttlSeconds)) }
  else { codes with mem := Function.update codes.mem userId (some hash) }

/-- The hash a code is checked against. -/
def stored (codes : EmailCodes) (userId : Nat) (redisUp : Bool) (now : Time) : Option String :=
  (if redisUp then ((codes.redis userId).filter fun entry => now < entry.2).map Prod.fst
    else none).or (codes.mem userId)

/-- Whether `verify` accepts a code. -/
def verify (codes : EmailCodes) (crypto : Crypto) (userId : Nat) (code : String) (redisUp : Bool)
    (now : Time) : Bool :=
  let code := String.ofList ((Python.strip code).toList.filter fun c => c != ' ')
  code.length == 6 && digits code &&
    ((Python.nonEmpty (codes.stored userId redisUp now)).any fun hash =>
      crypto.bcryptVerify code hash)

/-- What `verify` leaves when it accepts. -/
def burn (codes : EmailCodes) (userId : Nat) (redisUp : Bool) : EmailCodes :=
  { redis := if redisUp then Function.update codes.redis userId none else codes.redis
    mem := Function.update codes.mem userId none }

end EmailCodes

/-- A computation in two parts that succeeds. -/
theorem ok_of_bind {ε α β : Type} {first : Except ε α} {next : α → Except ε β} {result : β}
    (succeeds : first >>= next = .ok result) : ∃ a, first = .ok a ∧ next a = .ok result := by
  cases first with
  | error e => cases succeeds
  | ok a => exact ⟨a, rfl, succeeds⟩

/-! ## The gate -/

/-- The body of a sensitive operation. -/
structure GateBody where
  totpCode : Option String := none
  emailCode : Option String := none
  deriving DecidableEq, Repr

/-- What a request finds outside the database. -/
structure GateInput where
  now : Time := 0
  redisUp : Bool := true
  /-- `login_throttle.check`: the seconds to wait, if any. -/
  retryAfter : Nat := 0
  /-- `login_throttle.register_failure`: the cooldown that a failure starts. -/
  cooldown : Nat := 0
  deriving DecidableEq, Repr

/-- How the authenticator half of a gate, or a login, is passed. -/
inductive SecondFactor
  | totp
  | recovery (used : String) (remaining : List String)
  deriving DecidableEq, Repr

namespace SecondFactor

/-- `user.totp_recovery_codes = remaining`, for a recovery code. -/
def burn (user : AuthUser) : SecondFactor → AuthUser
  | .totp => user
  | .recovery _ remaining => { user with totpRecoveryCodes := some remaining }

end SecondFactor

/-- The authenticator half: a TOTP code, else a recovery code in the same field. -/
def gateFactor (crypto : Crypto) (user : AuthUser) (body : GateBody) (now : Time) :
    Option SecondFactor :=
  let code := Python.strip (body.totpCode.getD "")
  if code ≠ "" ∧ user.armed = true then
    if ((user.secretEnc.bind crypto.decrypt).any fun secret => verifyCode crypto secret code now)
        = true then
      some .totp
    else if isRecoveryFormat code then
      (verifyAndConsumeRecoveryCode crypto user.recoveryCodes code).map fun found =>
        .recovery found.1 found.2
    else none
  else none

/-- The email half. -/
def gateEmail (crypto : Crypto) (codes : EmailCodes) (user : AuthUser) (body : GateBody)
    (input : GateInput) : Bool :=
  let code := Python.strip (body.emailCode.getD "")
  code != "" && codes.verify crypto user.id code input.redisUp input.now

/-- `seconds` with its plural. -/
def seconds (n : Nat) : String :=
  toString n ++ " second" ++ if n = 1 then "" else "s"

/-- Why a gate is not passed. -/
def gateError (factorOk emailOk requireBoth : Bool) (cooldown : Nat) : HttpError :=
  if cooldown ≠ 0 then
    ⟨429, "Too many attempts. Try again in " ++ seconds cooldown ++ "."⟩
  else if requireBoth then
    let missing := (if factorOk then [] else ["authenticator code"]) ++
      if emailOk then [] else ["email code"]
    ⟨401, "Both factors required — missing or invalid: " ++ " + ".intercalate missing ++ "."⟩
  else ⟨401, "Invalid or expired confirmation code. Request a fresh one."⟩

/-- `(totp_ok and email_ok) if require_both else (totp_ok or email_ok)`. -/
def gateAccepts (requireBoth factorOk emailOk : Bool) : Bool :=
  if requireBoth then factorOk && emailOk else factorOk || emailOk

/-- `_verify_sensitive_op_gate`: the email half is accepted as given, and the row is left with the
recovery code burned. -/
def sensitiveOpGate (crypto : Crypto) (user : AuthUser) (body : GateBody) (emailOk : Bool)
    (input : GateInput) (requireBoth : Bool) : Except HttpError AuthUser :=
  let factor := gateFactor crypto user body input.now
  if input.retryAfter ≠ 0 then
    .error ⟨429, "Too many attempts. Try again in " ++ seconds input.retryAfter ++ "."⟩
  else if gateAccepts requireBoth factor.isSome emailOk then
    .ok ((factor.map (SecondFactor.burn user)).getD user)
  else .error (gateError factor.isSome emailOk requireBoth input.cooldown)

/-! ## The endpoints -/

/-- `/me/2fa/setup`, with the encrypted new secret. -/
def me2faSetup (crypto : Crypto) (user : AuthUser) (body : GateBody) (emailOk : Bool)
    (input : GateInput) (secretEnc : String) : Except HttpError AuthUser := do
  let user ← sensitiveOpGate crypto user body emailOk input false
  return { user with totpSecretEnc := some secretEnc, totpVerifiedAt := none }

/-- `/me/2fa/verify`, with the hashes of the new recovery codes. -/
def me2faVerify (crypto : Crypto) (user : AuthUser) (code : String) (now : Time)
    (hashes : List String) : Except HttpError AuthUser :=
  match user.secretEnc with
  | none => .error ⟨400, "Run /me/2fa/setup first"⟩
  | some secretEnc =>
      match crypto.decrypt secretEnc with
      | none => .error ⟨500, "Internal Server Error"⟩
      | some secret =>
          if verifyCode crypto secret (Python.strip code) now then
            .ok { user with totpVerifiedAt := some now, totpRecoveryCodes := some hashes }
          else .error ⟨400, "Invalid code"⟩

/-- `/me/2fa/recovery-codes/regenerate`. -/
def me2faRecoveryRegenerate (crypto : Crypto) (user : AuthUser) (body : GateBody) (emailOk : Bool)
    (input : GateInput) (hashes : List String) : Except HttpError AuthUser :=
  if user.totpVerifiedAt.isSome then do
    let user ← sensitiveOpGate crypto user body emailOk input true
    return { user with totpRecoveryCodes := some hashes }
  else .error ⟨400, "2FA not enabled"⟩

/-- `/me/2fa/disable`. -/
def me2faDisable (crypto : Crypto) (user : AuthUser) (body : GateBody) (emailOk : Bool)
    (input : GateInput) : Except HttpError AuthUser := do
  let user ← sensitiveOpGate crypto user body emailOk input true
  return { user with
    totpSecretEnc := none
    totpVerifiedAt := none
    totpRecoveryCodes := none
    totpLastUsedAt := none }

/-- The check of a login's second leg, on a user with a readable secret. -/
def loginFactor (crypto : Crypto) (user : AuthUser) (secret code : String) (now : Time) :
    Option SecondFactor :=
  let recovery :=
    if isRecoveryFormat code then
      verifyAndConsumeRecoveryCode crypto user.recoveryCodes code
    else none
  match recovery with
  | some found => some (.recovery found.1 found.2)
  | none => if verifyCode crypto secret code now then some .totp else none

/-- `/login/totp` on the user the challenge names. -/
def loginTotp (crypto : Crypto) (user : AuthUser) (code : String) (input : GateInput) :
    Except HttpError AuthUser :=
  match user.secretEnc with
  | none => .error ⟨401, "No 2FA configured"⟩
  | some secretEnc =>
      if input.retryAfter ≠ 0 then
        .error ⟨429, "Too many failed codes. Try again in " ++ seconds input.retryAfter ++ "."⟩
      else
        match crypto.decrypt secretEnc with
        | none => .error ⟨500, "2FA secret unreadable; contact ops"⟩
        | some secret =>
            match loginFactor crypto user secret code input.now with
            | some factor => .ok { factor.burn user with totpLastUsedAt := some input.now }
            | none =>
                if input.cooldown ≠ 0 then
                  .error ⟨429,
                    "Too many failed codes. Try again in " ++ seconds input.cooldown ++ "."⟩
                else .error ⟨401, "Invalid code"⟩

theorem loginTotp_ok {crypto : Crypto} {user new : AuthUser} {code : String} {input : GateInput}
    (passed : loginTotp crypto user code input = .ok new) :
    ∃ secret factor, user.secretEnc.bind crypto.decrypt = some secret ∧
      loginFactor crypto user secret code input.now = some factor ∧
      new.totpRecoveryCodes = (factor.burn user).totpRecoveryCodes := by
  unfold loginTotp at passed
  split at passed
  · cases passed
  case h_2 secretEnc stored =>
    split at passed
    · cases passed
    · split at passed
      · cases passed
      case h_2 secret readable =>
        split at passed
        case h_1 factor found =>
          cases passed
          refine ⟨secret, factor, ?_, found, rfl⟩
          rw [stored]
          exact readable
        case h_2 =>
          split at passed
          · cases passed
          · cases passed

/-! ## The commit -/

/-- What the commit of a changed row leaves of the stored one. -/
def AuthUser.flush (stored loaded new : AuthUser) : AuthUser :=
  { stored with
    totpSecretEnc := (Python.dirty loaded.totpSecretEnc new.totpSecretEnc).getD stored.totpSecretEnc
    totpVerifiedAt :=
      (Python.dirty loaded.totpVerifiedAt new.totpVerifiedAt).getD stored.totpVerifiedAt
    totpRecoveryCodes :=
      (Python.dirty loaded.totpRecoveryCodes new.totpRecoveryCodes).getD stored.totpRecoveryCodes
    totpLastUsedAt :=
      (Python.dirty loaded.totpLastUsedAt new.totpLastUsedAt).getD stored.totpLastUsedAt }

/-! ## Libraries and a user to run it with -/

/-- Hashing and encryption by a mark, and one code for every secret. -/
def plainCrypto : Crypto where
  bcryptVerify plain hashed := hashed == "#" ++ plain
  decrypt blob := some blob
  totpVerify _ code _ := code == "000000"
  sha256 raw := "#" ++ raw
  widgetHmac text := "#" ++ text

def armedUser : AuthUser :=
  { id := 1
    username := "alice"
    email := "alice@x"
    hashedPassword := "#secret"
    totpSecretEnc := some "JBSWY3DP"
    totpVerifiedAt := some 0
    totpRecoveryCodes := some ["#aaaa-bbbb", "#cccc-dddd"] }

end Avalant
