import Avalant.Auth.Sessions

/-!
`get_current_user`: the session check of every request of the Python side.

Here a token is the string that comes with the request. What the signing
libraries make of it is a field of `TokenLib`; the claims and their expiry are
those of `AuthDb.decodePayload`.
-/

namespace Avalant

open Relational

/-- A JSON value. A number with a fraction or an exponent is `real`. -/
inductive Json
  | null
  | bool (b : Bool)
  | int (n : Int)
  | real (q : ℚ)
  | str (s : String)
  | arr (items : List Json)
  | obj (fields : List (String × Json))

/-- What the libraries behind a token compute. -/
structure TokenLib where
  /-- HMAC-SHA256 of a text under a key. -/
  hmac : String → String → List UInt8
  /-- The value of a JSON text. -/
  json : List UInt8 → Option Json
  /-- `uuid.uuid4().hex`, for the token of this number. -/
  hex : Nat → String
  /-- `jwt.encode(payload, key, algorithm="HS256")`. -/
  encode : String → Jwt → String
  /-- `jwt.decode(token, key, algorithms=["HS256"])`, before the claims are looked at. -/
  decode : String → String → Option Jwt
  /-- How `jwt.decode` reads the signature segment. -/
  base64urlDecode : String → Option (List UInt8)

/-- The claims that `create_token` writes. -/
def Jwt.toJson (hex : Nat → String) (claims : Jwt) : Json :=
  .obj <|
    [("sub", .str (toString claims.sub)), ("exp", .int claims.exp), ("jti", .str (hex claims.jti))] ++
    (claims.scope.map fun scope => ("scope", Json.str scope)).toList ++
    (claims.next.map fun next => ("next", Json.str next)).toList

/-! ## `services/auth_cache.py` -/

structure CachedUser where
  uid : Nat
  isBlocked : Bool
  expiresAt : Time
  deriving DecidableEq, Repr

/-- The Redis keys `auth:<hash>`. -/
structure AuthCache where
  entries : String → Option CachedUser := fun _ => none

namespace AuthCache

def ttlSeconds : Time := 60

def hashToken (crypto : Crypto) (token : String) : String :=
  Python.take 32 (crypto.sha256 token)

def getCachedUser (cache : AuthCache) (crypto : Crypto) (token : String) (redisUp : Bool)
    (now : Time) : Option CachedUser :=
  if redisUp ∧ token ≠ "" then
    (cache.entries (hashToken crypto token)).filter fun entry => now < entry.expiresAt
  else none

def cacheUser (cache : AuthCache) (crypto : Crypto) (token : String) (user : AuthUser)
    (redisUp : Bool) (now : Time) : AuthCache :=
  if redisUp ∧ token ≠ "" then
    { entries := Function.update cache.entries (hashToken crypto token)
        (some ⟨user.id, user.isBlocked, now + ttlSeconds⟩) }
  else cache

end AuthCache

/-! ## `api/deps.py` -/

/-- What a session check finds outside the database. -/
structure SessionInput where
  now : Time := 0
  /-- Whether the blacklist reaches Redis. -/
  blacklistUp : Bool := true
  /-- Whether the cache reaches Redis. -/
  cacheUp : Bool := true
  deriving DecidableEq, Repr

/-- `authorization[7:]`, of a header that starts with `Bearer `. -/
def bearer (authorization : String) : Option String :=
  if "Bearer ".toList.isPrefixOf authorization.toList then
    some (String.ofList (authorization.toList.drop 7))
  else none

@[simp] theorem bearer_append (token : String) : bearer ("Bearer " ++ token) = some token := by
  have text : ("Bearer " ++ token).toList = "Bearer ".toList ++ token.toList := String.toList_append
  have starts : "Bearer ".toList.isPrefixOf ("Bearer ".toList ++ token.toList) = true :=
    List.isPrefixOf_iff_prefix.mpr (List.prefix_append _ _)
  have rest : ("Bearer ".toList ++ token.toList).drop 7 = token.toList := List.drop_left' rfl
  unfold bearer
  rw [text, if_pos starts, rest, String.ofList_toList]

namespace AuthDb

/-- `decode_payload`, of a string. -/
def decodeString (db : AuthDb) (lib : TokenLib) (secret token : String) (now : Time) : Option Jwt :=
  (lib.decode secret token).bind fun claims => db.decodePayload claims now

/-- The user of a session, and the cache it leaves. -/
def currentUser (db : AuthDb) (crypto : Crypto) (cache : AuthCache) (token : String)
    (payload : Jwt) (input : SessionInput) : Except HttpError (AuthUser × AuthCache) :=
  match cache.getCachedUser crypto token input.cacheUp input.now with
  | some entry =>
      if entry.isBlocked then .error ⟨403, "Account is blocked"⟩
      else
        match db.users.get? entry.uid with
        | none => .error ⟨401, "User not found"⟩
        | some user => .ok (user, cache)
  | none =>
      match db.users.get? payload.sub with
      | none => .error ⟨401, "User not found"⟩
      | some user =>
          if user.isBlocked then .error ⟨403, "Account is blocked"⟩
          else .ok (user, cache.cacheUser crypto token user input.cacheUp input.now)

/-- `get_current_user`. -/
def getCurrentUser (db : AuthDb) (lib : TokenLib) (secret : String) (crypto : Crypto)
    (cache : AuthCache) (authorization : Option String) (input : SessionInput) :
    Except HttpError (AuthUser × AuthCache) :=
  match authorization.bind bearer with
  | none => .error ⟨401, "Not authenticated"⟩
  | some token =>
      match db.decodeString lib secret token input.now with
      | none => .error ⟨401, "Invalid or expired token"⟩
      | some payload =>
          if (Python.nonEmpty payload.scope).isSome then
            .error ⟨401, "Token scope insufficient for this resource"⟩
          else if db.isRevoked payload.jti input.blacklistUp input.now then
            .error ⟨401, "Session revoked"⟩
          else db.currentUser crypto cache token payload input

end AuthDb

/-! ## Who is let in -/

section

variable {db : AuthDb} {crypto : Crypto} {cache : AuthCache} {token : String} {payload : Jwt}
  {input : SessionInput}

/-- The account behind a session: an entry of the cache that is not blocked, or else an unblocked
row. -/
inductive Admits (db : AuthDb) (crypto : Crypto) (cache : AuthCache) (token : String)
    (payload : Jwt) (input : SessionInput) (user : AuthUser) : Prop
  | cached (entry : CachedUser) :
      cache.getCachedUser crypto token input.cacheUp input.now = some entry →
      entry.isBlocked = false → db.users.get? entry.uid = some user →
      Admits db crypto cache token payload input user
  | stored :
      cache.getCachedUser crypto token input.cacheUp input.now = none →
      db.users.get? payload.sub = some user → user.isBlocked = false →
      Admits db crypto cache token payload input user

theorem currentUser_ok_iff {user : AuthUser} :
    (∃ cache', db.currentUser crypto cache token payload input = .ok (user, cache')) ↔
      Admits db crypto cache token payload input user := by
  constructor
  · intro accepts
    rcases accepts with ⟨cache', accepted⟩
    unfold AuthDb.currentUser at accepted
    split at accepted
    case h_1 entry hit =>
      split at accepted
      · cases accepted
      case isFalse unblocked =>
        split at accepted
        · cases accepted
        case h_2 known =>
          cases accepted
          exact .cached entry hit (Bool.eq_false_iff.mpr unblocked) known
    case h_2 miss =>
      split at accepted
      · cases accepted
      case h_2 known =>
        split at accepted
        · cases accepted
        case isFalse unblocked =>
          cases accepted
          exact .stored miss known (Bool.eq_false_iff.mpr unblocked)
  · intro either
    rcases either with ⟨entry, hit, unblocked, known⟩ | ⟨miss, known, unblocked⟩
    · refine ⟨cache, ?_⟩
      simp [AuthDb.currentUser, hit, unblocked, known]
    · refine ⟨cache.cacheUser crypto token user input.cacheUp input.now, ?_⟩
      simp [AuthDb.currentUser, miss, unblocked, known]

/-- A token that decodes to live claims without a scope is let in when it is not revoked and its
account is. -/
theorem getCurrentUser_ok_iff {lib : TokenLib} {secret : String} {user : AuthUser}
    (unscoped : Python.nonEmpty payload.scope = none)
    (decoded : db.decodeString lib secret token input.now = some payload) :
    (∃ cache', db.getCurrentUser lib secret crypto cache (some ("Bearer " ++ token)) input =
        .ok (user, cache')) ↔
      db.isRevoked payload.jti input.blacklistUp input.now = false ∧
        Admits db crypto cache token payload input user := by
  have header : (some ("Bearer " ++ token)).bind bearer = some token := bearer_append token
  rw [← currentUser_ok_iff]
  unfold AuthDb.getCurrentUser
  rw [header]
  dsimp only
  rw [decoded]
  dsimp only
  simp only [unscoped, Option.isSome_none, Bool.false_eq_true, if_false]
  cases db.isRevoked payload.jti input.blacklistUp input.now with
  | true =>
      refine ⟨fun ⟨_, accepted⟩ => ?_, fun ⟨unrevoked, _⟩ => ?_⟩
      · cases accepted
      · cases unrevoked
  | false =>
      refine ⟨fun accepted => ⟨rfl, ?_⟩, fun ⟨_, accepted⟩ => ?_⟩
      · simpa using accepted
      · simpa using accepted

/-- A session that was revoked is over. -/
theorem getCurrentUser_revoked {lib : TokenLib} {secret : String}
    (unscoped : Python.nonEmpty payload.scope = none)
    (decoded : db.decodeString lib secret token input.now = some payload)
    (revoked : db.isRevoked payload.jti input.blacklistUp input.now = true) :
    db.getCurrentUser lib secret crypto cache (some ("Bearer " ++ token)) input =
      .error ⟨401, "Session revoked"⟩ := by
  have header : (some ("Bearer " ++ token)).bind bearer = some token := bearer_append token
  unfold AuthDb.getCurrentUser
  rw [header]
  dsimp only
  rw [decoded]
  dsimp only
  rw [unscoped, revoked]
  rfl

/-- Nobody is let in with a token that does not decode. -/
theorem decodes_of_getCurrentUser {lib : TokenLib} {secret : String} {user : AuthUser}
    {cache' : AuthCache}
    (accepted : db.getCurrentUser lib secret crypto cache (some ("Bearer " ++ token)) input =
      .ok (user, cache')) : ∃ c, db.decodeString lib secret token input.now = some c := by
  have header : (some ("Bearer " ++ token)).bind bearer = some token := bearer_append token
  unfold AuthDb.getCurrentUser at accepted
  rw [header] at accepted
  dsimp only at accepted
  cases decoded : db.decodeString lib secret token input.now with
  | none =>
      rw [decoded] at accepted
      cases accepted
  | some c => exact ⟨c, rfl⟩

end

end Avalant
