import Avalant.Lib.Go
import Avalant.Auth.CurrentUser

/-!
The tokens of the WebSocket server.

`JWTValidator.Decode` checks a token by itself, against the same secret as the
Python side: its form, its signature, its expiry and its scope. It does not see
the revocation list or the users, and it reads base64 more freely.
-/

namespace Avalant

open Relational Transition

/-- `jwtPayload`. -/
structure JwtPayload where
  sub : String := ""
  exp : Int := 0
  scope : String := ""
  deriving DecidableEq, Repr

namespace JwtPayload

/-- The name of a field without its case: the long s is an s. -/
def foldName (name : String) : String :=
  String.ofList (name.toList.map fun c => if c.toNat = 0x17F then 's' else c.toLower)

/-- A value for a field of type `string`. A null leaves it as it is. -/
def stringField (old : String) : Json → Option String
  | .null => some old
  | .str s => some s
  | _ => none

/-- A value for a field of type `int64`. -/
def int64Field (old : Int) : Json → Option Int
  | .null => some old
  | .int n => Go.int64 n
  | _ => none

def assign (p : JwtPayload) (field : String × Json) : Option JwtPayload :=
  if foldName field.1 = "sub" then
    (stringField p.sub field.2).map fun sub => { p with sub := sub }
  else if foldName field.1 = "exp" then
    (int64Field p.exp field.2).map fun exp => { p with exp := exp }
  else if foldName field.1 = "scope" then
    (stringField p.scope field.2).map fun scope => { p with scope := scope }
  else some p

/-- `json.Unmarshal` of a value. -/
def unmarshal : Json → Option JwtPayload
  | .null => some {}
  | .obj fields => fields.foldlM assign {}
  | _ => none

/-- The claims the server reads. -/
def ofClaims (claims : Jwt) : JwtPayload :=
  { sub := toString claims.sub, exp := claims.exp, scope := claims.scope.getD "" }

section

variable (p : JwtPayload)

@[simp] theorem assign_sub (s : String) :
    p.assign ("sub", .str s) = some { p with sub := s } := by
  have named : foldName "sub" = "sub" := by decide +kernel
  unfold assign
  rw [if_pos named]
  rfl

@[simp] theorem assign_exp (n : Int) :
    p.assign ("exp", .int n) = (Go.int64 n).map fun exp => { p with exp := exp } := by
  have other : foldName "exp" ≠ "sub" := by decide +kernel
  have named : foldName "exp" = "exp" := by decide +kernel
  unfold assign
  rw [if_neg other, if_pos named]
  rfl

@[simp] theorem assign_scope (s : String) :
    p.assign ("scope", .str s) = some { p with scope := s } := by
  have first : foldName "scope" ≠ "sub" := by decide +kernel
  have second : foldName "scope" ≠ "exp" := by decide +kernel
  have named : foldName "scope" = "scope" := by decide +kernel
  unfold assign
  rw [if_neg first, if_neg second, if_pos named]
  rfl

/-- A claim that is not in the struct is passed over. -/
theorem assign_other {name : String} (value : Json)
    (other : foldName name ∉ ["sub", "exp", "scope"]) : p.assign (name, value) = some p := by
  simp only [List.mem_cons, List.not_mem_nil, or_false, not_or] at other
  unfold assign
  rw [if_neg other.1, if_neg other.2.1, if_neg other.2.2]

@[simp] theorem assign_jti (value : Json) : p.assign ("jti", value) = some p :=
  assign_other p value (by decide +kernel)

@[simp] theorem assign_next (value : Json) : p.assign ("next", value) = some p :=
  assign_other p value (by decide +kernel)

end

/-- What the server reads of the claims that `create_token` writes. -/
theorem unmarshal_toJson (hex : Nat → String) {claims : Jwt} (positive : 0 < claims.exp)
    (small : claims.exp < 2 ^ 63) :
    unmarshal (claims.toJson hex) = some (ofClaims claims) := by
  have exp : Go.int64 claims.exp = some claims.exp := if_pos ⟨by omega, small⟩
  unfold Jwt.toJson unmarshal ofClaims
  cases claims.scope with
  | none => cases claims.next with
    | none => simp [exp]
    | some next => simp [exp]
  | some scope => cases claims.next with
    | none => simp [exp]
    | some next => simp [exp]

end JwtPayload

/-! ## `JWTValidator` -/

structure JWTValidator where
  secret : String
  deriving DecidableEq, Repr

open Go in
/-- `Decode`: the user of a token, or what is wrong with it. -/
def JWTValidator.decode (v : JWTValidator) (lib : TokenLib) (token : String) (now : Time) :
    Except String Int :=
  if token = "" then .error "empty token"
  else
    match split token '.' with
    | [header, claims, signature] =>
        match RawURLEncoding.decodeString signature with
        | none => .error "bad sig encoding"
        | some gotSig =>
            if gotSig ≠ lib.hmac v.secret (header ++ "." ++ claims) then .error "sig mismatch"
            else
              match RawURLEncoding.decodeString claims with
              | none => .error "bad payload encoding"
              | some payloadJSON =>
                  match (lib.json payloadJSON).bind JwtPayload.unmarshal with
                  | none => .error "bad payload json"
                  | some p =>
                      if 0 < p.exp ∧ p.exp < now.floor then .error "expired"
                      else if p.scope ≠ "" then .error "scoped token not allowed"
                      else
                        match atoi p.sub with
                        | none => .error "bad sub"
                        | some uid => .ok uid
    | _ => .error "malformed token"

/-! ## Tokens of the Python side -/

/-- A header and a claims segment that `jwt.encode` writes, and `jwt.decode` verifies, for these
claims. The expiry is a date after 1970, and the subject an identity column. -/
structure Encodes (lib : TokenLib) (secret : String) (c : Jwt) (header claims : String) : Prop where
  written : ∃ signature, Go.split (lib.encode secret c) '.' = [header, claims, signature]
  text : ∃ text, Go.RawURLEncoding.decodeString claims = some text ∧
    lib.json text = some (c.toJson lib.hex)
  sub_lt : c.sub < 2 ^ 63
  exp_pos : 0 < c.exp
  exp_lt : c.exp < 2 ^ 63
  verified : ∀ token signature, Go.split token '.' = [header, claims, signature] →
    lib.decode secret token =
      if lib.base64urlDecode signature = some (lib.hmac secret (header ++ "." ++ claims))
        then some c else none

/-- Only `create_token` signs: what verifies under the secret was issued. -/
def Unforged (lib : TokenLib) (secret : String) (db : AuthDb) (token : String) : Prop :=
  ∀ header claims signature, Go.split token '.' = [header, claims, signature] →
    Go.RawURLEncoding.decodeString signature = some (lib.hmac secret (header ++ "." ++ claims)) →
    ∃ c ∈ db.issued, Encodes lib secret c header claims

/-- A token that carries issued claims, with their signature. -/
structure Presents (lib : TokenLib) (secret : String) (db : AuthDb) (token : String) (c : Jwt)
    (signature : String) : Prop where
  intro ::
  segments : ∃ header claims, Go.split token '.' = [header, claims, signature] ∧
    Encodes lib secret c header claims ∧
    Go.RawURLEncoding.decodeString signature = some (lib.hmac secret (header ++ "." ++ claims))
  issued : c ∈ db.issued

/-- Claims of a session that has not expired. -/
structure Jwt.Live (c : Jwt) (now : Time) : Prop where
  unexpired : now.floor ≤ c.exp
  unscoped : Python.nonEmpty c.scope = none

section

variable {lib : TokenLib} {secret : String} {db : AuthDb} {token signature : String} {c : Jwt}
  {now : Time}

theorem getD_eq_empty_iff {scope : Option String} :
    scope.getD "" = "" ↔ Python.nonEmpty scope = none := by
  cases scope with
  | none => simp [Python.nonEmpty]
  | some text => simp [Python.nonEmpty, Option.filter_some]

/-- The server reads a token that carries issued claims as Python wrote it. -/
theorem Encodes.unmarshal {header claims : String} (encodes : Encodes lib secret c header claims) :
    ∃ text, Go.RawURLEncoding.decodeString claims = some text ∧
      (lib.json text).bind JwtPayload.unmarshal = some (JwtPayload.ofClaims c) := by
  obtain ⟨text, decoded, value⟩ := encodes.text
  refine ⟨text, decoded, ?_⟩
  rw [value]
  exact JwtPayload.unmarshal_toJson lib.hex encodes.exp_pos encodes.exp_lt

theorem decode_of_presents (presents : Presents lib secret db token c signature)
    (live : c.Live now) : (JWTValidator.mk secret).decode lib token now = .ok c.sub := by
  obtain ⟨⟨header, claims, segments, encodes, signed⟩, -⟩ := presents
  obtain ⟨text, decoded, value⟩ := encodes.unmarshal
  have nonempty : token ≠ "" := by
    intro same
    subst same
    cases segments
  have unexpired : ¬(0 < c.exp ∧ c.exp < now.floor) := fun expired =>
    absurd live.unexpired (not_le.mpr expired.2)
  have unscoped : ¬c.scope.getD "" ≠ "" := not_not.mpr (getD_eq_empty_iff.mpr live.unscoped)
  unfold JWTValidator.decode
  rw [if_neg nonempty, segments]
  dsimp only
  rw [signed]
  dsimp only
  rw [if_neg (not_not.mpr rfl), decoded]
  dsimp only
  rw [value]
  dsimp only [JwtPayload.ofClaims]
  rw [if_neg unexpired, if_neg unscoped, Go.atoi_toString encodes.sub_lt]

theorem presents_of_decode {uid : Int} (unforged : Unforged lib secret db token)
    (accepted : (JWTValidator.mk secret).decode lib token now = .ok uid) :
    ∃ c signature, Presents lib secret db token c signature ∧ c.Live now ∧ uid = c.sub := by
  unfold JWTValidator.decode at accepted
  split at accepted
  · cases accepted
  split at accepted
  case h_2 => cases accepted
  case h_1 header claims signature segments =>
    split at accepted
    · cases accepted
    case h_2 gotSig sigBytes =>
      split at accepted
      · cases accepted
      case isFalse same =>
        have signed : Go.RawURLEncoding.decodeString signature =
            some (lib.hmac secret (header ++ "." ++ claims)) := by
          rw [sigBytes, not_not.mp same]
        obtain ⟨c, issued, encodes⟩ := unforged header claims signature segments signed
        obtain ⟨text, decoded, value⟩ := encodes.unmarshal
        rw [decoded] at accepted
        dsimp only at accepted
        rw [value] at accepted
        dsimp only [JwtPayload.ofClaims] at accepted
        split at accepted
        · cases accepted
        case isFalse unexpired =>
          split at accepted
          · cases accepted
          case isFalse unscoped =>
            rw [Go.atoi_toString encodes.sub_lt] at accepted
            cases accepted
            refine ⟨c, signature, ⟨⟨header, claims, segments, encodes, signed⟩, issued⟩, ⟨?_, ?_⟩,
              rfl⟩
            · exact not_lt.mp fun late => unexpired ⟨encodes.exp_pos, late⟩
            · exact getD_eq_empty_iff.mp (not_not.mp unscoped)

/-- Python decodes it too, when it reads the signature the same way. -/
theorem decodeString_of_presents (presents : Presents lib secret db token c signature)
    (live : c.Live now)
    (sameRead : lib.base64urlDecode signature = Go.RawURLEncoding.decodeString signature) :
    db.decodeString lib secret token now = some c := by
  obtain ⟨⟨header, claims, segments, encodes, signed⟩, issued⟩ := presents
  have verified := encodes.verified token signature segments
  rw [if_pos (sameRead.trans signed)] at verified
  have known : db.issued.contains c = true ∧ now.floor ≤ c.exp :=
    ⟨List.contains_iff_mem.mpr issued, live.unexpired⟩
  unfold AuthDb.decodeString
  rw [verified]
  exact if_pos known

theorem sameRead_of_decodes {c' : Jwt} (presents : Presents lib secret db token c signature)
    (decodes : db.decodeString lib secret token now = some c') :
    lib.base64urlDecode signature = Go.RawURLEncoding.decodeString signature := by
  obtain ⟨⟨header, claims, segments, encodes, signed⟩, -⟩ := presents
  by_contra otherRead
  have refused := encodes.verified token signature segments
  rw [if_neg fun read => otherRead (read.trans signed.symm)] at refused
  unfold AuthDb.decodeString at decodes
  rw [refused] at decodes
  cases decodes

end

/-! ## What the server accepts -/

/-- For the user id the server finds in a token, Python finds that user. -/
def AcceptsOnlyPython (lib : TokenLib) (secret : String) (crypto : Crypto) (db : AuthDb)
    (cache : AuthCache) (token : String) (input : SessionInput) : Prop :=
  ∀ uid, (JWTValidator.mk secret).decode lib token input.now = .ok uid →
    ∃ user cache', db.getCurrentUser lib secret crypto cache (some ("Bearer " ++ token)) input =
        .ok (user, cache') ∧ (user.id : Int) = uid

/-- Where the token carries the live claims of a session: its signature segment reads the same in
Python, it is not revoked, and its account is let in. -/
def NothingMissed (lib : TokenLib) (secret : String) (crypto : Crypto) (db : AuthDb)
    (cache : AuthCache) (token : String) (input : SessionInput) : Prop :=
  ∀ c signature, Presents lib secret db token c signature → c.Live input.now →
    lib.base64urlDecode signature = Go.RawURLEncoding.decodeString signature ∧
      db.isRevoked c.jti input.blacklistUp input.now = false ∧
      ∃ user, Admits db crypto cache token c input user ∧ user.id = c.sub

/-- The server accepts only what Python accepts, for a token and a state in which the checks it
leaves out would pass. -/
theorem acceptsOnlyPython_iff {lib : TokenLib} {secret : String} {crypto : Crypto} {db : AuthDb}
    {cache : AuthCache} {token : String} {input : SessionInput}
    (unforged : Unforged lib secret db token) :
    AcceptsOnlyPython lib secret crypto db cache token input ↔
      NothingMissed lib secret crypto db cache token input := by
  constructor
  · intro accepts c signature presents live
    obtain ⟨user, cache', accepted, same⟩ := accepts c.sub (decode_of_presents presents live)
    obtain ⟨c', decodes⟩ := decodes_of_getCurrentUser accepted
    have sameRead := sameRead_of_decodes presents decodes
    have decoded := decodeString_of_presents presents live sameRead
    obtain ⟨unrevoked, admits⟩ :=
      (getCurrentUser_ok_iff live.unscoped decoded).mp ⟨cache', accepted⟩
    exact ⟨sameRead, unrevoked, user, admits, Int.ofNat_inj.mp same⟩
  · intro nothing uid accepted
    obtain ⟨c, signature, presents, live, rfl⟩ := presents_of_decode unforged accepted
    obtain ⟨sameRead, unrevoked, user, admits, same⟩ := nothing c signature presents live
    have decoded := decodeString_of_presents presents live sameRead
    obtain ⟨cache', let_in⟩ :=
      (getCurrentUser_ok_iff live.unscoped decoded).mpr ⟨unrevoked, admits⟩
    exact ⟨user, cache', let_in, congrArg Int.ofNat same⟩

/-! ## A session that was logged out -/

def aliceHeader : String := "eyJhbGciOiJIUzI1NiIsInR5cCI6IkpXVCJ9"

def aliceClaims : String :=
  "eyJzdWIiOiIxIiwiZXhwIjoyNTkyMDAwLCJqdGkiOiI1ZjBjNmExZTliN2Q0YzNmOGEyZTZkMWIwYzlmN2UzNSJ9"

def aliceSignature : String := "wbRljmUvZuUnUCFIFKTZLB7Io1E_MUtKhckmP5f5AGM"

def aliceToken : String := aliceHeader ++ "." ++ aliceClaims ++ "." ++ aliceSignature

def aliceText : List UInt8 :=
  "\x7b\"sub\":\"1\",\"exp\":2592000,\"jti\":\"5f0c6a1e9b7d4c3f8a2e6d1b0c9f7e35\"\x7d".toUTF8.toList

/-- The HMAC-SHA256 of the two segments under `secret`. -/
def aliceMac : List UInt8 :=
  [193, 180, 101, 142, 101, 47, 102, 229, 39, 80, 33, 72, 20, 164, 217, 44, 30, 200, 163, 81, 63,
    49, 75, 74, 133, 201, 38, 63, 151, 249, 0, 99]

def aliceJwt : Jwt :=
  { sub := 1, exp := 2592000, jti := 0 }

def aliceJti (_ : Nat) : String := "5f0c6a1e9b7d4c3f8a2e6d1b0c9f7e35"

/-- The libraries on that token. -/
def plainTokens : TokenLib where
  hmac key text :=
    if key = "secret" ∧ text = aliceHeader ++ "." ++ aliceClaims then aliceMac else []
  json text := if text = aliceText then some (aliceJwt.toJson aliceJti) else none
  hex := aliceJti
  encode _ _ := aliceToken
  decode key token :=
    match Go.split token '.' with
    | [header, claims, signature] =>
        if key = "secret" ∧ header ++ "." ++ claims = aliceHeader ++ "." ++ aliceClaims then
          if Go.RawURLEncoding.decodeString signature = some aliceMac then some aliceJwt else none
        else none
    | _ => none
  base64urlDecode := Go.RawURLEncoding.decodeString

theorem dot_not_mem_aliceHeader : '.' ∉ aliceHeader.toList := by
  decide +kernel

theorem decode_aliceClaims : Go.RawURLEncoding.decodeString aliceClaims = some aliceText := by
  decide +kernel

theorem decode_aliceSignature : Go.RawURLEncoding.decodeString aliceSignature = some aliceMac := by
  decide +kernel

theorem split_aliceToken :
    Go.split aliceToken '.' = [aliceHeader, aliceClaims, aliceSignature] := by
  have single : ".".toList = ['.'] := by decide
  exact Go.split_three single dot_not_mem_aliceHeader
    (Go.RawURLEncoding.dot_not_mem_of_decodeString decode_aliceClaims)
    (Go.RawURLEncoding.dot_not_mem_of_decodeString decode_aliceSignature)

theorem mac_alice :
    plainTokens.hmac "secret" (aliceHeader ++ "." ++ aliceClaims) = aliceMac := by
  dsimp only [plainTokens]
  exact if_pos ⟨rfl, rfl⟩

theorem encodes_alice : Encodes plainTokens "secret" aliceJwt aliceHeader aliceClaims where
  written := ⟨aliceSignature, split_aliceToken⟩
  text := by
    refine ⟨aliceText, decode_aliceClaims, ?_⟩
    dsimp only [plainTokens]
    exact if_pos rfl
  sub_lt := by decide
  exp_pos := by decide
  exp_lt := by decide
  verified := by
    intro token signature segments
    rw [mac_alice]
    dsimp only [plainTokens]
    rw [segments]
    exact if_pos ⟨rfl, rfl⟩

/-- Her token is hers, wherever it has been issued. -/
theorem unforged_alice {db : AuthDb} (issued : aliceJwt ∈ db.issued) :
    Unforged plainTokens "secret" db aliceToken := by
  intro header claims signature segments _
  have same := split_aliceToken.symm.trans segments
  obtain ⟨rfl, rest⟩ := List.cons.inj same
  obtain ⟨rfl, -⟩ := List.cons.inj rest
  exact ⟨aliceJwt, issued, encodes_alice⟩

theorem presents_alice {db : AuthDb} (issued : aliceJwt ∈ db.issued) :
    Presents plainTokens "secret" db aliceToken aliceJwt aliceSignature :=
  ⟨⟨aliceHeader, aliceClaims, split_aliceToken, encodes_alice,
    decode_aliceSignature.trans (congrArg some mac_alice.symm)⟩, issued⟩

theorem live_aliceJwt : aliceJwt.Live 0 := ⟨by decide, rfl⟩

/-- The state after her registration. -/
def registeredDb : AuthDb :=
  (AuthDb.register { userSeq := 1 } "alice" "alice@x" {}).db

/-- And after she has logged out. -/
def loggedOutDb : AuthDb :=
  (registeredDb.logout aliceJwt {}).db

theorem issued_registeredDb : registeredDb.issued = [aliceJwt] := by
  decide +kernel

/-- Before she logs out, the server and Python take her token for her. -/
theorem acceptsOnlyPython_registered :
    AcceptsOnlyPython plainTokens "secret" plainCrypto registeredDb {} aliceToken {} := by
  have issued : aliceJwt ∈ registeredDb.issued := issued_registeredDb ▸ List.mem_singleton.mpr rfl
  have stored : (registeredDb.users.get? 1).map (fun user => (user.id, user.isBlocked)) =
      some (1, false) := by
    decide +kernel
  obtain ⟨user, known, columns⟩ := Option.map_eq_some_iff.mp stored
  obtain ⟨id, unblocked⟩ := Prod.mk.inj columns
  refine (acceptsOnlyPython_iff (unforged_alice issued)).mpr fun c signature presents _ => ?_
  have hers : c = aliceJwt := List.mem_singleton.mp (issued_registeredDb ▸ presents.issued)
  rw [hers]
  exact ⟨rfl, rfl, user, .stored rfl known unblocked, id⟩

/-- After the logout Python turns the session away, and the server takes it. -/
theorem acceptsOnlyPython_broken_by_logout :
    Run (AuthDb.step plainCrypto) (fun _ _ => True) { userSeq := 1 } loggedOutDb ∧
      Unforged plainTokens "secret" loggedOutDb aliceToken ∧
      (JWTValidator.mk "secret").decode plainTokens aliceToken 0 = .ok 1 ∧
      loggedOutDb.getCurrentUser plainTokens "secret" plainCrypto {}
        (some ("Bearer " ++ aliceToken)) {} = .error ⟨401, "Session revoked"⟩ ∧
      ¬AcceptsOnlyPython plainTokens "secret" plainCrypto loggedOutDb {} aliceToken {} := by
  have issued : aliceJwt ∈ loggedOutDb.issued := by
    have same : loggedOutDb.issued = [aliceJwt] := by decide +kernel
    exact same ▸ List.mem_singleton.mpr rfl
  have revoked : loggedOutDb.isRevoked aliceJwt.jti true 0 = true := by decide +kernel
  have presents := presents_alice issued
  have accepted : (JWTValidator.mk "secret").decode plainTokens aliceToken 0 = .ok 1 :=
    decode_of_presents presents live_aliceJwt
  have refused : loggedOutDb.getCurrentUser plainTokens "secret" plainCrypto {}
      (some ("Bearer " ++ aliceToken)) {} = .error ⟨401, "Session revoked"⟩ :=
    getCurrentUser_revoked live_aliceJwt.unscoped
      (decodeString_of_presents presents live_aliceJwt rfl) revoked
  have reached : exec (AuthDb.step plainCrypto) { userSeq := 1 }
      [(.register "alice" "alice@x" "secret", {}), (.logout aliceJwt, {})] = some loggedOutDb := rfl
  refine ⟨Run.of_exec reached, unforged_alice issued, accepted, refused, fun accepts => ?_⟩
  obtain ⟨user, cache', let_in, -⟩ := accepts 1 accepted
  cases refused.symm.trans let_in

end Avalant
