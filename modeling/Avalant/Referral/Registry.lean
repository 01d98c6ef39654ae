import Avalant.Lib.Python
import Avalant.Lib.Tasks
import Avalant.Referral.Ledger

/-!
The registry of referral codes: registrations and code creations, statement by
statement under READ COMMITTED.

Both caps are counted by a statement of their own and inserted under by a later
one. A unique index is checked at the flush that inserts the row, against the
committed rows, and a flush waits for another transaction's uncommitted row of
the same index entry. What is flushed is seen by the others from the commit on.
-/

namespace Avalant

open Relational Transition

/-! ## Rows -/

/-- `ReferralCode.code_type`. -/
inductive CodeType
  | selfServe | admin
  deriving DecidableEq, Repr

/-- The whole row of `referral_codes`. -/
structure RegistryCode extends ReferralCode where
  code : String
  codeType : CodeType
  createdByAdminId : Option Nat := none
  deriving DecidableEq, Repr

structure ReferralCodeRegistration where
  id : Nat
  codeId : Nat
  refereeId : Nat
  deriving DecidableEq, Repr

/-- The columns of `users` that a registration reads or writes. -/
structure Account extends User where
  username : String
  email : String
  isAdmin : Bool := false
  referralCode : Option String := none
  deriving DecidableEq, Repr

instance : Keyed RegistryCode := ⟨fun c => c.id⟩
instance : Keyed ReferralCodeRegistration := ⟨ReferralCodeRegistration.id⟩
instance : Keyed Account := ⟨fun u => u.id⟩

@[simp] theorem key_registryCode (c : RegistryCode) : key c = c.id := rfl

@[simp] theorem key_registration (r : ReferralCodeRegistration) : key r = r.id := rfl

@[simp] theorem key_account (u : Account) : key u = u.id := rfl

structure RegistryDb where
  users : Table Account := Table.empty
  codes : Table RegistryCode := Table.empty
  registrations : Table ReferralCodeRegistration := Table.empty
  userSeq : Nat := 0
  codeSeq : Nat := 0
  registrationSeq : Nat := 0

/-- The entry of `uq_referral_codes_lower`. -/
def RegistryCode.lower (c : RegistryCode) : String :=
  Python.lower c.code

/-- The CHECK constraints of `referral_codes`. -/
def RegistryCode.checks (c : RegistryCode) : Bool :=
  (decide (0 ≤ c.commissionPct) && decide (0 ≤ c.discountPct)) &&
    decide (c.commissionPct + c.discountPct ≤ 45) &&
    (c.createdByAdminId.isSome || decide (c.commissionPct + c.discountPct ≤ 25)) &&
    match c.codeType with
    | .selfServe => c.createdByAdminId.isNone
    | .admin => c.createdByAdminId.isSome

/-! ## Requests -/

/-- `GLOBAL_CAP_PCT` of the code service. -/
def codePoolCapPct : ℚ := 45

/-- `SELF_SERVE_CAP_PCT`. -/
def selfServeCapPct : ℚ := 25

/-- `CODES_PER_OWNER_MAX`. -/
def codesPerOwnerMax : Nat := 50

/-- `REGISTRATIONS_CAP`. -/
def registrationsCap : Nat := 15

/-- The rejections of the code service. -/
inductive CodeServiceError
  | notString
  | format
  | invalidNumber (repr : String)
  | selfServePool (total : ℚ)
  | adminPool (total : ℚ)
  | ownerMissing (ownerId : Nat)
  | ownCap
  | ownerCap (ownerId : Nat)
  | taken
  | selfReferral
  | registrationCap
  | alreadyBound
  deriving DecidableEq, Repr

/-- The text of a rejection; `decimal` writes a number as Python does. -/
def CodeServiceError.message (decimal : ℚ → String) : CodeServiceError → String
  | .notString => "Code must be a string"
  | .format => "Code must be 4–32 chars, alphanumeric + '-' + '_' only"
  | .invalidNumber repr => "Invalid number: " ++ repr
  | .selfServePool total =>
      "Self-serve cap is " ++ decimal selfServeCapPct ++ "%; requested " ++ decimal total ++ "%"
  | .adminPool total =>
      "Admin cap is " ++ decimal codePoolCapPct ++ "%; requested " ++ decimal total ++ "%"
  | .ownerMissing ownerId => "owner_id " ++ toString ownerId ++ " does not exist"
  | .ownCap => "Already at owner cap (" ++ toString codesPerOwnerMax ++ " codes)"
  | .ownerCap ownerId =>
      "Owner #" ++ toString ownerId ++ " is at code cap (" ++ toString codesPerOwnerMax ++ ")"
  | .taken => "Code already taken (case-insensitive)"
  | .selfReferral => "Cannot register under your own code"
  | .registrationCap =>
      "Code is closed for new signups (cap " ++ toString registrationsCap ++ ")"
  | .alreadyBound => "Referee already bound to a code"

/-- `POST /register`. -/
structure UserRegister where
  username : String
  email : String
  password : String
  referralCode : Option String := none
  deriving DecidableEq, Repr

/-- The validators of the schema. -/
def UserRegister.validate (body : UserRegister) : Except String UserRegister :=
  let username := Python.strip body.username
  let referralCode := Python.nonEmpty (body.referralCode.map fun v => Python.upper (Python.strip v))
  if username.length < 3 then .error "Username must be at least 3 characters"
  else if body.password.length < 6 then .error "Password must be at least 6 characters"
  else if 16 < (referralCode.getD "").length then .error "Referral code too long"
  else .ok { body with username, referralCode }

/-- The body of both creation routes; a number that does not parse is its text. -/
structure CodeBody where
  code : Option String
  commissionPct : Except String ℚ := .ok 0
  discountPct : Except String ℚ := .ok 0

structure CodePayload where
  code : String
  commissionPct : ℚ
  discountPct : ℚ
  deriving DecidableEq, Repr

/-- `_CODE_RE`. -/
def codeFormat (code : String) : Bool :=
  4 ≤ code.length && code.length ≤ 32 &&
    code.toList.all fun c => c.isAlphanum || c == '_' || c == '-'

def toDecimal : Except String ℚ → Except CodeServiceError ℚ
  | .ok value => .ok value
  | .error repr => .error (.invalidNumber repr)

/-- `_normalize_create_payload`. -/
def normalizeCreatePayload (body : CodeBody) : Except CodeServiceError CodePayload :=
  match body.code with
  | none => .error .notString
  | some code =>
      let cleaned := Python.strip code
      if codeFormat cleaned then do
        return { code := cleaned
                 commissionPct := ← toDecimal body.commissionPct
                 discountPct := ← toDecimal body.discountPct }
      else .error .format

/-- A creation whose payload is accepted: the row to come. -/
structure CodeDraft where
  ownerId : Nat
  payload : CodePayload
  codeType : CodeType
  createdByAdminId : Option Nat := none
  deriving DecidableEq, Repr

/-- The row a draft inserts; the columns are `NUMERIC(5, 2)`. -/
def CodeDraft.row (draft : CodeDraft) (id : Nat) : RegistryCode :=
  { id
    ownerId := draft.ownerId
    commissionPct := Python.quantizeHalfUp draft.payload.commissionPct
    discountPct := Python.quantizeHalfUp draft.payload.discountPct
    code := draft.payload.code
    codeType := draft.codeType
    createdByAdminId := draft.createdByAdminId }

/-- `create_self_serve_code`, before its queries. -/
def draftSelfServe (ownerId : Nat) (body : CodeBody) : Except CodeServiceError CodeDraft := do
  let payload ← normalizeCreatePayload body
  let total := payload.commissionPct + payload.discountPct
  if selfServeCapPct < total then .error (.selfServePool total)
  else .ok { ownerId, payload, codeType := .selfServe }

/-- `create_admin_code`, before its queries; the owner defaults to the admin. -/
def draftAdmin (adminId : Nat) (ownerId : Option Nat) (body : CodeBody) :
    Except CodeServiceError CodeDraft := do
  let payload ← normalizeCreatePayload body
  let total := payload.commissionPct + payload.discountPct
  if codePoolCapPct < total then .error (.adminPool total)
  else
    .ok { ownerId := ownerId.getD adminId
          payload
          codeType := .admin
          createdByAdminId := some adminId }

namespace RegistryDb

/-! ## Statements -/

/-- `find_code_by_string`. -/
def findCodeByString (db : RegistryDb) (raw : String) : Option RegistryCode :=
  let lower := Python.lower (Python.strip raw)
  if lower = "" then none else db.codes.rows.find? fun c => c.lower == lower

def countOwnerCodes (db : RegistryDb) (ownerId : Nat) : Nat :=
  db.codes.rows.countP fun c => c.ownerId == ownerId

def countRegistrations (db : RegistryDb) (codeId : Nat) : Nat :=
  db.registrations.rows.countP fun r => r.codeId == codeId

/-- `referral_service.find_referrer_by_code`. -/
def findReferrerByCode (db : RegistryDb) (raw : String) : Option Account :=
  let norm := Python.upper (Python.strip raw)
  if norm = "" then none
  else db.users.rows.find? fun u => u.referralCode.map Python.upper == some norm

/-- `auth_service.get_user_by_username`. -/
def byUsername (db : RegistryDb) (username : String) : Option Account :=
  db.users.rows.find? fun u => u.username == Python.lower username

/-- `auth_service.get_user_by_email`. -/
def byEmail (db : RegistryDb) (email : String) : Option Account :=
  db.users.rows.find? fun u => u.email == Python.lower email

/-- The row `auth_service.register_user` inserts. -/
def newAccount (db : RegistryDb) (body : UserRegister) : Account :=
  { id := db.userSeq
    username := Python.strip (Python.lower body.username)
    email := Python.strip (Python.lower body.email) }

/-- The unique indexes of `users`. -/
def admitsAccount (db : RegistryDb) (user : Account) : Bool :=
  db.users.rows.all fun u => u.username != user.username && u.email != user.email

/-- `auth_service.register_user`, committed. -/
def registerUser (db : RegistryDb) (body : UserRegister) : RegistryDb :=
  { db with users := db.users.insert (db.newAccount body), userSeq := db.userSeq + 1 }

/-- The owner cap of a draft. -/
def ownerRoom (db : RegistryDb) (draft : CodeDraft) : Except CodeServiceError Unit :=
  if codesPerOwnerMax ≤ db.countOwnerCodes draft.ownerId then
    .error (match draft.codeType with
      | .selfServe => .ownCap
      | .admin => .ownerCap draft.ownerId)
  else .ok ()

/-- The `owner_id` of an admin's request. -/
def ownerExists (db : RegistryDb) (draft : CodeDraft) : Except CodeServiceError Unit :=
  if (db.users.get? draft.ownerId).isSome then .ok () else .error (.ownerMissing draft.ownerId)

def codeFree (db : RegistryDb) (draft : CodeDraft) : Except CodeServiceError Unit :=
  if (db.findCodeByString draft.payload.code).isSome then .error .taken else .ok ()

/-- The code a referee binds to, with the owner check; `ok none` when there is no such code. -/
def codeToBind (db : RegistryDb) (refereeId : Nat) (raw : String) :
    Except CodeServiceError (Option RegistryCode) :=
  match db.findCodeByString raw with
  | none => .ok none
  | some code => if code.ownerId = refereeId then .error .selfReferral else .ok (some code)

def registrationRoom (db : RegistryDb) (code : RegistryCode) : Except CodeServiceError Unit :=
  if registrationsCap ≤ db.countRegistrations code.id then .error .registrationCap else .ok ()

def unbound (db : RegistryDb) (refereeId : Nat) : Except CodeServiceError Unit :=
  if db.registrations.rows.any fun r => r.refereeId == refereeId then .error .alreadyBound
  else .ok ()

/-- `users.signup_code_id` and `users.referred_by_id` of a registration. -/
def setBinding (db : RegistryDb) (refereeId : Nat) (signupCodeId referredById : Option Nat) :
    RegistryDb :=
  { db with
    users := db.users.map
      (fun u =>
        if u.id = refereeId then
          { u with
            signupCodeId := signupCodeId.or u.signupCodeId
            referredById := referredById.or u.referredById }
        else u)
      (fun u => by split <;> rfl) }

/-- The commit of a registration. -/
def commitBinding (db : RegistryDb) (refereeId : Nat) (bound : Option ReferralCodeRegistration)
    (referredById : Option Nat) : RegistryDb :=
  let db' := db.setBinding refereeId (bound.map ReferralCodeRegistration.codeId) referredById
  match bound with
  | none => db'
  | some row => { db' with registrations := db'.registrations.insert row }

def commitCode (db : RegistryDb) (row : RegistryCode) : RegistryDb :=
  { db with codes := db.codes.insert row }

end RegistryDb

/-! ## The program -/

inductive RegistryRequest
  | register (body : UserRegister)
  | createSelfServe (userId : Nat) (body : CodeBody)
  | createAdmin (adminId : Nat) (ownerId : Option Nat) (body : CodeBody)

/-- What a statement finds outside the tables. -/
structure RegistryInput where
  /-- Whether a commit gets through. -/
  commits : Bool := true
  deriving DecidableEq, Repr

inductive RegistryTask
  | readUsername (body : UserRegister)
  | readEmail (body : UserRegister)
  | registerUser (body : UserRegister)
  | findCode (refereeId : Nat) (raw : String)
  | countRegistrations (refereeId : Nat) (raw : String) (code : RegistryCode)
  | readExisting (refereeId : Nat) (raw : String) (code : RegistryCode)
  | insertRegistration (refereeId : Nat) (code : RegistryCode)
  | findReferrer (refereeId : Nat) (raw : String)
  | commitBinding (refereeId : Nat) (bound : Option ReferralCodeRegistration)
      (referredById : Option Nat)
  | readOwner (draft : CodeDraft)
  | countOwnerCodes (draft : CodeDraft)
  | findTaken (draft : CodeDraft)
  | insertCode (draft : CodeDraft)
  | commitCode (row : RegistryCode)
  deriving DecidableEq, Repr

namespace RegistryTask

/-- The registration a transaction has flushed and not committed. -/
def binds : RegistryTask → Option ReferralCodeRegistration
  | .commitBinding _ bound _ => bound
  | _ => none

/-- The code a transaction has flushed and not committed. -/
def creates : RegistryTask → Option RegistryCode
  | .commitCode row => some row
  | _ => none

/-- Whether a flush has to wait for the transaction: `uq_reg_referee`. -/
def holdsReferee (refereeId : Nat) (t : RegistryTask) : Bool :=
  t.binds.any fun row => row.refereeId == refereeId

/-- Whether a flush has to wait for the transaction: `uq_referral_codes_lower`. -/
def holdsLower (lower : String) (t : RegistryTask) : Bool :=
  t.creates.any fun row => row.lower == lower

end RegistryTask

def startRegistry (db : RegistryDb) : RegistryRequest → Option RegistryTask
  | .register body => (body.validate.toOption).map .readUsername
  | .createSelfServe userId body =>
      if (db.users.get? userId).isSome then
        (draftSelfServe userId body).toOption.map .countOwnerCodes
      else none
  | .createAdmin adminId ownerId body =>
      if (db.users.get? adminId).any Account.isAdmin then
        (draftAdmin adminId ownerId body).toOption.map
          (if ownerId.isSome then .readOwner else .countOwnerCodes)
      else none

/-- The next statement. Where the request is answered nothing remains. -/
def nextRegistry (db : RegistryDb) (others : List RegistryTask) (input : RegistryInput) :
    RegistryTask → Option (RegistryDb × Option RegistryTask)
  | .readUsername body =>
      if (db.byUsername body.username).isSome then some (db, none)
      else some (db, some (.readEmail body))
  | .readEmail body =>
      if (db.byEmail body.email).isSome then some (db, none)
      else some (db, some (.registerUser body))
  | .registerUser body =>
      if input.commits && db.admitsAccount (db.newAccount body) then
        some (db.registerUser body, body.referralCode.map (.findCode db.userSeq))
      else some ({ db with userSeq := db.userSeq + 1 }, none)
  | .findCode refereeId raw =>
      match db.codeToBind refereeId raw with
      | .error _ => some (db, none)
      | .ok none => some (db, some (.findReferrer refereeId raw))
      | .ok (some code) => some (db, some (.countRegistrations refereeId raw code))
  | .countRegistrations refereeId raw code =>
      match db.registrationRoom code with
      | .error _ => some (db, none)
      | .ok () => some (db, some (.readExisting refereeId raw code))
  | .readExisting refereeId raw code =>
      match db.unbound refereeId with
      | .error _ => some (db, some (.findReferrer refereeId raw))
      | .ok () => some (db, some (.insertRegistration refereeId code))
  | .insertRegistration refereeId code =>
      if others.any (RegistryTask.holdsReferee refereeId) then none
      else
        match db.unbound refereeId with
        | .error _ => some ({ db with registrationSeq := db.registrationSeq + 1 }, none)
        | .ok () =>
            some ({ db with registrationSeq := db.registrationSeq + 1 },
              some (.commitBinding refereeId (some ⟨db.registrationSeq, code.id, refereeId⟩) none))
  | .findReferrer refereeId raw =>
      let referrer := (db.findReferrerByCode raw).filter fun u => u.id != refereeId
      some (db, some (.commitBinding refereeId none (referrer.map fun u => u.id)))
  | .commitBinding refereeId bound referredById =>
      if input.commits then some (db.commitBinding refereeId bound referredById, none)
      else some (db, none)
  | .readOwner draft =>
      match db.ownerExists draft with
      | .error _ => some (db, none)
      | .ok () => some (db, some (.countOwnerCodes draft))
  | .countOwnerCodes draft =>
      match db.ownerRoom draft with
      | .error _ => some (db, none)
      | .ok () => some (db, some (.findTaken draft))
  | .findTaken draft =>
      match db.codeFree draft with
      | .error _ => some (db, none)
      | .ok () => some (db, some (.insertCode draft))
  | .insertCode draft =>
      let row := draft.row db.codeSeq
      if others.any (RegistryTask.holdsLower row.lower) then none
      else if row.checks && db.codes.rows.all fun c => c.lower != row.lower then
        some ({ db with codeSeq := db.codeSeq + 1 }, some (.commitCode row))
      else some ({ db with codeSeq := db.codeSeq + 1 }, none)
  | .commitCode row =>
      if input.commits then some (db.commitCode row, none) else some (db, none)

def registry : Program RegistryDb RegistryTask RegistryRequest RegistryInput where
  start := startRegistry
  next := nextRegistry

/-- No code yet; any users. -/
structure RegistryDb.Fresh (db : RegistryDb) : Prop where
  noCodes : db.codes = Table.empty
  noRegistrations : db.registrations = Table.empty
  below : ∀ u ∈ db.users.rows, u.id < db.userSeq

/-- The states a registry reaches by steps that meet `ok`. -/
def RegistryReached (ok : RegistryDb → List RegistryTask → RegistryInput → RegistryTask → Prop)
    (s : Pool RegistryDb RegistryTask) : Prop :=
  ∃ db : RegistryDb, db.Fresh ∧ Run registry.step (Program.guard ok) { store := db } s

end Avalant
