import Avalant.Referral.Registry

/-!
A registration that is answered with an error.

The user is committed before the code is bound. Each access of the database may fail; a failure is
an exception, and few of them are caught.
-/

namespace Avalant

open Relational

/-! ## The route -/

/-- The accesses of the database, in their order. -/
inductive RegisterStep
  | findUsername
  | findEmail
  | commitUser
  | refreshUser
  | findCode
  | countRegistrations
  | findExisting
  | flushRegistration
  | findReferrer
  | flushReferrer
  | commitBinding
  /-- The columns of the user are read again after the last commit or rollback. -/
  | reloadUser
  deriving DecidableEq

inductive RegisterReply
  | tooManyAttempts
  | usernameTaken
  /-- The email is taken, which is not told. -/
  | pending
  | rejected (error : CodeServiceError)
  | serverError
  | created
  deriving DecidableEq

/-- The statuses from 400 on. -/
def RegisterReply.isError : RegisterReply → Bool
  | .pending | .created => false
  | _ => true

namespace RegistryDb

/-- `find_code_by_string` answers without a query. -/
def blankCode (raw : String) : Bool :=
  Python.lower (Python.strip raw) = ""

/-- What the user is bound to. -/
structure Binding where
  registration : Option ReferralCodeRegistration := none
  referredById : Option Nat := none

/-- `bind_referee`. An error of the code service is one of its own; a failure is none. -/
def bindReferee (db : RegistryDb) (fails : RegisterStep → Bool) (refereeId : Nat) (raw : String) :
    Except (Option CodeServiceError) (Option RegistryCode) :=
  if !blankCode raw && fails .findCode then .error none
  else
    match db.codeToBind refereeId raw with
    | .error e => .error (some e)
    | .ok none => .ok none
    | .ok (some code) =>
        if fails .countRegistrations then .error none
        else
          match db.registrationRoom code with
          | .error e => .error (some e)
          | .ok () =>
              if fails .findExisting then .error none
              else
                match db.unbound refereeId with
                | .error e => .error (some e)
                | .ok () => if fails .flushRegistration then .error none else .ok (some code)

/-- The legacy path. A flush that fails rolls back and expires the user, whose name the handler
then cannot read. -/
def bindReferrer (db : RegistryDb) (fails : RegisterStep → Bool) (userId : Nat) (raw : String) :
    Except RegisterReply Binding :=
  if fails .findReferrer then .ok {}
  else
    match (db.findReferrerByCode raw).filter fun u => u.id != userId with
    | none => .ok {}
    | some referrer =>
        if fails .flushReferrer then .error .serverError
        else .ok { referredById := some referrer.id }

/-- What becomes of the code of a request. -/
def captureReferral (db : RegistryDb) (fails : RegisterStep → Bool) (userId : Nat) (raw : String) :
    Except RegisterReply Binding :=
  match db.bindReferee fails userId raw with
  | .ok (some code) => .ok { registration := some ⟨db.registrationSeq, code.id, userId⟩ }
  | .ok none => db.bindReferrer fails userId raw
  | .error (some .selfReferral) => .error (.rejected .selfReferral)
  | .error (some .registrationCap) => .error (.rejected .registrationCap)
  | .error (some _) => db.bindReferrer fails userId raw
  | .error none => .error .serverError

/-- `register`, after the user is committed. -/
def bindNewUser (db : RegistryDb) (body : UserRegister) (fails : RegisterStep → Bool)
    (userId : Nat) : RegistryDb × RegisterReply :=
  let captured : Except RegisterReply Binding :=
    match Python.nonEmpty body.referralCode with
    | none => .ok {}
    | some raw => db.captureReferral fails userId raw
  match captured with
  | .error reply => (db, reply)
  | .ok binding =>
      let db :=
        if fails .commitBinding then db
        else db.commitBinding userId binding.registration binding.referredById
      (db, if fails .reloadUser then .serverError else .created)

/-- `POST /register`; `limited` is the per-IP limit. -/
def register (db : RegistryDb) (body : UserRegister) (limited : Bool)
    (fails : RegisterStep → Bool) : RegistryDb × RegisterReply :=
  if limited then (db, .tooManyAttempts)
  else if fails .findUsername then (db, .serverError)
  else if (db.byUsername body.username).isSome then (db, .usernameTaken)
  else if fails .findEmail then (db, .serverError)
  else if (db.byEmail body.email).isSome then (db, .pending)
  else if fails .commitUser || !db.admitsAccount (db.newAccount body) then
    ({ db with userSeq := db.userSeq + 1 }, .serverError)
  else if fails .refreshUser then (db.registerUser body, .serverError)
  else (db.registerUser body).bindNewUser body fails db.userSeq

/-! ## What an error leaves -/

/-- The foreign keys, and the numbers that have been given out. -/
structure Linked (db : RegistryDb) : Prop where
  below : ∀ u ∈ db.users.rows, u.id < db.userSeq
  owners : ∀ c ∈ db.codes.rows, (db.users.get? c.ownerId).isSome
  referees : ∀ r ∈ db.registrations.rows, (db.users.get? r.refereeId).isSome

/-- An error leaves the users and registrations as they were, and a request with another code is
answered as without the first. -/
def LeavesNothing (db : RegistryDb) (body : UserRegister) (limited : Bool)
    (fails : RegisterStep → Bool) : Prop :=
  (db.register body limited fails).2.isError = true →
    let db' := (db.register body limited fails).1
    db'.users = db.users ∧ db'.registrations = db.registrations ∧
      ∀ code fails', (db'.register { body with referralCode := code } false fails').2 =
        (db.register { body with referralCode := code } false fails').2

/-- The request gets as far as a committed user. -/
structure CommitsUser (db : RegistryDb) (body : UserRegister) (limited : Bool)
    (fails : RegisterStep → Bool) : Prop where
  admitted : limited = false
  username : fails .findUsername = false ∧ (db.byUsername body.username).isSome = false
  email : fails .findEmail = false ∧ (db.byEmail body.email).isSome = false
  committed : fails .commitUser = false ∧ db.admitsAccount (db.newAccount body) = true

/-- The code is not full, and no access fails but those whose failure is caught. -/
def CodeSpared (db : RegistryDb) (fails : RegisterStep → Bool) (raw : String) : Prop :=
  (blankCode raw = true ∨ fails .findCode = false) ∧
    match db.findCodeByString raw with
    | none => fails .findReferrer = true ∨ db.findReferrerByCode raw = none ∨
        fails .flushReferrer = false
    | some code => fails .countRegistrations = false ∧
        db.countRegistrations code.id < registrationsCap ∧
        fails .findExisting = false ∧ fails .flushRegistration = false

/-- Nothing raises after the commit of the user. -/
structure SparesUser (db : RegistryDb) (body : UserRegister) (fails : RegisterStep → Bool) :
    Prop where
  refreshed : fails .refreshUser = false
  code : ∀ raw, Python.nonEmpty body.referralCode = some raw → db.CodeSpared fails raw
  reloaded : fails .reloadUser = false

variable {db : RegistryDb} {body : UserRegister} {limited : Bool} {fails : RegisterStep → Bool}
  {raw : String}

/-! ## A new user -/

theorem Linked.fresh (linked : db.Linked) : db.users.get? db.userSeq = none := by
  cases found : db.users.get? db.userSeq with
  | none => rfl
  | some u =>
      have below := linked.below u (Table.mem_of_get? found)
      have keyed : u.id = db.userSeq := Table.key_of_get? found
      omega

/-- The number of a new user is in no other row. -/
theorem ne_userSeq_of_known {id : Nat} (linked : db.Linked) (known : (db.users.get? id).isSome) :
    id ≠ db.userSeq := by
  intro same
  rw [same, linked.fresh] at known
  cases known

theorem codeToBind_new (linked : db.Linked) (body : UserRegister) (raw : String) :
    (db.registerUser body).codeToBind db.userSeq raw = .ok (db.findCodeByString raw) := by
  have same : (db.registerUser body).findCodeByString raw = db.findCodeByString raw := rfl
  unfold codeToBind
  rw [same]
  cases found : db.findCodeByString raw with
  | none => rfl
  | some code =>
      have member : code ∈ db.codes.rows := by
        unfold findCodeByString at found
        dsimp only at found
        split at found
        · cases found
        · exact List.mem_of_find?_eq_some found
      exact if_neg (ne_userSeq_of_known linked (linked.owners code member))

theorem unbound_new (linked : db.Linked) (body : UserRegister) :
    (db.registerUser body).unbound db.userSeq = .ok () := by
  refine if_neg fun bound => ?_
  obtain ⟨r, member, same⟩ := List.any_eq_true.mp bound
  exact ne_userSeq_of_known linked (linked.referees r member) (beq_iff_eq.mp same)

/-- A new user has no code of the old kind. -/
theorem findReferrer_new (linked : db.Linked) (body : UserRegister) (raw : String) :
    ((db.registerUser body).findReferrerByCode raw).filter (fun u => u.id != db.userSeq) =
      db.findReferrerByCode raw := by
  have rows : (db.registerUser body).users.rows = db.users.rows ++ [db.newAccount body] := by
    have absent : key (db.newAccount body) ∉ db.users.rows.map key :=
      Table.get?_eq_none_iff.mp linked.fresh
    change (db.users.insert (db.newAccount body)).rows = _
    unfold Table.insert
    rw [dif_neg absent]
  unfold findReferrerByCode
  dsimp only
  split
  · rfl
  · rw [rows, List.find?_append]
    cases found : db.users.rows.find? fun u =>
        u.referralCode.map Python.upper == some (Python.upper (Python.strip raw)) with
    | none => rfl
    | some u =>
        have below := linked.below u (List.mem_of_find?_eq_some found)
        have other : (u.id != db.userSeq) = true := by
          rw [bne_iff_ne]
          omega
        exact Option.filter_some_pos other

theorem length_registerUser (linked : db.Linked) (body : UserRegister) :
    (db.registerUser body).users.rows.length = db.users.rows.length + 1 := by
  have absent : key (db.newAccount body) ∉ db.users.rows.map key :=
    Table.get?_eq_none_iff.mp linked.fresh
  change (db.users.insert (db.newAccount body)).rows.length = _
  unfold Table.insert
  rw [dif_neg absent, List.length_append]
  rfl

theorem length_commitBinding (db : RegistryDb) (userId : Nat)
    (bound : Option ReferralCodeRegistration) (referredById : Option Nat) :
    (db.commitBinding userId bound referredById).users.rows.length = db.users.rows.length := by
  cases bound with
  | none => exact List.length_map _
  | some row => exact List.length_map _

/-! ## The answer, by the tables before -/

/-- What the code of a new user raises. -/
def codeError (db : RegistryDb) (fails : RegisterStep → Bool) (raw : String) :
    Option RegisterReply :=
  if !blankCode raw && fails .findCode then some .serverError
  else
    match db.findCodeByString raw with
    | none =>
        if fails .findReferrer then none
        else if (db.findReferrerByCode raw).isSome && fails .flushReferrer then some .serverError
        else none
    | some code =>
        if fails .countRegistrations then some .serverError
        else if registrationsCap ≤ db.countRegistrations code.id then
          some (.rejected .registrationCap)
        else if fails .findExisting || fails .flushRegistration then some .serverError
        else none

/-- What is raised. -/
def raised {ε α : Type} : Except ε α → Option ε
  | .error e => some e
  | .ok _ => none

theorem error_bindReferrer (linked : db.Linked) (body : UserRegister) (raw : String) :
    raised ((db.registerUser body).bindReferrer fails db.userSeq raw) =
      if fails .findReferrer then none
        else if (db.findReferrerByCode raw).isSome && fails .flushReferrer then some .serverError
        else none := by
  unfold bindReferrer
  rw [findReferrer_new linked]
  split
  · rfl
  · cases db.findReferrerByCode raw with
    | none => rfl
    | some referrer =>
        cases fails .flushReferrer with
        | true => rfl
        | false => rfl

theorem error_captureReferral (linked : db.Linked) (body : UserRegister) (raw : String) :
    raised ((db.registerUser body).captureReferral fails db.userSeq raw) =
      db.codeError fails raw := by
  unfold captureReferral bindReferee codeError
  rw [codeToBind_new linked, unbound_new linked]
  cases !blankCode raw && fails .findCode with
  | true => rfl
  | false =>
      simp only [Bool.false_eq_true, if_false]
      cases db.findCodeByString raw with
      | none => exact error_bindReferrer linked body raw
      | some code =>
          have count : (db.registerUser body).countRegistrations code.id =
              db.countRegistrations code.id := rfl
          cases fails .countRegistrations with
          | true => rfl
          | false =>
              simp only [Bool.false_eq_true, if_false, registrationRoom, count]
              by_cases full : registrationsCap ≤ db.countRegistrations code.id
              · rw [if_pos full, if_pos full]
                rfl
              · rw [if_neg full, if_neg full]
                cases fails .findExisting with
                | true => rfl
                | false =>
                    cases fails .flushRegistration with
                    | true => rfl
                    | false => rfl

/-- The answer to a request whose user is committed. -/
def newUserReply (db : RegistryDb) (body : UserRegister) (fails : RegisterStep → Bool) :
    RegisterReply :=
  ((Python.nonEmpty body.referralCode).bind (db.codeError fails)).getD
    (if fails .reloadUser then .serverError else .created)

theorem reply_bindNewUser (linked : db.Linked) (body : UserRegister)
    (fails : RegisterStep → Bool) :
    ((db.registerUser body).bindNewUser body fails db.userSeq).2 = db.newUserReply body fails := by
  unfold bindNewUser newUserReply
  cases Python.nonEmpty body.referralCode with
  | none => rfl
  | some raw =>
      rw [Option.bind_some, ← error_captureReferral linked body raw]
      dsimp only
      cases (db.registerUser body).captureReferral fails db.userSeq raw with
      | error reply => rfl
      | ok binding => rfl

theorem reply_register (linked : db.Linked) (body : UserRegister) (limited : Bool)
    (fails : RegisterStep → Bool) :
    (db.register body limited fails).2 =
      if limited then .tooManyAttempts
      else if fails .findUsername then .serverError
      else if (db.byUsername body.username).isSome then .usernameTaken
      else if fails .findEmail then .serverError
      else if (db.byEmail body.email).isSome then .pending
      else if fails .commitUser || !db.admitsAccount (db.newAccount body) then .serverError
      else if fails .refreshUser then .serverError
      else db.newUserReply body fails := by
  unfold register
  rw [← reply_bindNewUser linked]
  simp only [apply_ite Prod.snd]

/-- The answer does not depend on the number that the user gets. -/
theorem reply_of_seq (linked : db.Linked) {n : Nat} (linked' : Linked { db with userSeq := n })
    (body : UserRegister) (limited : Bool) (fails : RegisterStep → Bool) :
    (register { db with userSeq := n } body limited fails).2 =
      (db.register body limited fails).2 := by
  have username : byUsername { db with userSeq := n } = db.byUsername := by
    unfold byUsername
    rfl
  have email : byEmail { db with userSeq := n } = db.byEmail := by
    unfold byEmail
    rfl
  have found : findCodeByString { db with userSeq := n } = db.findCodeByString := by
    unfold findCodeByString
    rfl
  have referrer : findReferrerByCode { db with userSeq := n } = db.findReferrerByCode := by
    unfold findReferrerByCode
    rfl
  have counted : countRegistrations { db with userSeq := n } = db.countRegistrations := by
    unfold countRegistrations
    rfl
  have code : codeError { db with userSeq := n } fails = db.codeError fails := by
    funext raw
    unfold codeError
    rw [found, referrer, counted]
  have reply : newUserReply { db with userSeq := n } body fails = db.newUserReply body fails := by
    unfold newUserReply
    rw [code]
  have admits : admitsAccount { db with userSeq := n } (newAccount { db with userSeq := n } body) =
      db.admitsAccount (db.newAccount body) := by
    unfold admitsAccount newAccount
    rfl
  rw [reply_register linked', reply_register linked, username, email, admits, reply]

theorem Linked.succ (linked : db.Linked) : Linked { db with userSeq := db.userSeq + 1 } :=
  ⟨fun u member => Nat.lt_succ_of_lt (linked.below u member), linked.owners, linked.referees⟩

theorem codeError_eq_none_iff : db.codeError fails raw = none ↔ db.CodeSpared fails raw := by
  have asked : (blankCode raw = true ∨ fails .findCode = false) ↔
      (!blankCode raw && fails .findCode) = false := by
    cases blankCode raw <;> simp
  unfold codeError CodeSpared
  rw [asked]
  cases !blankCode raw && fails .findCode with
  | true => simp
  | false =>
      simp only [Bool.false_eq_true, if_false, true_and]
      cases db.findCodeByString raw with
      | none =>
          cases fails .findReferrer with
          | true => simp
          | false =>
              cases db.findReferrerByCode raw with
              | none => simp
              | some u => simp
      | some code =>
          cases fails .countRegistrations with
          | true => simp
          | false =>
              by_cases full : registrationsCap ≤ db.countRegistrations code.id
              · simp [full]
              · simp [full]
                omega

/-! ## Errors -/

theorem isError_of_codeError {reply : RegisterReply} (raised : db.codeError fails raw = some reply) :
    reply.isError = true := by
  unfold codeError at raised
  split at raised
  · cases raised
    rfl
  split at raised
  · split at raised
    · cases raised
    split at raised
    · cases raised
      rfl
    · cases raised
  · split at raised
    · cases raised
      rfl
    split at raised
    · cases raised
      rfl
    split at raised
    · cases raised
      rfl
    · cases raised

theorem isError_newUserReply : (db.newUserReply body fails).isError = false ↔
    (∀ raw, Python.nonEmpty body.referralCode = some raw → db.CodeSpared fails raw) ∧
      fails .reloadUser = false := by
  have reloaded : (if fails .reloadUser then RegisterReply.serverError else .created).isError =
      false ↔ fails .reloadUser = false := by
    cases fails .reloadUser with
    | true => simp [RegisterReply.isError]
    | false => simp [RegisterReply.isError]
  unfold newUserReply
  cases given : Python.nonEmpty body.referralCode with
  | none => simpa using reloaded
  | some raw =>
      simp only [Option.bind_some, Option.some.injEq, forall_eq']
      rw [← codeError_eq_none_iff]
      cases raised : db.codeError fails raw with
      | none => simpa using reloaded
      | some reply =>
          have error := isError_of_codeError raised
          simp [error]

/-- A request that does not get as far as a committed user leaves the tables. -/
theorem register_of_not_commitsUser (early : ¬db.CommitsUser body limited fails) :
    (db.register body limited fails).1 = db ∨
      (db.register body limited fails).1 = { db with userSeq := db.userSeq + 1 } := by
  unfold register
  split
  · exact .inl rfl
  case isFalse admitted =>
  split
  · exact .inl rfl
  case isFalse username =>
  split
  · exact .inl rfl
  case isFalse free =>
  split
  · exact .inl rfl
  case isFalse email =>
  split
  · exact .inl rfl
  case isFalse unknown =>
  split
  · exact .inr rfl
  case isFalse committed =>
    simp only [Bool.or_eq_true, not_or, Bool.not_eq_true, Bool.not_eq_false'] at *
    exact absurd ⟨admitted, ⟨username, free⟩, ⟨email, unknown⟩, committed⟩ early

theorem register_of_commitsUser (commits : db.CommitsUser body limited fails) :
    db.register body limited fails =
      if fails .refreshUser then (db.registerUser body, .serverError)
      else (db.registerUser body).bindNewUser body fails db.userSeq := by
  unfold register
  simp only [commits.admitted, commits.username.1, commits.username.2, commits.email.1,
    commits.email.2, commits.committed.1, commits.committed.2, Bool.not_true, Bool.or_false,
    Bool.false_eq_true, if_false]

/-- The user of a request that is answered with an error after its commit is there. -/
theorem length_register (linked : db.Linked) (commits : db.CommitsUser body limited fails) :
    (db.register body limited fails).1.users.rows.length = db.users.rows.length + 1 := by
  rw [register_of_commitsUser commits]
  split
  · exact length_registerUser linked body
  · unfold bindNewUser
    dsimp only
    split
    · exact length_registerUser linked body
    · dsimp only
      split
      · exact length_registerUser linked body
      · exact (length_commitBinding _ _ _ _).trans (length_registerUser linked body)

theorem isError_register (linked : db.Linked) (commits : db.CommitsUser body limited fails) :
    (db.register body limited fails).2.isError = false ↔ db.SparesUser body fails := by
  rw [register_of_commitsUser commits]
  cases refresh : fails .refreshUser with
  | true =>
      refine iff_of_false (by simp [RegisterReply.isError]) fun spares => ?_
      rw [spares.refreshed] at refresh
      cases refresh
  | false =>
      simp only [Bool.false_eq_true, if_false]
      rw [reply_bindNewUser linked, isError_newUserReply]
      exact ⟨fun spared => ⟨refresh, spared.1, spared.2⟩, fun spares => ⟨spares.code, spares.reloaded⟩⟩

end RegistryDb

/-- A state of the registry that its keys admit. -/
structure LinkedDb where
  db : RegistryDb
  linked : db.Linked

/-- A rejected registration leaves nothing behind if and only if it is rejected before the user is
committed. -/
theorem leavesNothing_iff_spares (s : LinkedDb) (body : UserRegister) (limited : Bool)
    (fails : RegisterStep → Bool) : s.db.LeavesNothing body limited fails ↔
      (s.db.CommitsUser body limited fails → s.db.SparesUser body fails) := by
  obtain ⟨db, linked⟩ := s
  dsimp only
  constructor
  · intro nothing commits
    by_contra raised
    have error : (db.register body limited fails).2.isError = true := by
      rw [← Bool.not_eq_false]
      exact mt (RegistryDb.isError_register linked commits).mp raised
    have grown := RegistryDb.length_register linked commits
    rw [(nothing error).1] at grown
    omega
  · intro spared error
    have early : ¬db.CommitsUser body limited fails := by
      intro commits
      have fine := (RegistryDb.isError_register linked commits).mpr (spared commits)
      rw [fine] at error
      cases error
    rcases RegistryDb.register_of_not_commitsUser early with same | numbered
    · dsimp only
      rw [same]
      exact ⟨rfl, rfl, fun _ _ => rfl⟩
    · dsimp only
      rw [numbered]
      exact ⟨rfl, rfl, fun code fails' => RegistryDb.reply_of_seq linked linked.succ _ false fails'⟩

/-! ## A user that is left behind -/

/-- User 0 owns a code that fifteen have signed up with. -/
def fullCode : RegistryDb where
  users := (Table.empty : Table Account).insertAll ((List.range 16).map fun id =>
    { id, username := "user" ++ toString id, email := "user" ++ toString id })
  codes := Table.empty.insert
    { id := 0, ownerId := 0, commissionPct := 10, discountPct := 10, code := "PROMO", codeType := .selfServe }
  registrations := (Table.empty : Table ReferralCodeRegistration).insertAll
    ((List.range 15).map fun id => { id, codeId := 0, refereeId := id + 1 })
  userSeq := 16
  codeSeq := 1
  registrationSeq := 15

def newcomer : UserRegister where
  username := "alice"
  email := "alice@example.com"
  password := "secret"
  referralCode := some "PROMO"

/-- The code is full: the answer is an error, and the user stays. -/
theorem leavesNothing_broken :
    ¬∀ db : RegistryDb, db.Linked → ∀ body limited fails, db.LeavesNothing body limited fails := by
  intro nothing
  have linked : fullCode.Linked := by
    refine ⟨?_, ?_, ?_⟩
    · decide +kernel
    · decide +kernel
    · decide +kernel
  have rejected : (fullCode.register newcomer false fun _ => false).2 =
      .rejected .registrationCap := by decide +kernel
  have grown : (fullCode.register newcomer false fun _ => false).1.users.rows.length = 17 := by
    decide +kernel
  have few : fullCode.users.rows.length = 16 := by decide +kernel
  have same := (nothing fullCode linked newcomer false (fun _ => false) (by rw [rejected]; rfl)).1
  rw [same, few] at grown
  cases grown

end Avalant
