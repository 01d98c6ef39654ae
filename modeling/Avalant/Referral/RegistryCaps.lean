import Avalant.Lib.Aggregate
import Avalant.Referral.Registry

/-!
The caps of the registry hold as long as no row is committed between a count and the commit that
rests on it.

The bindings rest on the unique indexes and the owner check, whatever overlaps.
The counts are read statements before the insert, so two transactions may both
find the last place free.
-/

namespace Avalant

open Relational Transition

/-- The caps, one code for each referee, and the signup code of a user is the registered one. -/
structure RegistryDb.CapsHold (db : RegistryDb) : Prop where
  registered : ∀ codeId, db.countRegistrations codeId ≤ registrationsCap
  owned : ∀ ownerId, db.countOwnerCodes ownerId ≤ codesPerOwnerMax
  oneCode : ∀ r ∈ db.registrations.rows, ∀ r' ∈ db.registrations.rows,
    r.refereeId = r'.refereeId → r = r'
  othersCode : ∀ r ∈ db.registrations.rows, ∀ code, db.codes.get? r.codeId = some code →
    code.ownerId ≠ r.refereeId
  signup : ∀ r ∈ db.registrations.rows, ∃ u, db.users.get? r.refereeId = some u ∧
    u.signupCodeId = some r.codeId

/-- In every reachable state the registry's caps and bindings hold. -/
def RegistryKept
    (ok : RegistryDb → List RegistryTask → RegistryInput → RegistryTask → Prop) : Prop :=
  ∀ s, RegistryReached ok s → s.store.CapsHold

namespace RegistryDb

/-- The code whose registrations a transaction has counted, until its own is committed. -/
def countedCode : RegistryTask → Option Nat
  | .readExisting _ _ code | .insertRegistration _ code => some code.id
  | .commitBinding _ bound _ => bound.map ReferralCodeRegistration.codeId
  | _ => none

/-- The owner whose codes a transaction has counted, until its own is committed. -/
def countedOwner : RegistryTask → Option Nat
  | .findTaken draft | .insertCode draft => some draft.ownerId
  | .commitCode row => some row.ownerId
  | _ => none

/-- A row is committed while no other transaction is between its count for the same code, or for
the same owner, and its commit. -/
def Uncontended (_ : RegistryDb) (others : List RegistryTask) (input : RegistryInput) :
    RegistryTask → Prop
  | .commitBinding _ (some row) _ =>
      input.commits = true → ∀ t ∈ others, countedCode t ≠ some row.codeId
  | .commitCode row => input.commits = true → ∀ t ∈ others, countedOwner t ≠ some row.ownerId
  | _ => True

instance (db : RegistryDb) (others : List RegistryTask) (input : RegistryInput) :
    (task : RegistryTask) → Decidable (db.Uncontended others input task)
  | .commitBinding _ (some _) _ | .commitCode _ => inferInstanceAs (Decidable (_ = true → _))
  | .commitBinding _ none _ | .readUsername _ | .readEmail _ | .registerUser _ | .findCode _ _
  | .countRegistrations _ _ _ | .readExisting _ _ _ | .insertRegistration _ _
  | .findReferrer _ _ | .readOwner _ | .countOwnerCodes _ | .findTaken _
  | .insertCode _ => inferInstanceAs (Decidable True)

variable {db db' : RegistryDb} {others : List RegistryTask} {input : RegistryInput}
  {task : RegistryTask} {rest : Option RegistryTask}

/-! ## What the tables and the transactions satisfy -/

/-- The user is stored, and so is the code, of another owner. -/
structure MayBind (db : RegistryDb) (refereeId codeId : Nat) : Prop where
  user : (db.users.get? refereeId).isSome = true
  code : ∃ code, db.codes.get? codeId = some code ∧ code.ownerId ≠ refereeId

/-- The invariant: the caps, the foreign keys of the registrations, and the unique index of the
codes. -/
structure RegistrySound (db : RegistryDb) : Prop extends db.CapsHold where
  linked : ∀ r ∈ db.registrations.rows, db.MayBind r.refereeId r.codeId
  distinct : ∀ c ∈ db.codes.rows, ∀ c' ∈ db.codes.rows, c.lower = c'.lower → c = c'

/-- What a transaction knows of the tables. -/
def Knows (db : RegistryDb) : RegistryTask → Prop
  | .findCode refereeId _ => (db.users.get? refereeId).isSome = true
  | .countRegistrations refereeId _ code | .readExisting refereeId _ code
  | .insertRegistration refereeId code => db.MayBind refereeId code.id
  | .commitBinding refereeId bound _ => ∀ row ∈ bound, row.refereeId = refereeId ∧
      db.MayBind refereeId row.codeId ∧ ∀ r ∈ db.registrations.rows, r.refereeId ≠ refereeId
  | .commitCode row => ∀ c ∈ db.codes.rows, c.lower ≠ row.lower
  | .readUsername _ | .readEmail _ | .registerUser _ | .findReferrer _ _ | .readOwner _
  | .countOwnerCodes _ | .findTaken _ | .insertCode _ => True

/-- The check after a count still holds. -/
structure HasRoom (db : RegistryDb) (t : RegistryTask) : Prop where
  code : ∀ codeId ∈ countedCode t, db.countRegistrations codeId < registrationsCap
  owner : ∀ ownerId ∈ countedOwner t, db.countOwnerCodes ownerId < codesPerOwnerMax

/-- What holds of a transaction in flight. -/
structure Ready (db : RegistryDb) (t : RegistryTask) : Prop where
  knows : db.Knows t
  room : db.HasRoom t

/-- Two transactions have flushed no two rows of one index entry. -/
def Compatible (t t' : RegistryTask) : Prop :=
  (∀ r ∈ t.binds, ∀ r' ∈ t'.binds, r.refereeId ≠ r'.refereeId) ∧
    ∀ c ∈ t.creates, ∀ c' ∈ t'.creates, c.lower ≠ c'.lower

theorem Compatible.symm {t t' : RegistryTask} (apart : Compatible t t') : Compatible t' t :=
  ⟨fun r flushed r' flushed' => (apart.1 r' flushed' r flushed).symm,
    fun c flushed c' flushed' => (apart.2 c' flushed' c flushed).symm⟩

theorem compatible_of_quiet {t : RegistryTask} (binds : t.binds = none)
    (creates : t.creates = none) (t' : RegistryTask) : Compatible t t' := by
  refine ⟨fun r flushed => ?_, fun c flushed => ?_⟩
  · rw [binds] at flushed
    cases flushed
  · rw [creates] at flushed
    cases flushed

/-! ## Frames -/

theorem hasRoom_of_uncounted {t : RegistryTask} (code : countedCode t = none)
    (owner : countedOwner t = none) : db.HasRoom t := by
  refine ⟨fun codeId counted => ?_, fun ownerId counted => ?_⟩
  · rw [code] at counted
    cases counted
  · rw [owner] at counted
    cases counted

theorem HasRoom.of_tables {t : RegistryTask} (room : db.HasRoom t) (codes : db'.codes = db.codes)
    (registrations : db'.registrations = db.registrations) : db'.HasRoom t := by
  refine ⟨fun codeId counted => ?_, fun ownerId counted => ?_⟩
  · unfold countRegistrations
    rw [registrations]
    exact room.code codeId counted
  · unfold countOwnerCodes
    rw [codes]
    exact room.owner ownerId counted

theorem MayBind.later {refereeId codeId : Nat} (may : db.MayBind refereeId codeId)
    (users : ∀ id, (db.users.get? id).isSome = true → (db'.users.get? id).isSome = true)
    (codes : ∀ id code, db.codes.get? id = some code → db'.codes.get? id = some code) :
    db'.MayBind refereeId codeId := by
  obtain ⟨code, stored, other⟩ := may.code
  exact ⟨users refereeId may.user, code, codes codeId code stored, other⟩

/-- What the others know outlives a write that adds neither their referee nor their code. -/
theorem Knows.later {t : RegistryTask} (knows : db.Knows t)
    (users : ∀ id, (db.users.get? id).isSome = true → (db'.users.get? id).isSome = true)
    (codes : ∀ id code, db.codes.get? id = some code → db'.codes.get? id = some code)
    (referees : ∀ row ∈ t.binds, ∀ r ∈ db'.registrations.rows,
      r ∈ db.registrations.rows ∨ r.refereeId ≠ row.refereeId)
    (lowers : ∀ row ∈ t.creates, ∀ c ∈ db'.codes.rows, c ∈ db.codes.rows ∨ c.lower ≠ row.lower) :
    db'.Knows t := by
  cases t with
  | findCode refereeId raw => exact users refereeId knows
  | countRegistrations refereeId raw code => exact MayBind.later knows users codes
  | readExisting refereeId raw code => exact MayBind.later knows users codes
  | insertRegistration refereeId code => exact MayBind.later knows users codes
  | commitBinding refereeId bound referredById =>
      intro row flushed
      obtain ⟨same, may, unbound⟩ := knows row flushed
      refine ⟨same, may.later users codes, fun r member => ?_⟩
      rcases referees row flushed r member with stored | other
      · exact unbound r stored
      · rw [← same]
        exact other
  | commitCode row =>
      intro c member
      rcases lowers row rfl c member with stored | other
      · exact knows c stored
      · exact other
  | readUsername body => trivial
  | readEmail body => trivial
  | registerUser body => trivial
  | findReferrer refereeId raw => trivial
  | readOwner draft => trivial
  | countOwnerCodes draft => trivial
  | findTaken draft => trivial
  | insertCode draft => trivial

/-- A write that leaves codes and registrations alone, and keeps each registered user's code. -/
theorem RegistrySound.of_users (sound : db.RegistrySound) (codes : db'.codes = db.codes)
    (registrations : db'.registrations = db.registrations)
    (users : ∀ id u, db.users.get? id = some u →
      ∃ u', db'.users.get? id = some u' ∧ u'.signupCodeId = u.signupCodeId) :
    db'.RegistrySound := by
  have present : ∀ id, (db.users.get? id).isSome = true → (db'.users.get? id).isSome = true := by
    intro id stored
    obtain ⟨u, found⟩ := Option.isSome_iff_exists.mp stored
    obtain ⟨u', found', -⟩ := users id u found
    exact Option.isSome_iff_exists.mpr ⟨u', found'⟩
  refine ⟨⟨fun codeId => ?_, fun ownerId => ?_, ?_, ?_, fun r member => ?_⟩, fun r member => ?_, ?_⟩
  · unfold countRegistrations
    rw [registrations]
    exact sound.registered codeId
  · unfold countOwnerCodes
    rw [codes]
    exact sound.owned ownerId
  · rw [registrations]
    exact sound.oneCode
  · rw [registrations, codes]
    exact sound.othersCode
  · rw [registrations] at member
    obtain ⟨u, stored, same⟩ := sound.signup r member
    obtain ⟨u', stored', kept⟩ := users _ u stored
    exact ⟨u', stored', kept.trans same⟩
  · rw [registrations] at member
    exact (sound.linked r member).later present fun id code stored => codes ▸ stored
  · rw [codes]
    exact sound.distinct

theorem RegistrySound.of_tables (sound : db.RegistrySound) (users : db'.users = db.users)
    (codes : db'.codes = db.codes) (registrations : db'.registrations = db.registrations) :
    db'.RegistrySound :=
  sound.of_users codes registrations fun _ u stored => ⟨u, users ▸ stored, rfl⟩

theorem Knows.of_tables {t : RegistryTask} (knows : db.Knows t) (users : db'.users = db.users)
    (codes : db'.codes = db.codes) (registrations : db'.registrations = db.registrations) :
    db'.Knows t := by
  refine knows.later (fun id stored => users ▸ stored) (fun id code stored => codes ▸ stored) ?_ ?_
  · rw [registrations]
    exact fun _ _ _ => Or.inl
  · rw [codes]
    exact fun _ _ _ => Or.inl

theorem setBinding_users (db : RegistryDb) (refereeId : Nat) (signup referred : Option Nat)
    (id : Nat) :
    (db.setBinding refereeId signup referred).users.get? id =
      (db.users.get? id).map fun u =>
        if u.id = refereeId then
          { u with
            signupCodeId := signup.or u.signupCodeId
            referredById := referred.or u.referredById }
        else u :=
  Table.get?_map db.users _ (fun u => by split <;> rfl) id

/-! ## The writing statements -/

theorem commitBinding_present (db : RegistryDb) (refereeId : Nat)
    (bound : Option ReferralCodeRegistration) (referred : Option Nat) {id : Nat}
    (stored : (db.users.get? id).isSome = true) :
    ((db.commitBinding refereeId bound referred).users.get? id).isSome = true := by
  have same : (db.commitBinding refereeId bound referred).users =
      (db.setBinding refereeId (bound.map ReferralCodeRegistration.codeId) referred).users := by
    unfold commitBinding
    cases bound with
    | none => rfl
    | some row => rfl
  rw [same, setBinding_users, Option.isSome_map]
  exact stored

theorem registerUser_users (db : RegistryDb) (body : UserRegister) {id : Nat} {u : Account}
    (stored : db.users.get? id = some u) : (db.registerUser body).users.get? id = some u := by
  unfold registerUser
  rw [Table.get?_insert, stored]
  rfl

theorem registerUser_present (db : RegistryDb) (body : UserRegister) :
    ((db.registerUser body).users.get? db.userSeq).isSome = true := by
  unfold registerUser
  rw [Table.get?_insert]
  simp [newAccount]

theorem RegistrySound.registerUser (sound : db.RegistrySound) (body : UserRegister) :
    (db.registerUser body).RegistrySound :=
  sound.of_users rfl rfl fun _ u stored => ⟨u, registerUser_users db body stored, rfl⟩

/-- A registration is committed: only its own referee's row changes. -/
theorem RegistrySound.commitBound (sound : db.RegistrySound) {row : ReferralCodeRegistration}
    {referred : Option Nat} (may : db.MayBind row.refereeId row.codeId)
    (unbound : ∀ r ∈ db.registrations.rows, r.refereeId ≠ row.refereeId)
    (room : db.countRegistrations row.codeId < registrationsCap) :
    (db.commitBinding row.refereeId (some row) referred).RegistrySound := by
  obtain ⟨code, known, other⟩ := may.code
  have split : ∀ r ∈ (db.registrations.insert row).rows, r ∈ db.registrations.rows ∨ r = row :=
    fun r member => Table.mem_rows_of_insert member
  refine ⟨⟨fun codeId => ?_, sound.owned, fun r member r' member' same => ?_,
    fun r member c stored => ?_, fun r member => ?_⟩, fun r member => ?_, sound.distinct⟩
  · have counted : (db.registrations.insert row).rows.countP (fun r => r.codeId == codeId) ≤
        registrationsCap := by
      by_cases same : row.codeId = codeId
      · have more := Table.countP_insert_le db.registrations row fun r => r.codeId == codeId
        have below : db.registrations.rows.countP (fun r => r.codeId == codeId) <
            registrationsCap := same ▸ room
        omega
      · rw [Table.countP_insert_of_not db.registrations (by simpa using same)]
        exact sound.registered codeId
    exact counted
  · rcases split r member with stored | rfl
    · rcases split r' member' with stored' | rfl
      · exact sound.oneCode r stored r' stored' same
      · exact absurd same (unbound r stored)
    · rcases split r' member' with stored' | rfl
      · exact absurd same.symm (unbound r' stored')
      · rfl
  · rcases split r member with old | rfl
    · exact sound.othersCode r old c stored
    · have codes : code = c := Option.some.inj (known.symm.trans stored)
      rw [← codes]
      exact other
  · change ∃ u, (db.setBinding row.refereeId (some row.codeId) referred).users.get? r.refereeId =
      some u ∧ u.signupCodeId = some r.codeId
    rw [setBinding_users]
    rcases split r member with old | rfl
    · obtain ⟨u, stored, signed⟩ := sound.signup r old
      have id : u.id = r.refereeId := Table.key_of_get? stored
      have elsewhere : u.id ≠ row.refereeId := by
        rw [id]
        exact unbound r old
      refine ⟨u, ?_, signed⟩
      rw [stored]
      simp [elsewhere]
    · obtain ⟨u, stored⟩ := Option.isSome_iff_exists.mp may.user
      have id : u.id = r.refereeId := Table.key_of_get? stored
      rw [stored]
      refine ⟨_, rfl, ?_⟩
      simp [id]
  · have linked : db.MayBind r.refereeId r.codeId := by
      rcases split r member with old | rfl
      · exact sound.linked r old
      · exact may
    exact linked.later (fun id => commitBinding_present db _ _ _) fun _ _ stored => stored

/-- Without a code the commit leaves every signup code as it is. -/
theorem RegistrySound.commitUnbound (sound : db.RegistrySound) (refereeId : Nat)
    (referred : Option Nat) : (db.commitBinding refereeId none referred).RegistrySound := by
  refine sound.of_users rfl rfl fun id u stored => ?_
  have written := setBinding_users db refereeId none referred id
  rw [stored] at written
  refine ⟨_, written, ?_⟩
  by_cases same : u.id = refereeId
  · simp [same]
  · simp [same]

theorem commitCode_codes (db : RegistryDb) (row : RegistryCode) {id : Nat} {code : RegistryCode}
    (stored : db.codes.get? id = some code) : (db.commitCode row).codes.get? id = some code := by
  unfold commitCode
  rw [Table.get?_insert, stored]
  rfl

theorem RegistrySound.commitCode (sound : db.RegistrySound) {row : RegistryCode}
    (free : ∀ c ∈ db.codes.rows, c.lower ≠ row.lower)
    (room : db.countOwnerCodes row.ownerId < codesPerOwnerMax) :
    (db.commitCode row).RegistrySound := by
  have split : ∀ c ∈ (db.codes.insert row).rows, c ∈ db.codes.rows ∨ c = row :=
    fun c member => Table.mem_rows_of_insert member
  have kept : ∀ id code, db.codes.get? id = some code →
      (db.commitCode row).codes.get? id = some code := fun _ _ => commitCode_codes db row
  refine ⟨⟨sound.registered, fun ownerId => ?_, sound.oneCode, fun r member c stored => ?_,
    sound.signup⟩, fun r member => (sound.linked r member).later (fun _ found => found) kept,
    fun c member c' member' same => ?_⟩
  · have counted : (db.codes.insert row).rows.countP (fun c => c.ownerId == ownerId) ≤
        codesPerOwnerMax := by
      by_cases same : row.ownerId = ownerId
      · have more := Table.countP_insert_le db.codes row fun c => c.ownerId == ownerId
        have below : db.codes.rows.countP (fun c => c.ownerId == ownerId) < codesPerOwnerMax :=
          same ▸ room
        omega
      · rw [Table.countP_insert_of_not db.codes (by simpa using same)]
        exact sound.owned ownerId
    exact counted
  · obtain ⟨code, known, other⟩ := (sound.linked r member).code
    have codes : code = c := Option.some.inj ((kept _ code known).symm.trans stored)
    rw [← codes]
    exact other
  · rcases split c member with stored | rfl
    · rcases split c' member' with stored' | rfl
      · exact sound.distinct c stored c' stored' same
      · exact absurd same (free c stored)
    · rcases split c' member' with stored' | rfl
      · exact absurd same.symm (free c' stored')
      · rfl

/-! ## What the others know -/

theorem Knows.registerUser {t : RegistryTask} (knows : db.Knows t) (body : UserRegister) :
    (db.registerUser body).Knows t := by
  refine knows.later (fun id stored => ?_) (fun _ _ stored => stored) (fun _ _ _ => Or.inl)
    fun _ _ _ => Or.inl
  obtain ⟨u, found⟩ := Option.isSome_iff_exists.mp stored
  exact Option.isSome_iff_exists.mpr ⟨u, registerUser_users db body found⟩

theorem Knows.commitUnbound {t : RegistryTask} (knows : db.Knows t) (refereeId : Nat)
    (referred : Option Nat) : (db.commitBinding refereeId none referred).Knows t :=
  knows.later (fun _ => commitBinding_present db refereeId none referred)
    (fun _ _ stored => stored) (fun _ _ _ => Or.inl) fun _ _ _ => Or.inl

/-- A registration takes no place of the codes that the others have counted. -/
theorem HasRoom.commitBound {t : RegistryTask} (has : db.HasRoom t)
    {row : ReferralCodeRegistration} (refereeId : Nat) (referred : Option Nat)
    (uncontended : countedCode t ≠ some row.codeId) :
    (db.commitBinding refereeId (some row) referred).HasRoom t := by
  refine ⟨fun codeId counted => ?_, has.owner⟩
  have other : row.codeId ≠ codeId := by
    intro same
    rw [← same] at counted
    exact uncontended counted
  have kept : (db.registrations.insert row).rows.countP (fun r => r.codeId == codeId) =
      db.countRegistrations codeId :=
    Table.countP_insert_of_not db.registrations (by simpa using other)
  change (db.registrations.insert row).rows.countP (fun r => r.codeId == codeId) < registrationsCap
  rw [kept]
  exact has.code codeId counted

/-- A code takes no place of the owners that the others have counted. -/
theorem HasRoom.commitCode {t : RegistryTask} (has : db.HasRoom t) {row : RegistryCode}
    (uncontended : countedOwner t ≠ some row.ownerId) : (db.commitCode row).HasRoom t := by
  refine ⟨has.code, fun ownerId counted => ?_⟩
  have other : row.ownerId ≠ ownerId := by
    intro same
    rw [← same] at counted
    exact uncontended counted
  have kept : (db.codes.insert row).rows.countP (fun c => c.ownerId == ownerId) =
      db.countOwnerCodes ownerId :=
    Table.countP_insert_of_not db.codes (by simpa using other)
  change (db.codes.insert row).rows.countP (fun c => c.ownerId == ownerId) < codesPerOwnerMax
  rw [kept]
  exact has.owner ownerId counted

/-- The others hold other referees. -/
theorem Knows.commitBound {t : RegistryTask} (knows : db.Knows t) {row : ReferralCodeRegistration}
    {referred : Option Nat} (apart : ∀ row' ∈ t.binds, row.refereeId ≠ row'.refereeId) :
    (db.commitBinding row.refereeId (some row) referred).Knows t := by
  refine knows.later (fun _ => commitBinding_present db row.refereeId (some row) referred)
    (fun _ _ stored => stored) (fun row' flushed r stored => ?_) fun _ _ _ => Or.inl
  rcases Table.mem_rows_of_insert stored with old | rfl
  · exact Or.inl old
  · exact Or.inr (apart row' flushed)

/-- The others hold other codes. -/
theorem Knows.commitCode {t : RegistryTask} (knows : db.Knows t) {row : RegistryCode}
    (apart : ∀ row' ∈ t.creates, row.lower ≠ row'.lower) : (db.commitCode row).Knows t := by
  refine knows.later (fun _ stored => stored) (fun _ _ => commitCode_codes db row)
    (fun _ _ _ => Or.inl) fun row' flushed c stored => ?_
  rcases Table.mem_rows_of_insert stored with old | rfl
  · exact Or.inl old
  · exact Or.inr (apart row' flushed)

/-! ## Runs -/

theorem startRegistry_cases {request : RegistryRequest}
    (started : startRegistry db request = some task) :
    (∃ body, task = .readUsername body) ∨
      ∃ draft, task = .readOwner draft ∨ task = .countOwnerCodes draft := by
  cases request with
  | register body =>
      simp only [startRegistry, Option.map_eq_some_iff] at started
      obtain ⟨accepted, -, rfl⟩ := started
      exact Or.inl ⟨accepted, rfl⟩
  | createSelfServe userId body =>
      simp only [startRegistry] at started
      split at started
      · simp only [Option.map_eq_some_iff] at started
        obtain ⟨draft, -, rfl⟩ := started
        exact Or.inr ⟨draft, Or.inr rfl⟩
      · cases started
  | createAdmin adminId ownerId body =>
      simp only [startRegistry] at started
      split at started
      · simp only [Option.map_eq_some_iff] at started
        obtain ⟨draft, -, rfl⟩ := started
        cases ownerId with
        | none => exact Or.inr ⟨draft, Or.inr rfl⟩
        | some ownerId => exact Or.inr ⟨draft, Or.inl rfl⟩
      · cases started

theorem registry_starts : Program.Starts registry RegistrySound Ready Compatible := by
  intro store request task others _ _ started
  have quiet : task.binds = none ∧ task.creates = none ∧ store.Ready task := by
    rcases startRegistry_cases started with ⟨body, rfl⟩ | ⟨draft, rfl | rfl⟩
    · exact ⟨rfl, rfl, trivial, hasRoom_of_uncounted rfl rfl⟩
    · exact ⟨rfl, rfl, trivial, hasRoom_of_uncounted rfl rfl⟩
    · exact ⟨rfl, rfl, trivial, hasRoom_of_uncounted rfl rfl⟩
  obtain ⟨binds, creates, ready⟩ := quiet
  have apart := compatible_of_quiet binds creates
  exact ⟨ready, fun t _ => ⟨apart t, (apart t).symm⟩⟩

/-- The code a referee may bind to is stored and has another owner. -/
theorem mayBind_of_codeToBind {refereeId : Nat} {raw : String} {code : RegistryCode}
    (user : (db.users.get? refereeId).isSome = true)
    (found : db.codeToBind refereeId raw = .ok (some code)) : db.MayBind refereeId code.id := by
  unfold codeToBind at found
  split at found
  · cases found
  case h_2 stored known =>
    split at found
    · cases found
    case isFalse other =>
      cases found
      refine ⟨user, code, ?_, other⟩
      simp only [findCodeByString] at known
      split at known
      · cases known
      · exact Table.get?_eq_some_iff.mpr ⟨List.mem_of_find?_eq_some known, rfl⟩

theorem unbound_of_ok {refereeId : Nat} (ok : db.unbound refereeId = .ok ()) :
    ∀ r ∈ db.registrations.rows, r.refereeId ≠ refereeId := by
  intro r member same
  unfold unbound at ok
  rw [if_pos] at ok
  · cases ok
  · exact List.any_eq_true.mpr ⟨r, member, by simpa using same⟩

theorem room_of_registrationRoom {code : RegistryCode} (ok : db.registrationRoom code = .ok ()) :
    db.countRegistrations code.id < registrationsCap := by
  unfold registrationRoom at ok
  split at ok
  · cases ok
  case isFalse below => exact Nat.lt_of_not_le below

theorem room_of_ownerRoom {draft : CodeDraft} (ok : db.ownerRoom draft = .ok ()) :
    db.countOwnerCodes draft.ownerId < codesPerOwnerMax := by
  unfold ownerRoom at ok
  split at ok
  · cases ok
  case isFalse below => exact Nat.lt_of_not_le below

/-- A transaction that has counted the registrations of a code and nothing else. -/
theorem hasRoom_of_code {t : RegistryTask} {codeId : Nat} (code : countedCode t = some codeId)
    (owner : countedOwner t = none) (below : db.countRegistrations codeId < registrationsCap) :
    db.HasRoom t := by
  refine ⟨fun codeId' counted => ?_, fun ownerId counted => ?_⟩
  · rw [code] at counted
    cases counted
    exact below
  · rw [owner] at counted
    cases counted

theorem hasRoom_of_owner {t : RegistryTask} {ownerId : Nat} (code : countedCode t = none)
    (owner : countedOwner t = some ownerId)
    (below : db.countOwnerCodes ownerId < codesPerOwnerMax) : db.HasRoom t := by
  refine ⟨fun codeId counted => ?_, fun ownerId' counted => ?_⟩
  · rw [code] at counted
    cases counted
  · rw [owner] at counted
    cases counted
    exact below

/-- A registration is flushed only when no other transaction holds its referee. -/
theorem compatible_of_referee_free {row : ReferralCodeRegistration} {referred : Option Nat}
    (free : ¬others.any (RegistryTask.holdsReferee row.refereeId) = true) {t : RegistryTask}
    (member : t ∈ others) : Compatible (.commitBinding row.refereeId (some row) referred) t := by
  refine ⟨fun r flushed r' flushed' same => ?_, fun c flushed => ?_⟩
  · cases flushed
    have holds : t.holdsReferee row.refereeId = true := by
      have bound : t.binds = some r' := flushed'
      simp [RegistryTask.holdsReferee, bound, same]
    exact free (List.any_eq_true.mpr ⟨t, member, holds⟩)
  · cases flushed

/-- A code is flushed only when no other transaction holds its index entry. -/
theorem compatible_of_lower_free {row : RegistryCode}
    (free : ¬others.any (RegistryTask.holdsLower row.lower) = true) {t : RegistryTask}
    (member : t ∈ others) : Compatible (.commitCode row) t := by
  refine ⟨fun r flushed => ?_, fun c flushed c' flushed' same => ?_⟩
  · cases flushed
  · cases flushed
    have holds : t.holdsLower row.lower = true := by
      have created : t.creates = some c' := flushed'
      simp [RegistryTask.holdsLower, created, same]
    exact free (List.any_eq_true.mpr ⟨t, member, holds⟩)

/-- What a statement has to leave, for `Program.Keeps`. -/
abbrev Left (others : List RegistryTask) (db' : RegistryDb) (rest : Option RegistryTask) : Prop :=
  db'.RegistrySound ∧ (∀ t ∈ others, db'.Ready t) ∧
    ∀ t', rest = some t' → db'.Ready t' ∧ ∀ t ∈ others, Compatible t' t ∧ Compatible t t'

theorem left_end (sound : db.RegistrySound) (known : ∀ t ∈ others, db.Ready t) :
    Left others db none := by
  refine ⟨sound, known, fun t none => ?_⟩
  cases none

/-- A statement that flushes nothing. -/
theorem left_quiet (sound : db.RegistrySound) (known : ∀ t ∈ others, db.Ready t)
    (own : db.Knows task) (room : db.HasRoom task) (binds : task.binds = none)
    (creates : task.creates = none) : Left others db (some task) := by
  refine ⟨sound, known, fun t same => ?_⟩
  cases same
  have apart := compatible_of_quiet binds creates
  exact ⟨⟨own, room⟩, fun t _ => ⟨apart t, (apart t).symm⟩⟩

theorem Ready.of_tables {t : RegistryTask} (ready : db.Ready t) (users : db'.users = db.users)
    (codes : db'.codes = db.codes) (registrations : db'.registrations = db.registrations) :
    db'.Ready t :=
  ⟨ready.knows.of_tables users codes registrations, ready.room.of_tables codes registrations⟩

/-- A registration is flushed, and gets a number. -/
theorem left_insertRegistration (sound : db.RegistrySound) (known : ∀ t ∈ others, db.Ready t)
    (row : ReferralCodeRegistration) (may : db.MayBind row.refereeId row.codeId)
    (room : db.countRegistrations row.codeId < registrationsCap)
    (free : ¬others.any (RegistryTask.holdsReferee row.refereeId) = true)
    (absent : db.unbound row.refereeId = .ok ()) :
    Left others { db with registrationSeq := db.registrationSeq + 1 }
      (some (.commitBinding row.refereeId (some row) none)) := by
  refine ⟨sound.of_tables rfl rfl rfl, fun t member => (known t member).of_tables rfl rfl rfl,
    fun t same => ?_⟩
  cases same
  refine ⟨⟨fun row' flushed => ?_, hasRoom_of_code rfl rfl room⟩, fun t member => ?_⟩
  · cases flushed
    exact ⟨rfl, may.later (fun _ stored => stored) fun _ _ stored => stored, unbound_of_ok absent⟩
  · have apart : Compatible (.commitBinding row.refereeId (some row) none) t :=
      compatible_of_referee_free free member
    exact ⟨apart, apart.symm⟩

/-- A code is flushed, and gets a number. -/
theorem left_insertCode (sound : db.RegistrySound) (known : ∀ t ∈ others, db.Ready t)
    {row : RegistryCode} (room : db.countOwnerCodes row.ownerId < codesPerOwnerMax)
    (distinct : ∀ c ∈ db.codes.rows, c.lower ≠ row.lower)
    (free : ¬others.any (RegistryTask.holdsLower row.lower) = true) :
    Left others { db with codeSeq := db.codeSeq + 1 } (some (.commitCode row)) := by
  refine ⟨sound.of_tables rfl rfl rfl, fun t member => (known t member).of_tables rfl rfl rfl,
    fun t same => ?_⟩
  cases same
  refine ⟨⟨distinct, hasRoom_of_owner rfl rfl room⟩, fun t member => ?_⟩
  have apart := compatible_of_lower_free free member
  exact ⟨apart, apart.symm⟩

theorem registry_keeps :
    Program.Keeps registry Uncontended RegistrySound Ready Compatible := by
  intro db others input task db' rest uncontended sound own holds done
  have known : ∀ t ∈ others, db.Ready t := fun t member => (holds t member).1
  have uncounted : ∀ {t : RegistryTask}, countedCode t = none → countedOwner t = none →
      db.HasRoom t := hasRoom_of_uncounted
  cases task with
  | readUsername body =>
      simp only [registry, nextRegistry] at done
      split at done
      · cases done
        exact left_end sound known
      · cases done
        exact left_quiet sound known trivial (uncounted rfl rfl) rfl rfl
  | readEmail body =>
      simp only [registry, nextRegistry] at done
      split at done
      · cases done
        exact left_end sound known
      · cases done
        exact left_quiet sound known trivial (uncounted rfl rfl) rfl rfl
  | registerUser body =>
      have others' : ∀ t ∈ others, (db.registerUser body).Ready t := fun t member =>
        ⟨(known t member).knows.registerUser body, (known t member).room.of_tables rfl rfl⟩
      simp only [registry, nextRegistry] at done
      split at done
      · cases done
        cases given : body.referralCode with
        | none => exact left_end (sound.registerUser body) others'
        | some raw =>
            exact left_quiet (sound.registerUser body) others' (registerUser_present db body)
              (hasRoom_of_uncounted rfl rfl) rfl rfl
      · cases done
        exact left_end (sound.of_tables rfl rfl rfl) fun t member =>
          (known t member).of_tables rfl rfl rfl
  | findCode refereeId raw =>
      simp only [registry, nextRegistry] at done
      split at done
      · cases done
        exact left_end sound known
      · cases done
        exact left_quiet sound known trivial (uncounted rfl rfl) rfl rfl
      case h_3 code found =>
        cases done
        exact left_quiet sound known (mayBind_of_codeToBind own.knows found) (uncounted rfl rfl)
          rfl rfl
  | countRegistrations refereeId raw code =>
      simp only [registry, nextRegistry] at done
      split at done
      · cases done
        exact left_end sound known
      case h_2 below =>
        cases done
        exact left_quiet sound known own.knows
          (hasRoom_of_code rfl rfl (room_of_registrationRoom below)) rfl rfl
  | readExisting refereeId raw code =>
      simp only [registry, nextRegistry] at done
      split at done
      · cases done
        exact left_quiet sound known trivial (uncounted rfl rfl) rfl rfl
      · cases done
        exact left_quiet sound known own.knows
          (hasRoom_of_code rfl rfl (own.room.code code.id rfl)) rfl rfl
  | insertRegistration refereeId code =>
      simp only [registry, nextRegistry] at done
      split at done
      · cases done
      case isFalse free =>
        split at done
        · cases done
          exact left_end (sound.of_tables rfl rfl rfl) fun t member =>
            (known t member).of_tables rfl rfl rfl
        case h_2 absent =>
          cases done
          exact left_insertRegistration sound known ⟨db.registrationSeq, code.id, refereeId⟩
            own.knows (own.room.code code.id rfl) free absent
  | findReferrer refereeId raw =>
      simp only [registry, nextRegistry] at done
      cases done
      refine left_quiet sound known (fun row flushed => ?_) (uncounted rfl rfl) rfl rfl
      cases flushed
  | commitBinding refereeId bound referredById =>
      simp only [registry, nextRegistry] at done
      split at done
      case isFalse =>
        cases done
        exact left_end sound known
      case isTrue commits =>
        cases done
        cases bound with
        | none =>
            exact left_end (sound.commitUnbound refereeId referredById) fun t member =>
              ⟨(known t member).knows.commitUnbound refereeId referredById,
                (known t member).room.of_tables rfl rfl⟩
        | some row =>
            obtain ⟨same, may, unbound⟩ := own.knows row rfl
            subst same
            -- its own check holds to the commit, and it takes no place of the others
            have room := own.room.code row.codeId rfl
            exact left_end (sound.commitBound may unbound room) fun t member =>
              ⟨(known t member).knows.commitBound ((holds t member).2.1.1 row rfl),
                (known t member).room.commitBound row.refereeId referredById
                  (uncontended commits t member)⟩
  | readOwner draft =>
      simp only [registry, nextRegistry] at done
      split at done
      · cases done
        exact left_end sound known
      · cases done
        exact left_quiet sound known trivial (uncounted rfl rfl) rfl rfl
  | countOwnerCodes draft =>
      simp only [registry, nextRegistry] at done
      split at done
      · cases done
        exact left_end sound known
      case h_2 below =>
        cases done
        exact left_quiet sound known trivial (hasRoom_of_owner rfl rfl (room_of_ownerRoom below))
          rfl rfl
  | findTaken draft =>
      simp only [registry, nextRegistry] at done
      split at done
      · cases done
        exact left_end sound known
      · cases done
        exact left_quiet sound known trivial
          (hasRoom_of_owner rfl rfl (own.room.owner draft.ownerId rfl)) rfl rfl
  | insertCode draft =>
      simp only [registry, nextRegistry] at done
      split at done
      · cases done
      case isFalse free =>
        split at done
        case isTrue admitted =>
          cases done
          refine left_insertCode sound known (own.room.owner draft.ownerId rfl)
            (fun c member => ?_) free
          have distinct := List.all_eq_true.mp (Bool.and_eq_true_iff.mp admitted).2 c member
          simpa using distinct
        case isFalse =>
          cases done
          exact left_end (sound.of_tables rfl rfl rfl) fun t member =>
            (known t member).of_tables rfl rfl rfl
  | commitCode row =>
      simp only [registry, nextRegistry] at done
      split at done
      case isFalse =>
        cases done
        exact left_end sound known
      case isTrue commits =>
        cases done
        have room := own.room.owner row.ownerId rfl
        exact left_end (sound.commitCode own.knows room) fun t member =>
          ⟨(known t member).knows.commitCode ((holds t member).2.1.2 row rfl),
            (known t member).room.commitCode (uncontended commits t member)⟩

theorem registrySound_of_fresh (fresh : db.Fresh) : db.RegistrySound := by
  have none : ∀ r, r ∉ db.registrations.rows := by
    intro r member
    rw [fresh.noRegistrations] at member
    cases member
  refine ⟨⟨fun codeId => ?_, fun ownerId => ?_, fun r member => absurd member (none r),
    fun r member => absurd member (none r), fun r member => absurd member (none r)⟩,
    fun r member => absurd member (none r), fun c member => ?_⟩
  · simp [countRegistrations, fresh.noRegistrations, Table.empty]
  · simp [countOwnerCodes, fresh.noCodes, Table.empty]
  · rw [fresh.noCodes] at member
    cases member

end RegistryDb

open RegistryDb

/-- In every run without a commit between a count and the row that rests on it, caps and bindings
hold. -/
theorem registryKept_of_uncontended
    {ok : RegistryDb → List RegistryTask → RegistryInput → RegistryTask → Prop}
    (within : ∀ db others input task, ok db others input task → db.Uncontended others input task) :
    RegistryKept ok := by
  intro s reached
  rcases reached with ⟨db, fresh, run⟩
  have alone := run.mono (Program.guard_mono within)
  exact (Program.run_satisfies registry_starts registry_keeps alone
    (Pool.satisfies_start (registrySound_of_fresh fresh))).store.toCapsHold

/-! ## Overlapping registrations -/

/-- The one user of the start. -/
def codeOwner : Account := { id := 0, username := "owner", email := "owner@x" }

def oneOwner : RegistryDb :=
  { users := Table.empty.insert codeOwner, userSeq := 1 }

theorem oneOwner_fresh : oneOwner.Fresh := by
  refine ⟨rfl, rfl, fun u member => ?_⟩
  have only : u = codeOwner := List.mem_singleton.mp member
  rw [only]
  exact Nat.zero_lt_one

/-- The user creates a code, in transaction `k`. -/
def createCode (k : Nat) : List (Event RegistryRequest RegistryInput) :=
  [.begin_ k (.createSelfServe 0 ⟨some "alpha", .ok 5, .ok 5⟩), .advance k {}, .advance k {},
    .advance k {}, .advance k {}]

def registerBody (k : Nat) : UserRegister :=
  { username := "user" ++ toString k
    email := toString k ++ "@x"
    password := "secret"
    referralCode := some "alpha" }

/-- The code is created, and `n` users register with it: all count before the first commits. -/
def overlappingRegistrations (n : Nat) : List (Event RegistryRequest RegistryInput) :=
  createCode n ++
    (List.range n).flatMap (fun k =>
      [.begin_ k (.register (registerBody k)), .advance k {}, .advance k {}, .advance k {},
        .advance k {}, .advance k {}]) ++
    (List.range n).flatMap fun k => [.advance k {}, .advance k {}, .advance k {}]

/-- The code is created, fifteen users register with it, each after the commit of the one before,
and a sixteenth is refused. -/
def registrationsInTurn : List (Event RegistryRequest RegistryInput) :=
  createCode 0 ++
    (List.range 15).flatMap (fun k =>
      .begin_ k (.register (registerBody k)) :: List.replicate 8 (.advance k {})) ++
    .begin_ 15 (.register (registerBody 15)) :: List.replicate 5 (.advance 15 {})

/-- In turn the code fills up to its cap. -/
theorem registryKept_inTurn : ∃ s,
    execGuarded registry.step (Program.guard Uncontended) { store := oneOwner }
      registrationsInTurn = some s ∧
      s.txns.rows.isEmpty = true ∧ s.store.countRegistrations 0 = 15 ∧ s.store.CapsHold := by
  have shown : ((execGuarded registry.step (Program.guard Uncontended) { store := oneOwner }
      registrationsInTurn).map fun s => (s.txns.rows.isEmpty, s.store.countRegistrations 0)) =
        some (true, 15) := by
    decide +kernel
  obtain ⟨s, ran, view⟩ := Option.map_eq_some_iff.mp shown
  obtain ⟨ended, counted⟩ := Prod.mk.inj view
  have kept := registryKept_of_uncontended (fun _ _ _ _ alone => alone) s
    ⟨oneOwner, oneOwner_fresh, Run.of_execGuarded ran⟩
  exact ⟨s, ran, ended, counted, kept⟩

/-- The sixteenth has counted none either. -/
theorem registryKept_broken_by_overlap :
    ¬RegistryKept (fun _ _ _ _ => True) ∧
      (exec registry.step { store := oneOwner } (overlappingRegistrations 16)).map
        (fun s => s.store.countRegistrations 0) = some 16 := by
  have result : (exec registry.step { store := oneOwner } (overlappingRegistrations 16)).map
      (fun s => s.store.countRegistrations 0) = some 16 := by decide +kernel
  refine ⟨fun kept => ?_, result⟩
  obtain ⟨s, ran, counted⟩ := Option.map_eq_some_iff.mp result
  have capped := (kept s ⟨oneOwner, oneOwner_fresh, Program.run_of_exec ran⟩).registered 0
  rw [counted] at capped
  exact absurd capped (by decide)

end Avalant
