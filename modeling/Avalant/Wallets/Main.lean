import Avalant.Lib.Aggregate
import Avalant.Lib.Run
import Avalant.Wallets.Service

/-!
The main key of a venue.

A creation gives the flag to the first active key, and `set_main` moves it. Archiving, unarchiving
and deleting a key leave the flag where it is.
-/

namespace Avalant

open Relational Transition

namespace Wallets

/-! ## Rows -/

structure MainWallet extends StoredWallet where
  isMain : Bool
  deriving DecidableEq, Repr

instance : Keyed MainWallet := ⟨fun w => w.id⟩

structure MainDb where
  wallets : Table MainWallet := Table.empty
  seq : Nat := 0

/-- An active exchange key with the flag. -/
def isMainFor (userId : Nat) (venue : String) (w : MainWallet) : Bool :=
  isKeyFor userId venue w.toStoredWallet && w.isMain

namespace MainDb

/-- The wallets without the flag. -/
def plain (db : MainDb) : WalletDb where
  wallets := ⟨db.wallets.rows.map MainWallet.toStoredWallet, by
    rw [List.map_map]
    exact db.wallets.nodup⟩
  seq := db.seq

def keysOf (db : MainDb) (userId : Nat) (venue : String) : Nat :=
  db.wallets.rows.countP fun w => isKeyFor userId venue w.toStoredWallet

def mainsOf (db : MainDb) (userId : Nat) (venue : String) : Nat :=
  db.wallets.rows.countP (isMainFor userId venue)

/-- `_has_main_for_venue`. -/
def hasMainForVenue (db : MainDb) (userId : Nat) (venue : String) : Bool :=
  0 < db.mainsOf userId venue

/-- `_get_wallet`. -/
def getWallet (db : MainDb) (userId id : Nat) : Option MainWallet :=
  (db.wallets.get? id).filter (·.userId = userId)

/-! ## Requests -/

/-- `UPDATE wallets SET … WHERE id = …`. -/
def set (db : MainDb) (id : Nat) (write : MainWallet → MainWallet)
    (keeps : ∀ w, (write w).id = w.id) : MainDb :=
  { db with
    wallets := db.wallets.map (fun w => if w.id = id then write w else w) fun w => by
      split
      · exact keeps w
      · rfl }

def archiveWallet (db : MainDb) (userId id : Nat) : MainDb :=
  match db.getWallet userId id with
  | none => db
  | some wallet => db.set wallet.id (fun w => { w with isArchived := true }) fun _ => rfl

def unarchiveWallet (db : MainDb) (userId : Nat) (limits : WalletLimits) (id : Nat) : MainDb :=
  match db.getWallet userId id with
  | none => db
  | some wallet =>
      if portfolioFull userId limits db.plain wallet.purpose then db
      else db.set wallet.id (fun w => { w with isArchived := false }) fun _ => rfl

/-- The row of a new wallet: the first key of a venue becomes the main one. -/
def createdWallet (db : MainDb) (userId : Nat) (walletType : WalletType) (typeValue : String)
    (purpose : WalletPurpose) (now : ℤ) : MainWallet where
  id := db.seq
  userId := userId
  walletType := walletType
  typeValue := typeValue
  purpose := purpose
  isArchived := false
  createdAt := now
  isMain := walletType = .exchange && !db.hasMainForVenue userId typeValue

/-- `create_wallet`. -/
def createWallet (db : MainDb) (userId : Nat) (limits : WalletLimits) (walletType : WalletType)
    (typeValue : String) (purpose : WalletPurpose) (now : ℤ) : MainDb :=
  let w : NewWallet := ⟨walletType, typeValue, createPurpose walletType purpose⟩
  if portfolioFull userId limits db.plain w.purpose then db
  else if venueFull userId limits db.plain w then db
  else
    { wallets := db.wallets.insert
        (db.createdWallet userId walletType typeValue w.purpose now)
      seq := db.seq + 1 }

/-- What `set_main_wallet` makes of a row: the key gets the flag, and all others of the venue, also
archived ones, lose it. -/
def remarked (wallet w : MainWallet) : MainWallet :=
  if w.id = wallet.id then { w with isMain := true }
  else if w.userId = wallet.userId ∧ w.walletType = .exchange ∧ w.typeValue = wallet.typeValue then
    { w with isMain := false }
  else w

theorem id_remarked (wallet w : MainWallet) : (remarked wallet w).id = w.id := by
  unfold remarked
  split
  · rfl
  · split <;> rfl

def setMainWallet (db : MainDb) (userId id : Nat) : MainDb :=
  match db.getWallet userId id with
  | none => db
  | some wallet =>
      if wallet.walletType ≠ .exchange then db
      else { db with wallets := db.wallets.map (remarked wallet) (id_remarked wallet) }

/-- `update_wallet`, as far as the purpose goes. -/
def updateWallet (db : MainDb) (userId id : Nat) (purpose : Option WalletPurpose)
    (tradeSupported : Bool) : MainDb :=
  match db.getWallet userId id, purpose with
  | some wallet, some purpose =>
      if wallet.walletType = .chain then db
      else if inScreener purpose &&
          (!tradeSupported || duplicateScreenerKey userId db.plain wallet.toStoredWallet) then db
      else db.set wallet.id (fun w => { w with purpose }) fun _ => rfl
  | _, _ => db

def deleteWallet (db : MainDb) (userId id : Nat) : MainDb :=
  match db.getWallet userId id with
  | none => db
  | some wallet => { db with wallets := db.wallets.erase wallet.id }

/-- A request of a user. The limits are those of the plan at the time. -/
inductive Op
  | create (userId : Nat) (limits : WalletLimits) (walletType : WalletType) (typeValue : String)
      (purpose : WalletPurpose) (now : ℤ)
  | setMain (userId id : Nat)
  | archive (userId id : Nat)
  | unarchive (userId : Nat) (limits : WalletLimits) (id : Nat)
  | update (userId id : Nat) (purpose : Option WalletPurpose) (tradeSupported : Bool)
  | delete (userId id : Nat)

def step (db : MainDb) : Op → Option MainDb
  | .create userId limits walletType typeValue purpose now =>
      some (db.createWallet userId limits walletType typeValue purpose now)
  | .setMain userId id => some (db.setMainWallet userId id)
  | .archive userId id => some (db.archiveWallet userId id)
  | .unarchive userId limits id => some (db.unarchiveWallet userId limits id)
  | .update userId id purpose tradeSupported =>
      some (db.updateWallet userId id purpose tradeSupported)
  | .delete userId id => some (db.deleteWallet userId id)

/-! ## One main key -/

/-- At most one active key of a venue has the flag, and one has if there are active keys. -/
structure OneMain (db : MainDb) : Prop where
  most : ∀ userId venue, db.mainsOf userId venue ≤ 1
  least : ∀ userId venue, 0 < db.keysOf userId venue → db.mainsOf userId venue = 1

/-- An active key that has the flag is archived or deleted only when it is the only active one of
its venue; a key is unarchived with the flag only when there is no active one, and without only
when there is; an archived key gets the flag only when there is no active one. -/
def SparesMain (db : MainDb) : Op → Prop
  | .archive userId id | .delete userId id => ∀ w, db.getWallet userId id = some w →
      isMainFor userId w.typeValue w = true → db.keysOf userId w.typeValue = 1
  | .unarchive userId limits id => ∀ w, db.getWallet userId id = some w →
      w.walletType = .exchange → w.isArchived = true →
      portfolioFull userId limits db.plain w.purpose = false →
      (w.isMain = true ↔ db.keysOf userId w.typeValue = 0)
  | .setMain userId id => ∀ w, db.getWallet userId id = some w →
      w.walletType = .exchange → w.isArchived = true → db.keysOf userId w.typeValue = 0
  | .create .. | .update .. => True

/-! ## The numbers of one venue -/

variable {db db' : MainDb} {w w' : MainWallet} {userId id : Nat} {venue : String}

theorem isKeyFor_iff {w : StoredWallet} : isKeyFor userId venue w = true ↔
    w.userId = userId ∧ w.isArchived = false ∧ w.walletType = .exchange ∧ w.typeValue = venue := by
  simp [isKeyFor]

theorem get?_of_getWallet (found : db.getWallet userId id = some w) :
    db.wallets.get? w.id = some w ∧ w.userId = userId ∧ w.id = id := by
  obtain ⟨stored, own⟩ := Option.filter_eq_some_iff.mp found
  have keyed : w.id = id := Table.key_of_get? stored
  rw [keyed]
  exact ⟨stored, by simpa using own, rfl⟩

/-- A row counts for its own user and venue only. -/
theorem not_isKeyFor_of_other (other : ¬(userId = w.userId ∧ venue = w.typeValue)) :
    isKeyFor userId venue w.toStoredWallet = false := by
  rw [Bool.eq_false_iff]
  intro counts
  obtain ⟨user, -, -, venue⟩ := isKeyFor_iff.mp counts
  exact other ⟨user.symm, venue.symm⟩

theorem mainsOf_le_keysOf (db : MainDb) (userId : Nat) (venue : String) :
    db.mainsOf userId venue ≤ db.keysOf userId venue := by
  refine List.countP_mono_left fun w _ main => ?_
  exact (Bool.and_eq_true_iff.mp main).1

/-- Where all but one venue of one user is as before, that one decides. -/
theorem oneMain_iff_of_others (good : db.OneMain) {userId₀ : Nat} {venue₀ : String}
    (others : ∀ userId venue, ¬(userId = userId₀ ∧ venue = venue₀) →
      db'.keysOf userId venue = db.keysOf userId venue ∧
        db'.mainsOf userId venue = db.mainsOf userId venue) :
    db'.OneMain ↔ db'.mainsOf userId₀ venue₀ ≤ 1 ∧
      (0 < db'.keysOf userId₀ venue₀ → db'.mainsOf userId₀ venue₀ = 1) := by
  constructor
  · intro good'
    exact ⟨good'.most userId₀ venue₀, good'.least userId₀ venue₀⟩
  · intro own
    refine ⟨fun userId venue => ?_, fun userId venue => ?_⟩
    · by_cases here : userId = userId₀ ∧ venue = venue₀
      · obtain ⟨rfl, rfl⟩ := here
        exact own.1
      · rw [(others userId venue here).2]
        exact good.most userId venue
    · by_cases here : userId = userId₀ ∧ venue = venue₀
      · obtain ⟨rfl, rfl⟩ := here
        exact own.2
      · rw [(others userId venue here).1, (others userId venue here).2]
        exact good.least userId venue

/-- What a change of one row does to the numbers. -/
structure Changes (db db' : MainDb) (w w' : Option MainWallet) : Prop where
  keys : ∀ userId venue,
    db'.keysOf userId venue +
        (if w.any fun w => isKeyFor userId venue w.toStoredWallet then 1 else 0) =
      db.keysOf userId venue +
        if w'.any fun w => isKeyFor userId venue w.toStoredWallet then 1 else 0
  mains : ∀ userId venue,
    db'.mainsOf userId venue + (if w.any (isMainFor userId venue) then 1 else 0) =
      db.mainsOf userId venue + if w'.any (isMainFor userId venue) then 1 else 0

theorem changes_set (found : db.wallets.get? w.id = some w) (write : MainWallet → MainWallet)
    (keeps : ∀ w, (write w).id = w.id) : Changes db (db.set w.id write keeps) w (write w) := by
  have here : (if w.id = w.id then write w else w) = write w := if_pos rfl
  have counts : ∀ p : MainWallet → Bool,
      (db.set w.id write keeps).wallets.rows.countP p + (if p w then 1 else 0) =
        db.wallets.rows.countP p + if p (write w) then 1 else 0 := by
    intro p
    have one := Table.countP_map_one found (fun row => if row.id = w.id then write row else row)
      (fun row => by
        split
        · exact keeps row
        · rfl)
      (fun row other => if_neg other) p
    rw [here] at one
    exact one
  exact ⟨fun _ _ => counts _, fun _ _ => counts _⟩

theorem changes_erase (found : db.wallets.get? w.id = some w) :
    Changes db { db with wallets := db.wallets.erase w.id } w none := by
  refine ⟨fun _ _ => ?_, fun _ _ => ?_⟩
  · exact Table.countP_erase found _
  · exact Table.countP_erase found _

theorem changes_insert (fresh : db.wallets.get? w.id = none) (seq : Nat) :
    Changes db { wallets := db.wallets.insert w, seq } none w := by
  refine ⟨fun _ _ => ?_, fun _ _ => ?_⟩
  · exact Table.countP_insert fresh _
  · exact Table.countP_insert fresh _

/-- A row that has its user and its venue before and after. -/
theorem Changes.others {w w' : Option MainWallet} {userId₀ : Nat} {venue₀ : String}
    (changes : Changes db db' w w')
    (before : ∀ v, w = some v → v.userId = userId₀ ∧ v.typeValue = venue₀)
    (after : ∀ v, w' = some v → v.userId = userId₀ ∧ v.typeValue = venue₀) (userId : Nat)
    (venue : String) (other : ¬(userId = userId₀ ∧ venue = venue₀)) :
    db'.keysOf userId venue = db.keysOf userId venue ∧
      db'.mainsOf userId venue = db.mainsOf userId venue := by
  have uncounted : ∀ v : Option MainWallet,
      (∀ v', v = some v' → v'.userId = userId₀ ∧ v'.typeValue = venue₀) →
      (v.any fun w => isKeyFor userId venue w.toStoredWallet) = false ∧
        v.any (isMainFor userId venue) = false := by
    intro v own
    cases v with
    | none => exact ⟨rfl, rfl⟩
    | some v =>
        obtain ⟨rfl, rfl⟩ := own v rfl
        have skipped := not_isKeyFor_of_other other
        refine ⟨skipped, ?_⟩
        change (_ && _) = false
        rw [skipped]
        rfl
  obtain ⟨key, main⟩ := uncounted w before
  obtain ⟨key', main'⟩ := uncounted w' after
  have keys := changes.keys userId venue
  have mains := changes.mains userId venue
  rw [key, key'] at keys
  rw [main, main'] at mains
  exact ⟨keys, mains⟩

/-! ## One request -/

/-- The ids of the rows have been given out. -/
def Numbered (db : MainDb) : Prop :=
  ∀ w ∈ db.wallets.rows, w.id < db.seq

theorem Numbered.fresh (numbered : db.Numbered) : db.wallets.get? db.seq = none := by
  cases found : db.wallets.get? db.seq with
  | none => rfl
  | some w =>
      have below := numbered w (Table.mem_of_get? found)
      have keyed : w.id = db.seq := Table.key_of_get? found
      omega

theorem numbered_set (numbered : db.Numbered) (id : Nat) (write : MainWallet → MainWallet)
    (keeps : ∀ w, (write w).id = w.id) : (db.set id write keeps).Numbered := by
  intro w member
  obtain ⟨w', member', rfl⟩ := List.mem_map.mp member
  have below := numbered w' member'
  split
  · rw [keeps]
    exact below
  · exact below

theorem numbered_step {op : Op} (numbered : db.Numbered) (stepped : db.step op = some db') :
    db'.Numbered := by
  cases op with
  | create userId limits walletType typeValue purpose now =>
      cases stepped
      unfold createWallet
      dsimp only
      split
      · exact numbered
      split
      · exact numbered
      intro w member
      rcases Table.mem_rows_of_insert member with old | rfl
      · exact Nat.lt_succ_of_lt (numbered w old)
      · exact Nat.lt_succ_self _
  | setMain userId id =>
      cases stepped
      unfold setMainWallet
      split
      · exact numbered
      split
      · exact numbered
      intro w member
      obtain ⟨w', member', rfl⟩ := List.mem_map.mp member
      rw [id_remarked]
      exact numbered w' member'
  | archive userId id =>
      cases stepped
      unfold archiveWallet
      split
      · exact numbered
      · exact numbered_set numbered _ _ _
  | unarchive userId limits id =>
      cases stepped
      unfold unarchiveWallet
      split
      · exact numbered
      split
      · exact numbered
      · exact numbered_set numbered _ _ _
  | update userId id purpose tradeSupported =>
      cases stepped
      unfold updateWallet
      split
      · split
        · exact numbered
        split
        · exact numbered
        · exact numbered_set numbered _ _ _
      · exact numbered
  | delete userId id =>
      cases stepped
      unfold deleteWallet
      split
      · exact numbered
      · exact fun w member => numbered w (Table.mem_rows_erase.mp member).1

theorem oneMain_of_same (good : db.OneMain)
    (keys : ∀ userId venue, db'.keysOf userId venue = db.keysOf userId venue)
    (mains : ∀ userId venue, db'.mainsOf userId venue = db.mainsOf userId venue) : db'.OneMain := by
  refine ⟨fun userId venue => ?_, fun userId venue => ?_⟩
  · rw [mains]
    exact good.most userId venue
  · rw [keys, mains]
    exact good.least userId venue

/-- A change that keeps what a row counts for. -/
theorem Changes.oneMain_of_kept {w w' : Option MainWallet} (good : db.OneMain)
    (changes : Changes db db' w w')
    (key : ∀ userId venue, w'.any (fun w => isKeyFor userId venue w.toStoredWallet) =
      w.any fun w => isKeyFor userId venue w.toStoredWallet)
    (main : ∀ userId venue, w'.any (isMainFor userId venue) = w.any (isMainFor userId venue)) :
    db'.OneMain := by
  refine oneMain_of_same good (fun userId venue => ?_) fun userId venue => ?_
  · have keys := changes.keys userId venue
    rw [key] at keys
    exact Nat.add_right_cancel keys
  · have mains := changes.mains userId venue
    rw [main] at mains
    exact Nat.add_right_cancel mains

/-- A key that is there no more, or no longer active. -/
theorem oneMain_iff_of_leaves (good : db.OneMain) {w' : Option MainWallet}
    (changes : Changes db db' (some w) w')
    (same : ∀ v, w' = some v → v.userId = w.userId ∧ v.typeValue = w.typeValue)
    (gone : ∀ userId venue, w'.any (fun w => isKeyFor userId venue w.toStoredWallet) = false) :
    db'.OneMain ↔ (isMainFor w.userId w.typeValue w = true → db.keysOf w.userId w.typeValue = 1) := by
  rw [oneMain_iff_of_others good (changes.others (fun v own => by cases own; exact ⟨rfl, rfl⟩) same)]
  have keys := changes.keys w.userId w.typeValue
  have mains := changes.mains w.userId w.typeValue
  have noMain : w'.any (isMainFor w.userId w.typeValue) = false := by
    cases w' with
    | none => rfl
    | some v =>
        have noKey : isKeyFor w.userId w.typeValue v.toStoredWallet = false := gone _ _
        change (_ && _) = false
        rw [noKey]
        rfl
  rw [gone] at keys
  rw [noMain] at mains
  have most := good.most w.userId w.typeValue
  have least := good.least w.userId w.typeValue
  simp only [Option.any_some, Bool.false_eq_true, if_false] at keys mains
  cases main : isMainFor w.userId w.typeValue w with
  | true =>
      have key : isKeyFor w.userId w.typeValue w.toStoredWallet = true :=
        (Bool.and_eq_true_iff.mp main).1
      simp only [main, key, if_true] at keys mains
      simp only [forall_const]
      omega
  | false =>
      simp only [main, Bool.false_eq_true, if_false] at mains
      simp only [Bool.false_eq_true, false_implies, iff_true]
      split at keys
      · omega
      · omega

theorem oneMain_archive (good : db.OneMain) (userId id : Nat) :
    (db.archiveWallet userId id).OneMain ↔ db.SparesMain (.archive userId id) := by
  unfold archiveWallet SparesMain
  dsimp only
  cases found : db.getWallet userId id with
  | none =>
      refine ⟨fun _ w same => ?_, fun _ => good⟩
      cases same
  | some w =>
      obtain ⟨stored, rfl, -⟩ := get?_of_getWallet found
      dsimp only
      rw [oneMain_iff_of_leaves good (changes_set stored (fun w => { w with isArchived := true })
        fun _ => rfl) (fun v own => by cases own; exact ⟨rfl, rfl⟩) fun _ _ => by simp [isKeyFor]]
      simp only [Option.some.injEq, forall_eq']

theorem oneMain_delete (good : db.OneMain) (userId id : Nat) :
    (db.deleteWallet userId id).OneMain ↔ db.SparesMain (.delete userId id) := by
  unfold deleteWallet SparesMain
  dsimp only
  cases found : db.getWallet userId id with
  | none =>
      refine ⟨fun _ w same => ?_, fun _ => good⟩
      cases same
  | some w =>
      obtain ⟨stored, rfl, -⟩ := get?_of_getWallet found
      dsimp only
      rw [oneMain_iff_of_leaves good (changes_erase stored) (fun v own => by cases own)
        fun _ _ => rfl]
      simp only [Option.some.injEq, forall_eq']

/-- A key that is active again counts with the flag that it has. -/
theorem Changes.oneMain_returned (good : db.OneMain)
    (changes : Changes db db' (some w) (some { w with isArchived := false }))
    (exchange : w.walletType = .exchange) (archived : w.isArchived = true) :
    db'.OneMain ↔ (w.isMain = true ↔ db.keysOf w.userId w.typeValue = 0) := by
  rw [oneMain_iff_of_others good (changes.others (fun v own => by cases own; exact ⟨rfl, rfl⟩)
    fun v own => by cases own; exact ⟨rfl, rfl⟩)]
  have keys := changes.keys w.userId w.typeValue
  have mains := changes.mains w.userId w.typeValue
  have most := good.most w.userId w.typeValue
  have least := good.least w.userId w.typeValue
  have fewer := db.mainsOf_le_keysOf w.userId w.typeValue
  simp only [Option.any_some, isMainFor, isKeyFor, exchange, archived] at keys mains
  cases main : w.isMain with
  | true =>
      simp only [main] at mains
      simp at keys mains
      simp only [true_iff]
      omega
  | false =>
      simp only [main] at mains
      simp at keys mains
      simp only [Bool.false_eq_true, false_iff]
      omega

/-- A row that is no archived key counts as before. -/
theorem isKeyFor_returned (skipped : ¬(w.walletType = .exchange ∧ w.isArchived = true))
    (userId : Nat) (venue : String) :
    isKeyFor userId venue { w with isArchived := false }.toStoredWallet =
      isKeyFor userId venue w.toStoredWallet := by
  by_cases exchange : w.walletType = .exchange
  · have active : w.isArchived = false := by
      cases archived : w.isArchived with
      | false => rfl
      | true => exact absurd ⟨exchange, archived⟩ skipped
    simp [isKeyFor, active]
  · simp [isKeyFor, exchange]

theorem oneMain_unarchive (good : db.OneMain) (userId : Nat) (limits : WalletLimits) (id : Nat) :
    (db.unarchiveWallet userId limits id).OneMain ↔
      db.SparesMain (.unarchive userId limits id) := by
  unfold unarchiveWallet SparesMain
  dsimp only
  cases found : db.getWallet userId id with
  | none =>
      refine ⟨fun _ w same => ?_, fun _ => good⟩
      cases same
  | some w =>
      obtain ⟨stored, rfl, -⟩ := get?_of_getWallet found
      simp only [Option.some.injEq, forall_eq']
      split
      case isTrue full =>
        simp only [full, Bool.true_eq_false, false_implies, implies_true, iff_true]
        exact good
      case isFalse room =>
        have changes := changes_set stored (fun w => { w with isArchived := false }) fun _ => rfl
        by_cases key : w.walletType = .exchange ∧ w.isArchived = true
        · simp only [key.1, key.2, room, true_implies]
          exact changes.oneMain_returned good key.1 key.2
        · constructor
          · intro _ exchange archived
            exact absurd ⟨exchange, archived⟩ key
          · intro _
            refine changes.oneMain_of_kept good (fun _ _ => isKeyFor_returned key _ _) ?_
            intro userId venue
            exact congrArg (· && w.isMain) (isKeyFor_returned key userId venue)

/-! ### The flag moves -/

/-- The rows that `set_main_wallet` writes for a key. -/
def remark (db : MainDb) (w : MainWallet) : MainDb :=
  { db with wallets := db.wallets.map (remarked w) (id_remarked w) }

/-- No wallet becomes or stops being active. -/
theorem isKeyFor_remarked (w v : MainWallet) (userId : Nat) (venue : String) :
    isKeyFor userId venue (remarked w v).toStoredWallet = isKeyFor userId venue v.toStoredWallet := by
  unfold remarked
  split
  · rfl
  · split <;> rfl

theorem keysOf_remark (db : MainDb) (w : MainWallet) (userId : Nat) (venue : String) :
    (db.remark w).keysOf userId venue = db.keysOf userId venue := by
  change (db.wallets.rows.map (remarked w)).countP _ = _
  rw [List.countP_map]
  exact List.countP_congr fun v _ => by simp only [Function.comp_apply, isKeyFor_remarked]

/-- Of the other venues no active key is written. -/
theorem remarked_of_other (stored : db.wallets.get? w.id = some w) {v : MainWallet}
    (member : v ∈ db.wallets.rows) (counts : isKeyFor userId venue v.toStoredWallet = true)
    (other : ¬(userId = w.userId ∧ venue = w.typeValue)) : remarked w v = v := by
  obtain ⟨user, -, -, venue⟩ := isKeyFor_iff.mp counts
  unfold remarked
  split
  case isTrue here =>
    have itself : db.wallets.get? w.id = some v := Table.get?_eq_some_iff.mpr ⟨member, here⟩
    rw [stored] at itself
    cases itself
    exact absurd ⟨user.symm, venue.symm⟩ other
  case isFalse =>
    refine if_neg fun own => other ⟨?_, ?_⟩
    · rw [← user, own.1]
    · rw [← venue, own.2.2]

theorem mainsOf_remark_of_other (stored : db.wallets.get? w.id = some w)
    (other : ¬(userId = w.userId ∧ venue = w.typeValue)) :
    (db.remark w).mainsOf userId venue = db.mainsOf userId venue := by
  change (db.wallets.rows.map (remarked w)).countP _ = _
  rw [List.countP_map]
  refine List.countP_congr fun v member => ?_
  have same : isMainFor userId venue (remarked w v) = isMainFor userId venue v := by
    unfold isMainFor
    rw [isKeyFor_remarked]
    cases counts : isKeyFor userId venue v.toStoredWallet with
    | false => rfl
    | true => rw [remarked_of_other stored member counts other]
  simp only [Function.comp_apply, same]

/-- Every other key of the venue loses the flag. -/
theorem not_isMainFor_remarked {v : MainWallet} (apart : v.id ≠ w.id) :
    isMainFor w.userId w.typeValue (remarked w v) = false := by
  rw [Bool.eq_false_iff]
  intro main
  obtain ⟨counted, flag⟩ := Bool.and_eq_true_iff.mp main
  rw [isKeyFor_remarked] at counted
  obtain ⟨user, -, exchange, venue⟩ := isKeyFor_iff.mp counted
  unfold remarked at flag
  rw [if_neg apart, if_pos ⟨user, exchange, venue⟩] at flag
  cases flag

/-- The key itself counts when it is active. -/
theorem mainsOf_remark (stored : db.wallets.get? w.id = some w)
    (exchange : w.walletType = .exchange) :
    (db.remark w).mainsOf w.userId w.typeValue = if w.isArchived then 0 else 1 := by
  have split := Table.countP_map_split stored (remarked w) (id_remarked w)
    (isMainFor w.userId w.typeValue)
  have none_ : (db.wallets.rows.countP fun v =>
      isMainFor w.userId w.typeValue (remarked w v) && v.id != w.id) = 0 := by
    refine List.countP_eq_zero.mpr fun v _ counts => ?_
    obtain ⟨main, apart⟩ := Bool.and_eq_true_iff.mp counts
    rw [not_isMainFor_remarked (by simpa using apart)] at main
    cases main
  have itself : isMainFor w.userId w.typeValue (remarked w w) = !w.isArchived := by
    have here : remarked w w = { w with isMain := true } := if_pos rfl
    rw [here]
    simp [isMainFor, isKeyFor, exchange]
  rw [itself] at split
  refine (split.trans (congrArg _ none_)).trans ?_
  cases w.isArchived with
  | true => rfl
  | false => rfl

theorem oneMain_remark (good : db.OneMain) (stored : db.wallets.get? w.id = some w)
    (exchange : w.walletType = .exchange) :
    (db.remark w).OneMain ↔ (w.isArchived = true → db.keysOf w.userId w.typeValue = 0) := by
  rw [oneMain_iff_of_others good fun userId venue other =>
    ⟨keysOf_remark db w userId venue, mainsOf_remark_of_other stored other⟩,
    mainsOf_remark stored exchange, keysOf_remark]
  cases archived : w.isArchived with
  | true =>
      simp only [true_implies, if_true]
      omega
  | false => simp

theorem oneMain_setMain (good : db.OneMain) (userId id : Nat) :
    (db.setMainWallet userId id).OneMain ↔ db.SparesMain (.setMain userId id) := by
  unfold setMainWallet SparesMain
  dsimp only
  cases found : db.getWallet userId id with
  | none =>
      refine ⟨fun _ w same => ?_, fun _ => good⟩
      cases same
  | some w =>
      obtain ⟨stored, rfl, -⟩ := get?_of_getWallet found
      simp only [Option.some.injEq, forall_eq']
      split
      case isTrue other =>
        refine ⟨fun _ exchange => absurd exchange other, fun _ => good⟩
      case isFalse exchange =>
        have exchange := not_not.mp exchange
        simp only [exchange, true_implies]
        exact oneMain_remark good stored exchange

/-- The first key of a venue gets the flag. -/
theorem oneMain_create (good : db.OneMain) (numbered : db.Numbered) (userId : Nat)
    (limits : WalletLimits) (walletType : WalletType) (typeValue : String)
    (purpose : WalletPurpose) (now : ℤ) :
    (db.createWallet userId limits walletType typeValue purpose now).OneMain := by
  unfold createWallet
  dsimp only
  split
  · exact good
  split
  · exact good
  generalize added : db.createdWallet userId walletType typeValue (createPurpose walletType purpose)
    now = w
  have fresh : db.wallets.get? w.id = none := by
    rw [← added]
    exact numbered.fresh
  have changes : Changes db _ none (some w) := changes_insert fresh (db.seq + 1)
  have slot : w.userId = userId ∧ w.typeValue = typeValue := by
    rw [← added]
    exact ⟨rfl, rfl⟩
  rw [oneMain_iff_of_others good (changes.others (fun v own => by cases own)
    fun v own => by cases own; exact slot)]
  have keys := changes.keys userId typeValue
  have mains := changes.mains userId typeValue
  have most := good.most userId typeValue
  have least := good.least userId typeValue
  have fewer := db.mainsOf_le_keysOf userId typeValue
  by_cases exchange : walletType = .exchange
  · have counts : isKeyFor userId typeValue w.toStoredWallet = true := by
      rw [← added]
      simp [isKeyFor, createdWallet, exchange]
    have flag : isMainFor userId typeValue w = decide (db.mainsOf userId typeValue = 0) := by
      unfold isMainFor
      rw [counts, ← added]
      simp [createdWallet, exchange, hasMainForVenue, Nat.pos_iff_ne_zero]
    simp only [Option.any_some, Option.any_none, counts, flag, Bool.false_eq_true, if_false, if_true,
      decide_eq_true_eq] at keys mains
    split at mains
    · omega
    · omega
  · have skipped : isKeyFor userId typeValue w.toStoredWallet = false := by
      rw [← added]
      simp [isKeyFor, createdWallet, exchange]
    have flag : isMainFor userId typeValue w = false := by
      unfold isMainFor
      rw [skipped]
      rfl
    simp only [Option.any_some, Option.any_none, skipped, flag, Bool.false_eq_true, if_false] at keys mains
    omega

theorem oneMain_update (good : db.OneMain) (userId id : Nat) (purpose : Option WalletPurpose)
    (tradeSupported : Bool) : (db.updateWallet userId id purpose tradeSupported).OneMain := by
  unfold updateWallet
  split
  case h_1 w purpose found =>
    split
    · exact good
    split
    · exact good
    · obtain ⟨stored, -, -⟩ := get?_of_getWallet found
      exact (changes_set stored (fun w => { w with purpose }) fun _ => rfl).oneMain_of_kept good
        (fun _ _ => rfl) fun _ _ => rfl
  case h_2 => exact good

/-- A request keeps the flags right if and only if it spares them. -/
theorem oneMain_step_iff (good : db.OneMain) (numbered : db.Numbered) {op : Op}
    (stepped : db.step op = some db') : db'.OneMain ↔ db.SparesMain op := by
  cases op with
  | create userId limits walletType typeValue purpose now =>
      cases stepped
      exact iff_of_true (oneMain_create good numbered userId limits walletType typeValue purpose now)
        trivial
  | setMain userId id =>
      cases stepped
      exact oneMain_setMain good userId id
  | archive userId id =>
      cases stepped
      exact oneMain_archive good userId id
  | unarchive userId limits id =>
      cases stepped
      exact oneMain_unarchive good userId limits id
  | update userId id purpose tradeSupported =>
      cases stepped
      exact iff_of_true (oneMain_update good userId id purpose tradeSupported) trivial
  | delete userId id =>
      cases stepped
      exact oneMain_delete good userId id

/-! ## Every sequence of requests -/

theorem oneMain_empty : OneMain {} := by
  refine ⟨fun _ _ => Nat.zero_le 1, fun _ _ keys => ?_⟩
  cases keys

theorem preserves_oneMain :
    Preserves step SparesMain fun db => db.OneMain ∧ db.Numbered := by
  intro db op db' sound spares stepped
  exact ⟨(oneMain_step_iff sound.1 sound.2 stepped).mpr spares, numbered_step sound.2 stepped⟩

/-- As long as the requests spare the flags, every venue has one main key, and the next request
leaves it so if and only if it spares them. -/
theorem oneMain_of_run (run : Run step SparesMain {} db) : db.OneMain ∧
    ∀ op db', db.step op = some db' → (db'.OneMain ↔ db.SparesMain op) := by
  have none_ : Numbered {} := by
    intro w member
    cases member
  obtain ⟨good, numbered⟩ := run.invariant preserves_oneMain ⟨oneMain_empty, none_⟩
  exact ⟨good, fun op db' stepped => oneMain_step_iff good numbered stepped⟩

/-! ## Sequences that go wrong -/

def unlimited : WalletLimits := ⟨-1, -1⟩

/-- A trading key of binance. -/
def binanceKey : Op := .create 1 unlimited .exchange "binance" .screener 0

/-- Two keys, and the flag moved to the second. -/
theorem oneMain_two : ∃ db, exec step {} [binanceKey, binanceKey, .setMain 1 1] = some db ∧
    db.OneMain := by
  have start : Run step SparesMain {} {} := Run.refl _
  have first := start.tail (a := binanceKey) trivial rfl
  have second := first.tail (a := binanceKey) trivial rfl
  have spares : SparesMain ((createWallet {} 1 unlimited .exchange "binance" .screener 0).createWallet
      1 unlimited .exchange "binance" .screener 0) (.setMain 1 1) := by
    intro w found _ archived
    cases found
    cases archived
  have marked := second.tail spares rfl
  exact ⟨_, rfl, (oneMain_of_run marked).1⟩

/-- The main key is archived beside another, and comes back beside the next one. -/
theorem oneMain_broken :
    (¬∀ db, Run step (fun _ _ => True) {} db → ∀ userId venue,
      0 < db.keysOf userId venue → db.mainsOf userId venue = 1) ∧
    ¬∀ db, Run step (fun _ _ => True) {} db → ∀ userId venue, db.mainsOf userId venue ≤ 1 := by
  have archived : (exec step {} [binanceKey, binanceKey, .archive 1 0]).map (fun db =>
      (db.keysOf 1 "binance", db.mainsOf 1 "binance")) = some (1, 0) := by decide +kernel
  have returned : (exec step {} [binanceKey, binanceKey, .archive 1 0, binanceKey,
      .unarchive 1 unlimited 0]).map (fun db => db.mainsOf 1 "binance") = some 2 := by
    decide +kernel
  refine ⟨fun least => ?_, fun most => ?_⟩
  · obtain ⟨db, reached, counted⟩ := Option.map_eq_some_iff.mp archived
    obtain ⟨keys, mains⟩ := Prod.mk.inj counted
    have one := least db (Run.of_exec reached) 1 "binance" (by omega)
    omega
  · obtain ⟨db, reached, mains⟩ := Option.map_eq_some_iff.mp returned
    have one := most db (Run.of_exec reached) 1 "binance"
    omega

end MainDb

end Wallets

end Avalant
