import Avalant.Db.Models
import Avalant.Lib.Tasks

/-!
The wallets of a user, and the limits of the plan: a number of portfolio wallets, and a number of
exchange keys for each venue.

A creation locks the row of the user, counts, and inserts. The other requests take no lock: they
read a row, some of them count, and a later statement writes the columns they have changed.
-/

namespace Avalant

open Relational Transition

namespace Wallets

/-! ## Rows -/

structure StoredWallet extends Wallet where
  createdAt : ℤ
  deriving DecidableEq, Repr

instance : Keyed StoredWallet := ⟨fun w => w.id⟩

structure WalletDb where
  wallets : Table StoredWallet := Table.empty
  seq : Nat := 0

/-- The columns of a row that a flush writes. -/
structure WalletSet where
  purpose : Option WalletPurpose
  isArchived : Option Bool

def WalletSet.diff (loaded new : StoredWallet) : WalletSet where
  purpose := Python.dirty loaded.purpose new.purpose
  isArchived := Python.dirty loaded.isArchived new.isArchived

def WalletSet.apply (set : WalletSet) (row : StoredWallet) : StoredWallet :=
  { row with
    purpose := set.purpose.getD row.purpose
    isArchived := set.isArchived.getD row.isArchived }

/-- `UPDATE wallets SET … WHERE id = …`. -/
def WalletDb.set (db : WalletDb) (id : Nat) (set : WalletSet) : WalletDb :=
  { db with
    wallets := db.wallets.map (fun row => if row.id = id then set.apply row else row)
      fun row => by split <;> rfl }

/-! ## Limits -/

/-- The two limits of `EffectiveLimits`; a negative one is unlimited. -/
structure WalletLimits where
  portfolioLimit : ℤ
  exchangeKeysPerVenue : ℤ

/-- `is_unlimited`. -/
def isUnlimited (value : ℤ) : Bool := value < 0

/-- `purpose in ("portfolio", "both")`. -/
def inPortfolio (purpose : WalletPurpose) : Bool :=
  purpose = .portfolio ∨ purpose = .both

/-- `purpose in ("screener", "both")`. -/
def inScreener (purpose : WalletPurpose) : Bool :=
  purpose = .screener ∨ purpose = .both

/-- The rows of `_portfolio_count`. -/
def countsInPortfolio (userId : Nat) (w : StoredWallet) : Bool :=
  w.userId = userId ∧ !w.isArchived ∧ inPortfolio w.purpose

/-- The rows of `_exchange_keys_for_venue`. -/
def isKeyFor (userId : Nat) (venue : String) (w : StoredWallet) : Bool :=
  w.userId = userId ∧ !w.isArchived ∧ w.walletType = .exchange ∧ w.typeValue = venue

def portfolioCount (db : WalletDb) (userId : Nat) : Nat :=
  db.wallets.rows.countP (countsInPortfolio userId)

def exchangeKeysForVenue (db : WalletDb) (userId : Nat) (venue : String) : Nat :=
  db.wallets.rows.countP (isKeyFor userId venue)

/-- `_portfolio_wallets`: the oldest first. -/
def portfolioWallets (db : WalletDb) (userId : Nat) : List StoredWallet :=
  (db.wallets.where_ (countsInPortfolio userId)).mergeSort fun w w' => w.createdAt ≤ w'.createdAt

/-! ## Requests -/

/-- A wallet to be created, with the purpose that it will have. -/
structure NewWallet where
  walletType : WalletType
  typeValue : String
  purpose : WalletPurpose
  deriving DecidableEq

inductive WalletRequest
  | create (walletType : WalletType) (typeValue : String) (purpose : WalletPurpose)
  | archive (id : Nat)
  | unarchive (id : Nat)
  | update (id : Nat) (purpose : Option WalletPurpose)
  | enforce

/-- The next statement of a request. -/
inductive WalletTask
  | createLock (w : NewWallet)
  | createPortfolio (w : NewWallet)
  | createVenue (w : NewWallet)
  | createInsert (w : NewWallet)
  | archiveRead (id : Nat)
  | archiveWrite (loaded : StoredWallet)
  | unarchiveRead (id : Nat)
  | unarchiveCheck (loaded : StoredWallet)
  | unarchiveWrite (loaded : StoredWallet)
  | updateRead (id : Nat) (purpose : Option WalletPurpose)
  | updateCheck (loaded : StoredWallet) (purpose : WalletPurpose)
  | updateWrite (loaded : StoredWallet) (purpose : WalletPurpose)
  | enforceRead
  | enforceWrite (surplus : List StoredWallet)

/-- What a statement reads besides the database. -/
inductive WalletInput
  /-- The clock, and whether the venue of the wallet is one to trade on. -/
  | statement (now : ℤ) (tradeSupported : Bool)
  /-- The request fails and is rolled back. -/
  | fail

/-- The purpose that a new wallet gets. -/
def createPurpose : WalletType → WalletPurpose → WalletPurpose
  | .exchange, purpose => purpose
  | .perpdex, purpose => if purpose ≠ .portfolio then purpose else .both
  | .chain, _ => .portfolio

def firstTask : WalletRequest → WalletTask
  | .create walletType typeValue purpose =>
      .createLock ⟨walletType, typeValue, createPurpose walletType purpose⟩
  | .archive id => .archiveRead id
  | .unarchive id => .unarchiveRead id
  | .update id purpose => .updateRead id purpose
  | .enforce => .enforceRead

/-- Whether a task holds the row of the user. -/
def WalletTask.locks : WalletTask → Bool
  | .createPortfolio _ | .createVenue _ | .createInsert _ => true
  | _ => false

/-- What `archive_wallet` makes of a row. -/
def archived (loaded : StoredWallet) : StoredWallet :=
  { loaded with isArchived := true }

/-- What `unarchive_wallet` makes of a row. -/
def unarchived (loaded : StoredWallet) : StoredWallet :=
  { loaded with isArchived := false }

/-- What `update_wallet` makes of a row. -/
def repurposed (loaded : StoredWallet) (purpose : WalletPurpose) : StoredWallet :=
  { loaded with purpose }

/-- What `enforce_for_user` makes of a surplus row. -/
def enforced (loaded : StoredWallet) : StoredWallet :=
  if loaded.purpose = .both then { loaded with purpose := .screener, isArchived := false }
  else { loaded with isArchived := true }

section

variable (userId : Nat) (limits : WalletLimits)

/-- `_get_wallet`. -/
def getWallet (db : WalletDb) (id : Nat) : Option StoredWallet :=
  (db.wallets.get? id).filter (·.userId = userId)

/-- Whether a wallet of this purpose is one too many. -/
def portfolioFull (db : WalletDb) (purpose : WalletPurpose) : Bool :=
  inPortfolio purpose && !isUnlimited limits.portfolioLimit &&
    limits.portfolioLimit ≤ portfolioCount db userId

/-- Whether a key of the venue is one too many. -/
def venueFull (db : WalletDb) (w : NewWallet) : Bool :=
  w.walletType = .exchange && !isUnlimited limits.exchangeKeysPerVenue &&
    limits.exchangeKeysPerVenue ≤ exchangeKeysForVenue db userId w.typeValue

def insertWallet (db : WalletDb) (w : NewWallet) (now : ℤ) : WalletDb where
  wallets := db.wallets.insert
    { id := db.seq, userId, walletType := w.walletType, typeValue := w.typeValue
      purpose := w.purpose, isArchived := false, createdAt := now }
  seq := db.seq + 1

/-- Another active key of the type and venue that is eligible for trading. -/
def duplicateScreenerKey (db : WalletDb) (loaded : StoredWallet) : Bool :=
  db.wallets.rows.any fun w =>
    w.userId = userId ∧ w.walletType = loaded.walletType ∧ w.typeValue = loaded.typeValue ∧
      inScreener w.purpose ∧ w.id ≠ loaded.id ∧ !w.isArchived

/-- The surplus of `enforce_for_user`. -/
def surplusWallets (db : WalletDb) : List StoredWallet :=
  let wallets := portfolioWallets db userId
  if isUnlimited limits.portfolioLimit || wallets.length ≤ limits.portfolioLimit then []
  else wallets.take (wallets.length - limits.portfolioLimit).toNat

/-- The statements of the requests. -/
def nextStatement (db : WalletDb) (others : List WalletTask) (now : ℤ) (tradeSupported : Bool) :
    WalletTask → Option (WalletDb × Option WalletTask)
  | .createLock w =>
      if others.any WalletTask.locks then none else some (db, some (.createPortfolio w))
  | .createPortfolio w =>
      some (db, if portfolioFull userId limits db w.purpose then none else some (.createVenue w))
  | .createVenue w =>
      some (db, if venueFull userId limits db w then none else some (.createInsert w))
  | .createInsert w => some (insertWallet userId db w now, none)
  | .archiveRead id => some (db, (getWallet userId db id).map .archiveWrite)
  | .archiveWrite loaded => some (db.set loaded.id (.diff loaded (archived loaded)), none)
  | .unarchiveRead id => some (db, (getWallet userId db id).map .unarchiveCheck)
  | .unarchiveCheck loaded =>
      some (db,
        if portfolioFull userId limits db loaded.purpose then none else some (.unarchiveWrite loaded))
  | .unarchiveWrite loaded => some (db.set loaded.id (.diff loaded (unarchived loaded)), none)
  | .updateRead id purpose =>
      some (db, (getWallet userId db id).bind fun loaded =>
        (purpose.filter fun _ => loaded.walletType ≠ .chain).map (.updateCheck loaded))
  | .updateCheck loaded purpose =>
      let needsTrade := inScreener purpose
      some (db,
        if needsTrade && (!tradeSupported || duplicateScreenerKey userId db loaded) then none
        else some (.updateWrite loaded purpose))
  | .updateWrite loaded purpose =>
      some (db.set loaded.id (.diff loaded (repurposed loaded purpose)), none)
  | .enforceRead => some (db, some (.enforceWrite (surplusWallets userId limits db)))
  | .enforceWrite surplus =>
      some (surplus.foldl (fun db w => db.set w.id (.diff w (enforced w))) db, none)

def walletProgram : Program WalletDb WalletTask WalletRequest WalletInput where
  start _ request := some (firstTask request)
  next db others input task :=
    match input with
    | .fail => some (db, none)
    | .statement now tradeSupported => nextStatement userId limits db others now tradeSupported task

/-! ## Caps -/

/-- Neither number is taken above its limit. -/
def KeepsCaps (db db' : WalletDb) : Prop :=
  (isUnlimited limits.portfolioLimit = false → portfolioCount db userId ≤ limits.portfolioLimit →
    portfolioCount db' userId ≤ limits.portfolioLimit) ∧
  ∀ venue, isUnlimited limits.exchangeKeysPerVenue = false →
    exchangeKeysForVenue db userId venue ≤ limits.exchangeKeysPerVenue →
      exchangeKeysForVenue db' userId venue ≤ limits.exchangeKeysPerVenue

/-- By every step of the runs under a condition, whatever wallets there are at first. -/
def AlwaysKeepsCaps (ok : WalletDb → List WalletTask → WalletInput → WalletTask → Prop) : Prop :=
  ∀ db s, Run (walletProgram userId limits).step (Program.guard ok) { store := db } s →
    ∀ event s', Program.guard ok s event → (walletProgram userId limits).step s event = some s' →
      KeepsCaps userId limits s.store s'.store

/-- A creation that has counted the portfolio and will add to it. -/
def reservesPortfolio : WalletTask → Bool
  | .createVenue w | .createInsert w => inPortfolio w.purpose
  | _ => false

/-- A creation that has counted the keys of the venue and will add one. -/
def reservesKey (venue : String) : WalletTask → Bool
  | .createInsert w => w.walletType = .exchange ∧ w.typeValue = venue
  | _ => false

/-- There is room for what a write adds, beside what a creation has been promised. -/
def RoomFor (db : WalletDb) (others : List WalletTask) (id : Nat) (set : WalletSet) : Prop :=
  ∀ row ∈ db.wallets.rows, row.id = id →
    (countsInPortfolio userId row = false → countsInPortfolio userId (set.apply row) = true →
      isUnlimited limits.portfolioLimit = false →
        (portfolioCount db userId + others.countP reservesPortfolio : ℤ) < limits.portfolioLimit) ∧
    ∀ venue, isKeyFor userId venue row = false → isKeyFor userId venue (set.apply row) = true →
      isUnlimited limits.exchangeKeysPerVenue = false →
        (exchangeKeysForVenue db userId venue + others.countP (reservesKey venue) : ℤ) <
          limits.exchangeKeysPerVenue

/-- A wallet is unarchived, or gets another purpose, only when there is room for it. -/
def Roomy (db : WalletDb) (others : List WalletTask) : WalletInput → WalletTask → Prop
  | .statement _ _, .unarchiveWrite loaded =>
      RoomFor userId limits db others loaded.id (.diff loaded (unarchived loaded))
  | .statement _ _, .updateWrite loaded purpose =>
      RoomFor userId limits db others loaded.id (.diff loaded (repurposed loaded purpose))
  | _, _ => True

end

end Wallets

end Avalant
