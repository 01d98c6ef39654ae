import Avalant.Lib.Run
import Avalant.Lib.Table
import Avalant.Leverage.StateCache

/-!
The leverage cache between concurrent open orders and position events.

An order looks the cache up and on a miss starts a `set_leverage` call, whose
effects on the venue, whose outcome and the entry it leaves come later and in
any order with those of other calls. `venue` is the leverage and margin mode each
account really has; only the calls of the system change it.
-/

namespace Avalant

open Relational Transition

/-- An account at a venue, whichever credentials trade on it. -/
structure VenueAccount where
  exchange : String
  number : Nat
  deriving DecidableEq, Repr

/-- Credentials as a wallet has or had them, with the number of the account they trade on. -/
structure LevWallet where
  walletType : WalletType
  typeValue : String
  creds : Creds
  number : Nat
  deriving DecidableEq, Repr

namespace LevWallet

/-- `ex`. -/
def exchange (w : LevWallet) : String :=
  Python.lower w.typeValue

def account (w : LevWallet) : VenueAccount :=
  ⟨w.exchange, w.number⟩

/-- The account and symbol whose setting an order of the wallet needs. -/
def target (w : LevWallet) (symbol : String) : VenueAccount × String :=
  (w.account, Python.upper symbol)

/-- The cache key of a symbol of the wallet. -/
def key (sha256 : String → String) (w : LevWallet) (symbol : String) : CacheKey :=
  cacheKey sha256 w.exchange w.creds symbol

/-- A wallet as `create_wallet` stores it. -/
def created (resolve : String → Option String) (body : WalletCreate) (number : Nat) : LevWallet :=
  ⟨body.walletType, body.typeValue, body.rawCreds resolve, number⟩

/-- A wallet as `update_wallet` leaves it. -/
def edited (w : LevWallet) (body : WalletUpdate) (number : Nat) : LevWallet :=
  { w with creds := body.editCreds w.walletType w.typeValue w.creds, number }

end LevWallet

/-- A `set_leverage` call in flight; `applied` once the venue has changed something for it. -/
structure SetCall where
  id : Nat
  wallet : LevWallet
  symbol : String
  setting : LevSetting
  applied : Bool := false
  deriving DecidableEq, Repr

instance : Keyed SetCall := ⟨SetCall.id⟩

@[simp] theorem key_setCall (call : SetCall) : key call = call.id := rfl

def SetCall.target (call : SetCall) : VenueAccount × String :=
  call.wallet.target call.symbol

/-- Settings of each account and symbol at the venues. -/
abbrev VenueSettings := VenueAccount × String → LevSetting

/-- Write a list of symbol settings of one account. -/
def VenueSettings.apply (venue : VenueSettings) (account : VenueAccount)
    (changes : List (String × LevSetting)) : VenueSettings :=
  fun target =>
    if target.1 = account then (changes.lookup target.2).getD (venue target) else venue target

structure LevSys where
  wallets : List LevWallet
  venue : VenueSettings
  cache : StateCache
  calls : Table SetCall
  now : Time

/-- A fresh process: no entry, no call, no wallet yet. -/
def LevSys.start (venue : VenueSettings) (now : Time) : LevSys :=
  ⟨[], venue, fun _ => none, Table.empty, now⟩

inductive LevAction
  /-- `create_wallet`; the account is the one the venue gives the credentials. -/
  | create (body : WalletCreate) (number : Nat)
  /-- `update_wallet`; orders and streams may go on with the old credentials. -/
  | update (w : LevWallet) (body : WalletUpdate) (number : Nat)
  /-- `_ensure_leverage` of an order, as far as the call it makes. -/
  | ensure (k : Nat) (w : LevWallet) (symbol : String) (setting : LevSetting)
  /-- The venue carries out some of what call `k` asks, or more than it asks. -/
  | venueApplies (k : Nat) (changes : List (String × LevSetting))
  /-- `set_leverage` returns, and the setting is recorded. -/
  | setOk (k : Nat)
  /-- `set_leverage` raises, or a failed preflight cancels it. -/
  | setFail (k : Nat)
  /-- The venue rejects an order, which invalidates the entry. -/
  | orderFailed (w : LevWallet) (symbol : String)
  /-- `_dispatch_event` of a position update. -/
  | event (w : LevWallet) (symbol : String) (setting : LevSetting)
  | wait (dt : Time)
  deriving DecidableEq, Repr

namespace LevSys

/-- The same credentials trade on the same account. -/
def Consistent (s : LevSys) (w : LevWallet) : Prop :=
  ∀ w' ∈ s.wallets, w'.exchange = w.exchange → w'.creds = w.creds → w'.number = w.number

instance (s : LevSys) (w : LevWallet) : Decidable (s.Consistent w) :=
  inferInstanceAs (Decidable (∀ _ ∈ _, _))

def addWallet (s : LevSys) (w : LevWallet) : Option LevSys :=
  if s.Consistent w then some { s with wallets := w :: s.wallets } else none

/-- `_state_cache.matches` for an order. -/
def hits (sha256 : String → String) (s : LevSys) (w : LevWallet) (symbol : String)
    (setting : LevSetting) : Bool :=
  s.cache.hits (w.key sha256 symbol) setting s.now

/-- A position event that `_dispatch_event` records. -/
def recordable (symbol : String) (setting : LevSetting) : Bool :=
  symbol != "" && setting.leverage != 0 && setting.marginMode != ""

def step (sha256 : String → String) (resolve : String → Option String) (s : LevSys) :
    LevAction → Option LevSys
  | .create body number => s.addWallet (.created resolve body number)
  | .update w body number => if w ∈ s.wallets then s.addWallet (w.edited body number) else none
  | .ensure k w symbol setting =>
      if w ∉ s.wallets ∨ (s.calls.get? k).isSome then none
      else if s.hits sha256 w symbol setting then some s
      else some { s with calls := s.calls.insert { id := k, wallet := w, symbol, setting } }
  | .venueApplies k changes =>
      (s.calls.get? k).map fun call =>
        { s with
          venue := s.venue.apply call.wallet.account changes
          calls := s.calls.put { call with applied := true } }
  | .setOk k =>
      (s.calls.get? k).map fun call =>
        { s with
          cache := s.cache.record (call.wallet.key sha256 call.symbol) call.setting s.now
          calls := s.calls.erase k }
  | .setFail k => (s.calls.get? k).map fun _ => { s with calls := s.calls.erase k }
  | .orderFailed w symbol =>
      if w ∈ s.wallets then some { s with cache := s.cache.invalidate (w.key sha256 symbol) }
      else none
  | .event w symbol setting =>
      if w ∉ s.wallets then none
      else if recordable symbol setting then
        some { s with cache := s.cache.record (w.key sha256 symbol) setting s.now }
      else some s
  | .wait dt => if 0 ≤ dt then some { s with now := s.now + dt } else none

end LevSys

end Avalant
