import Avalant.Db.Models

/-!
The leverage cache (`trade_adapters/_state_cache.py`) and the credentials its
keys are made of.

A key is the exchange, twelve characters of a hash of `api_key or
wallet_address or ""`, and the symbol. Which of these two a wallet's
credentials have is decided when the wallet is created. `sha256` stands for the
hex digest of `hashlib`.
-/

namespace Avalant

/-! ## Stored credentials -/

/-- The decrypted `credentials` of a wallet; `walletAddress` is a key that only the cache and
a stream look up. -/
structure Creds where
  address : Option String := none
  apiKey : Option String := none
  apiSecret : Option String := none
  apiPassphrase : Option String := none
  apiToken : Option String := none
  privateKey : Option String := none
  walletAddress : Option String := none
  deriving DecidableEq, Repr

/-- The credential fields of a `POST /wallets` body. -/
structure WalletCreate where
  walletType : WalletType
  typeValue : String
  apiKey : Option String := none
  apiSecret : Option String := none
  apiPassphrase : Option String := none
  address : Option String := none
  apiToken : Option String := none
  privateKey : Option String := none
  l2PrivateKey : Option String := none
  accountIndex : Option String := none
  apiKeyIndex : Option String := none
  deriving DecidableEq, Repr

/-- `if x: creds[k] = x.strip()`. -/
def strippedField (x : Option String) : Option String :=
  (Python.nonEmpty x).map Python.strip

/-- `_build_perpdex_creds`. `resolve` is the venue's lookup of a Lighter account index by
address. -/
def WalletCreate.buildPerpdexCreds (resolve : String → Option String) (body : WalletCreate) :
    Creds :=
  let creds : Creds := { address := strippedField body.address }
  match Python.lower body.typeValue with
  | "lighter" =>
      let index := Python.nonEmpty ((body.apiKeyIndex.map Python.strip).or (some ""))
      { creds with
        apiKey :=
          match strippedField body.accountIndex, strippedField body.address with
          | some index, _ => some index
          | none, some address => Python.nonEmpty (resolve address)
          | none, none => none
        apiSecret := strippedField body.privateKey
        apiPassphrase :=
          index.or (if (Python.nonEmpty body.privateKey).isSome then some "255" else none) }
  | "paradex" =>
      { creds with
        apiToken := strippedField body.apiToken
        privateKey := strippedField body.l2PrivateKey
        apiPassphrase := strippedField body.apiPassphrase }
  | "hyperliquid" | "ethereal" => { creds with apiSecret := strippedField body.privateKey }
  | "extended" =>
      { creds with
        apiKey := strippedField body.apiKey
        privateKey := (strippedField body.l2PrivateKey).or (strippedField body.privateKey)
        apiPassphrase := strippedField body.apiPassphrase }
  | _ => creds

/-- `raw_creds` of `create_wallet`. -/
def WalletCreate.rawCreds (resolve : String → Option String) (body : WalletCreate) : Creds :=
  if body.walletType = .exchange ∨ (body.walletType = .perpdex ∧ body.typeValue = "aster") then
    { apiKey := body.apiKey.map Python.strip
      apiSecret := body.apiSecret.map Python.strip
      apiPassphrase := strippedField body.apiPassphrase }
  else if body.walletType = .perpdex then body.buildPerpdexCreds resolve
  else { address := body.address.map Python.strip }

/-- The credential fields of a `PATCH /wallets/{id}` body. -/
structure WalletUpdate where
  apiKey : Option String := none
  apiSecret : Option String := none
  apiPassphrase : Option String := none
  address : Option String := none
  apiToken : Option String := none
  privateKey : Option String := none
  l2PrivateKey : Option String := none
  accountIndex : Option String := none
  apiKeyIndex : Option String := none
  deriving DecidableEq, Repr

/-- The credentials part of `update_wallet`: a field left out or empty keeps the stored one,
except a CEX passphrase, which the empty string removes. -/
def WalletUpdate.editCreds (body : WalletUpdate) (walletType : WalletType) (typeValue : String)
    (creds : Creds) : Creds :=
  if walletType = .exchange ∨ (walletType = .perpdex ∧ typeValue = "aster") then
    { creds with
      apiKey := (strippedField body.apiKey).or creds.apiKey
      apiSecret := (strippedField body.apiSecret).or creds.apiSecret
      apiPassphrase :=
        match body.apiPassphrase with
        | none => creds.apiPassphrase
        | some passphrase => strippedField (some passphrase) }
  else if walletType = .perpdex then
    let creds := { creds with address := (strippedField body.address).or creds.address }
    match Python.lower typeValue with
    | "lighter" =>
        { creds with
          apiKey := (strippedField body.accountIndex).or creds.apiKey
          apiSecret := (strippedField body.privateKey).or creds.apiSecret
          apiPassphrase := (strippedField body.apiKeyIndex).or creds.apiPassphrase }
    | "paradex" =>
        { creds with
          apiToken := (strippedField body.apiToken).or creds.apiToken
          privateKey := (strippedField body.l2PrivateKey).or creds.privateKey
          apiPassphrase := (strippedField body.apiPassphrase).or creds.apiPassphrase }
    | "hyperliquid" | "ethereal" =>
        { creds with apiSecret := (strippedField body.privateKey).or creds.apiSecret }
    | _ => creds
  else { creds with address := (strippedField body.address).or creds.address }

/-! ## The cache -/

/-- `_acct_key`. -/
def acctKey (sha256 : String → String) (creds : Creds) : String :=
  Python.take 12 (sha256 (Python.orStr creds.apiKey (Python.orStr creds.walletAddress "")))

structure CacheKey where
  exchange : String
  acct : String
  symbol : String
  deriving DecidableEq, Repr

/-- A leverage and a margin mode. -/
structure LevSetting where
  leverage : Nat
  marginMode : String
  deriving DecidableEq, Repr

structure CacheEntry where
  setting : LevSetting
  appliedAt : Time
  deriving DecidableEq, Repr

/-- `_applied`. -/
abbrev StateCache := CacheKey → Option CacheEntry

/-- `_DEFAULT_TTL_S`. -/
def defaultTtlS : Time := 600

/-- The key of an account's symbol. -/
def cacheKey (sha256 : String → String) (exchange : String) (creds : Creds) (symbol : String) :
    CacheKey :=
  ⟨exchange, acctKey sha256 creds, Python.upper symbol⟩

/-- `matches`. -/
def StateCache.hits (cache : StateCache) (key : CacheKey) (setting : LevSetting) (now : Time) :
    Bool :=
  match cache key with
  | none => false
  | some entry => entry.setting == setting && decide (now - entry.appliedAt < defaultTtlS)

/-- `record`. -/
def StateCache.record (cache : StateCache) (key : CacheKey) (setting : LevSetting) (now : Time) :
    StateCache :=
  fun other => if other = key then some ⟨setting, now⟩ else cache other

/-- `invalidate`. -/
def StateCache.invalidate (cache : StateCache) (key : CacheKey) : StateCache :=
  fun other => if other = key then none else cache other

theorem StateCache.hits_iff {cache : StateCache} {key : CacheKey} {setting : LevSetting}
    {now : Time} : cache.hits key setting now = true ↔
      ∃ entry, cache key = some entry ∧ entry.setting = setting ∧
        now - entry.appliedAt < defaultTtlS := by
  unfold hits
  cases cache key with
  | none => simp
  | some entry => simp

theorem StateCache.record_eq_some {cache : StateCache} {key other : CacheKey}
    {setting : LevSetting} {now : Time} {entry : CacheEntry}
    (stored : cache.record key setting now other = some entry) :
    (other = key ∧ entry = ⟨setting, now⟩) ∨ (other ≠ key ∧ cache other = some entry) := by
  unfold record at stored
  split at stored
  case isTrue same =>
    cases stored
    exact Or.inl ⟨same, rfl⟩
  case isFalse different => exact Or.inr ⟨different, stored⟩

theorem StateCache.invalidate_eq_some {cache : StateCache} {key other : CacheKey}
    {entry : CacheEntry} (stored : cache.invalidate key other = some entry) :
    cache other = some entry := by
  unfold invalidate at stored
  split at stored
  · cases stored
  · exact stored

/-! ## One key for many accounts -/

/-- Venues whose wallets carry neither an api key nor a `wallet_address`. -/
def keylessVenues : List String :=
  ["hyperliquid", "ethereal", "paradex"]

/-- Every wallet of such a venue has the same account key, that of the empty string. -/
theorem acctKey_of_keyless {sha256 : String → String} {resolve : String → Option String}
    {body : WalletCreate} (perpdex : body.walletType = .perpdex)
    (keyless : body.typeValue ∈ keylessVenues) :
    acctKey sha256 (body.rawCreds resolve) = Python.take 12 (sha256 "") := by
  have lowerCase : ∀ venue ∈ keylessVenues, Python.lower venue = venue := by decide +kernel
  have lower := lowerCase _ keyless
  simp only [keylessVenues, List.mem_cons, List.not_mem_nil, or_false] at keyless
  rcases keyless with venue | venue | venue <;>
    · rw [venue] at lower
      simp [acctKey, WalletCreate.rawCreds, WalletCreate.buildPerpdexCreds, perpdex, venue, lower,
        Python.orStr]

end Avalant
