import Avalant.Leverage.StateCache
import Avalant.Wallets.Service

/-!
The `credentials` column of a wallet: what `POST /wallets` accepts, what
`create_wallet` stores of it, and what `update_wallet` makes of the stored
object.

The fields of a request are mapped to stored keys in two places, once for each
of the two functions. The mappings agree except on two perpetual DEXes: the
update of a Lighter wallet has none of the defaults of its creation, and the
update of an Extended wallet has no branch, so only its address is written.
-/

namespace Avalant

/-! ## The column -/

/-- The JSON object of a `credentials` column. -/
abbrev Credentials := String → Option String

def Credentials.empty : Credentials := fun _ => none

namespace Creds

/-- The named keys of an object. -/
def ofCredentials (object : Credentials) : Creds where
  address := object "address"
  apiKey := object "api_key"
  apiSecret := object "api_secret"
  apiPassphrase := object "api_passphrase"
  apiToken := object "api_token"
  privateKey := object "private_key"
  walletAddress := object "wallet_address"

/-- An object with its named keys replaced. -/
def into (creds : Creds) (object : Credentials) : Credentials
  | "address" => creds.address
  | "api_key" => creds.apiKey
  | "api_secret" => creds.apiSecret
  | "api_passphrase" => creds.apiPassphrase
  | "api_token" => creds.apiToken
  | "private_key" => creds.privateKey
  | "wallet_address" => creds.walletAddress
  | key => object key

/-- The keys of `new`, and those of `old` that `new` does not have. -/
def overlay (new old : Creds) : Creds where
  address := new.address.or old.address
  apiKey := new.apiKey.or old.apiKey
  apiSecret := new.apiSecret.or old.apiSecret
  apiPassphrase := new.apiPassphrase.or old.apiPassphrase
  apiToken := new.apiToken.or old.apiToken
  privateKey := new.privateKey.or old.privateKey
  walletAddress := new.walletAddress.or old.walletAddress

@[simp] theorem ofCredentials_into (creds : Creds) (object : Credentials) :
    ofCredentials (creds.into object) = creds := by
  simp [ofCredentials, into]

theorem into_overlay (new : Creds) (object : Credentials) (key : String) :
    (new.overlay (ofCredentials object)).into object key =
      (new.into Credentials.empty key).or (object key) := by
  unfold into
  split <;> simp [overlay, ofCredentials, Credentials.empty]

/-- Two objects with the same other keys differ in a named one. -/
theorem into_inj {creds creds' : Creds} {object : Credentials}
    (same : creds.into object = creds'.into object) : creds = creds' := by
  rw [← ofCredentials_into creds object, same, ofCredentials_into]

end Creds

/-- An object `after` has every value of `new`, and is `before` at the other keys. -/
def Overlaid (new before after : Credentials) : Prop :=
  (∀ key value, new key = some value → after key = some value) ∧
    ∀ key, new key = none → after key = before key

theorem overlaid_iff {new before after : Credentials} :
    Overlaid new before after ↔ ∀ key, after key = (new key).or (before key) := by
  constructor
  · intro overlaid key
    cases found : new key with
    | none => simpa using overlaid.2 key found
    | some value => simpa using overlaid.1 key value found
  · intro same
    refine ⟨fun key value found => ?_, fun key found => ?_⟩
    · rw [same key, found]
      rfl
    · rw [same key, found]
      rfl

theorem Creds.overlaid_into_iff {new edited : Creds} {before : Credentials} :
    Overlaid (new.into Credentials.empty) before (edited.into before) ↔
      edited = new.overlay (ofCredentials before) := by
  rw [overlaid_iff]
  constructor
  · intro same
    have written : edited.into before = (new.overlay (ofCredentials before)).into before := by
      funext key
      rw [same key, into_overlay]
    exact into_inj written
  · intro same key
    rw [same, into_overlay]

/-! ## Encryption (`crypto.py`) -/

/-- A `Fernet` with the derived key. Each call of `encrypt` draws an initialization vector, and
`decrypt` is `none` for an invalid token. -/
structure Fernet (Iv : Type) where
  encrypt : Iv → String → String
  decrypt : String → Option String
  decrypt_encrypt : ∀ iv text, decrypt (encrypt iv text) = some text
  encrypt_ne_empty : ∀ iv text, encrypt iv text ≠ ""

section Encryption

variable {Iv : Type} (fernet : Fernet Iv)

/-- `decrypt_value`: a legacy plain text is returned as it is. -/
def decryptValue (value : String) : String :=
  (fernet.decrypt value).getD value

/-- `encrypt_credentials`, with the vector drawn for each key. -/
def encryptCredentials (ivs : String → Iv) (object : Credentials) : Credentials := fun key =>
  (object key).map fun value => if value = "" then value else fernet.encrypt (ivs key) value

/-- `decrypt_credentials`. -/
def decryptCredentials (object : Credentials) : Credentials := fun key =>
  (object key).map fun value => if value = "" then value else decryptValue fernet value

/-- `decrypt_credentials(wallet.credentials or {})`. -/
def plainCredentials (stored : Option Credentials) : Credentials :=
  decryptCredentials fernet (stored.getD Credentials.empty)

@[simp] theorem decryptCredentials_encryptCredentials (ivs : String → Iv) (object : Credentials) :
    decryptCredentials fernet (encryptCredentials fernet ivs object) = object := by
  funext key
  cases found : object key with
  | none => simp [decryptCredentials, encryptCredentials, found]
  | some value =>
      by_cases empty : value = ""
      · simp [decryptCredentials, encryptCredentials, found, empty]
      · simp [decryptCredentials, encryptCredentials, found, empty, decryptValue,
          fernet.decrypt_encrypt, fernet.encrypt_ne_empty]

end Encryption

/-! ## What the endpoint accepts (`api/v1/wallets.py`) -/

/-- The answer of an adapter's `validate_key`. -/
structure KeyCheck where
  canRead : Bool
  canTrade : Bool
  error : Option String := none

/-- What the endpoint asks of the providers and of the admin settings. `validateKey` is `none`
where the venue has no adapter that checks keys. -/
structure Providers where
  disabled : WalletType → String → Bool
  needsPassphrase : String → Bool
  tradeSupported : String → Bool
  validateKey : String → Creds → Bool → Option KeyCheck

/-- `if failing: raise HTTPException(code, detail)`. -/
def refuseIf (failing : Bool) (code : Nat) (detail : String) : Option HttpError :=
  if failing then some ⟨code, detail⟩ else none

/-- `not x`. -/
def missing (x : Option String) : Bool :=
  (Python.nonEmpty x).isNone

namespace WalletCreate

/-- A wallet with an exchange key and secret. -/
def keyed (body : WalletCreate) : Bool :=
  body.walletType = .exchange ∨ (body.walletType = .perpdex ∧ body.typeValue = "aster")

/-- The admin's switch for the provider. -/
def disabledRefusal (providers : Providers) (body : WalletCreate) : Option HttpError :=
  refuseIf (providers.disabled body.walletType (Python.lower body.typeValue)) 403
    (if body.walletType = .chain then
      body.typeValue ++ " chain is currently disabled by admin"
    else body.typeValue ++ " is currently disabled by admin")

/-- The live check of an exchange key. -/
def keyRefusal (providers : Providers) (body : WalletCreate) (needTrade : Bool) :
    Option HttpError :=
  let creds : Creds :=
    { apiKey := body.apiKey.map Python.strip
      apiSecret := body.apiSecret.map Python.strip
      apiPassphrase := strippedField body.apiPassphrase }
  (providers.validateKey body.typeValue creds needTrade).bind fun result =>
    (refuseIf (!result.canRead) 400 (Python.orStr result.error "Key validation failed")).or
      (refuseIf (needTrade && !result.canTrade) 400
        (Python.orStr result.error "Key has no trading permission"))

/-- The checks of an exchange wallet and of Aster. -/
def keyedRefusal (providers : Providers) (needTrade : Bool) (body : WalletCreate) :
    Option HttpError :=
  (refuseIf (missing body.apiKey || missing body.apiSecret) 422
    "api_key and api_secret are required").or <|
  if body.walletType = .exchange then
    (refuseIf (providers.needsPassphrase body.typeValue && missing body.apiPassphrase) 422
      (body.typeValue ++ " requires api_passphrase")).or <|
    (refuseIf (needTrade && !providers.tradeSupported body.typeValue) 400
      ("Screener trading on " ++ body.typeValue ++
        " is not yet supported. Add this key for Portfolio only.")).or <|
    body.keyRefusal providers needTrade
  else none

/-- The key a perpetual DEX signs orders with. -/
def tradeRefusal (body : WalletCreate) : Option HttpError :=
  let tv := Python.lower body.typeValue
  (refuseIf ((tv = "hyperliquid" || tv = "ethereal") && missing body.privateKey) 422
    (tv ++ " trading requires private_key (EVM key for order signing)")).or <|
  (refuseIf (tv = "paradex" && missing body.l2PrivateKey) 422
    "paradex trading requires l2_private_key (StarkNet L2 key)").or <|
  (refuseIf (tv = "lighter" && missing body.accountIndex) 422
    "lighter trading requires account_index (numeric)").or <|
  refuseIf (tv = "lighter" && missing body.privateKey) 422
    "lighter trading requires private_key (hex ZK private key)"

/-- The checks of a chain wallet and of a perpetual DEX. -/
def addressRefusal (needTrade : Bool) (body : WalletCreate) : Option HttpError :=
  let perpdex : Bool := body.walletType = .perpdex
  (refuseIf (missing body.address &&
      !(perpdex && Python.lower body.typeValue = "lighter" && !missing body.accountIndex)) 422
    "address is required for chain/perpdex wallets").or <|
  (refuseIf (perpdex && body.typeValue = "paradex" && missing body.apiToken &&
      missing body.l2PrivateKey) 422
    ("paradex requires either l2_private_key (recommended — subkey from paradex.trade UI) " ++
      "or api_token")).or <|
  if perpdex && needTrade then body.tradeRefusal else none

/-- The first check of `POST /wallets` that the body fails. -/
def refusal (providers : Providers) (purpose : WalletPurpose) (body : WalletCreate) :
    Option HttpError :=
  (body.disabledRefusal providers).or <|
  if body.keyed then body.keyedRefusal providers (Wallets.inScreener purpose)
  else body.addressRefusal (Wallets.inScreener purpose)

/-- `create_wallet` strips `api_key` and `api_secret`, or `address`, without a look at `None`. -/
def complete (body : WalletCreate) : Bool :=
  if body.keyed then body.apiKey.isSome && body.apiSecret.isSome
  else body.walletType = .perpdex || body.address.isSome

/-- The column of `create_wallet`; `none` is the `AttributeError` of a `None`. -/
def credentials {Iv : Type} (fernet : Fernet Iv) (ivs : String → Iv)
    (resolve : String → Option String) (body : WalletCreate) : Option Credentials :=
  if body.complete then
    some (encryptCredentials fernet ivs ((body.rawCreds resolve).into Credentials.empty))
  else none

/-- The credential fields of the body, for `PATCH`. -/
def toUpdate (body : WalletCreate) : WalletUpdate where
  apiKey := body.apiKey
  apiSecret := body.apiSecret
  apiPassphrase := body.apiPassphrase
  address := body.address
  apiToken := body.apiToken
  privateKey := body.privateKey
  l2PrivateKey := body.l2PrivateKey
  accountIndex := body.accountIndex
  apiKeyIndex := body.apiKeyIndex

/-- The credential fields. -/
def fields (body : WalletCreate) : List (Option String) :=
  [body.apiKey, body.apiSecret, body.apiPassphrase, body.address, body.apiToken, body.privateKey,
    body.l2PrivateKey, body.accountIndex, body.apiKeyIndex]

/-- No field is the empty string. -/
def Filled (body : WalletCreate) : Prop :=
  some "" ∉ body.fields

instance (body : WalletCreate) : Decidable body.Filled :=
  inferInstanceAs (Decidable (some "" ∉ body.fields))

end WalletCreate

/-- The column `update_wallet` writes for a wallet of a type and venue. -/
def WalletUpdate.credentials {Iv : Type} (fernet : Fernet Iv) (ivs : String → Iv)
    (walletType : WalletType) (typeValue : String) (stored : Option Credentials)
    (body : WalletUpdate) : Credentials :=
  let object := plainCredentials fernet stored
  encryptCredentials fernet ivs
    ((body.editCreds walletType typeValue (Creds.ofCredentials object)).into object)

/-! ## Update against create -/

section

variable {Iv : Type} (fernet : Fernet Iv) (resolve : String → Option String)

/-- Sent to an existing wallet of the venue, the fields leave each value that a creation with them
stores, and the other keys as they were. -/
def UpdatesLikeCreate (ivs ivs' : String → Iv) (stored : Option Credentials)
    (body : WalletCreate) : Prop :=
  ∃ created, body.credentials fernet ivs resolve = some created ∧
    Overlaid (decryptCredentials fernet created) (plainCredentials fernet stored)
      (decryptCredentials fernet
        (body.toUpdate.credentials fernet ivs' body.walletType body.typeValue stored))

/-- The account index that a creation looks up for a Lighter wallet. -/
def resolvedIndex (body : WalletCreate) : Option String :=
  (strippedField body.address).bind fun address => Python.nonEmpty (resolve address)

/-- The fields of a Lighter request leave nothing to a default of the creation, or its value is
stored already. -/
structure LighterCovers (old : Creds) (body : WalletCreate) : Prop where
  accountIndex : body.accountIndex = none →
    ∀ index ∈ resolvedIndex resolve body, old.apiKey = some index
  apiKeyIndex : body.apiKeyIndex = none → body.privateKey ≠ none →
    old.apiPassphrase = some "255"
  blankIndex : ∀ index ∈ body.apiKeyIndex, Python.strip index = "" →
    body.privateKey = none ∧ old.apiPassphrase = some ""

/-- The key, the signing key and the vault of an Extended request are not given, or are stored
already. -/
structure ExtendedCovers (old : Creds) (body : WalletCreate) : Prop where
  apiKey : ∀ key ∈ body.apiKey, old.apiKey = some (Python.strip key)
  privateKey : ∀ key ∈ body.l2PrivateKey.or body.privateKey, old.privateKey = some (Python.strip key)
  vault : ∀ vault ∈ body.apiPassphrase, old.apiPassphrase = some (Python.strip vault)

/-- What a request to a perpetual DEX has to say, or find stored, for the two branches that the
update does not share with the creation. -/
def UpdateCovers (old : Creds) (body : WalletCreate) : Prop :=
  body.walletType = .perpdex →
    (Python.lower body.typeValue = "lighter" → LighterCovers resolve old body) ∧
      (Python.lower body.typeValue = "extended" → ExtendedCovers old body)

end

/-! ### The fields -/

section Fields

variable {resolve : String → Option String} {body : WalletCreate} {old : Creds}

theorem strippedField_of_ne {x : Option String} (filled : x ≠ some "") :
    strippedField x = x.map Python.strip := by
  rw [strippedField, Python.nonEmpty_of_ne filled]

/-- A key written over its own value. -/
theorem eq_or_iff {α : Type} {value old : Option α} :
    old = value.or old ↔ ∀ x ∈ value, old = some x := by
  cases value with
  | none => simp
  | some x => simp

theorem WalletCreate.Filled.ne (filled : body.Filled) {x : Option String} (field : x ∈ body.fields) :
    x ≠ some "" :=
  fun empty => filled (empty ▸ field)

/-- On a nonempty field the fallback of the mapping is never taken. -/
theorem WalletCreate.Filled.stripped (filled : body.Filled) {x : Option String}
    (field : x ∈ body.fields) : strippedField x = x.map Python.strip :=
  strippedField_of_ne (filled.ne field)

/-! ### The branches -/

theorem edit_keyed (filled : body.Filled) (keyed : body.keyed = true) :
    body.toUpdate.editCreds body.walletType body.typeValue old =
      (body.rawCreds resolve).overlay old := by
  have asKeyed : body.walletType = .exchange ∨
      (body.walletType = .perpdex ∧ body.typeValue = "aster") := by
    simpa [WalletCreate.keyed] using keyed
  have key : strippedField body.apiKey = body.apiKey.map Python.strip :=
    filled.stripped (by simp [WalletCreate.fields])
  have secret : strippedField body.apiSecret = body.apiSecret.map Python.strip :=
    filled.stripped (by simp [WalletCreate.fields])
  have passphrase : strippedField body.apiPassphrase = body.apiPassphrase.map Python.strip :=
    filled.stripped (by simp [WalletCreate.fields])
  unfold WalletUpdate.editCreds WalletCreate.rawCreds
  rw [if_pos asKeyed, if_pos asKeyed]
  cases given : body.apiPassphrase with
  | none =>
      rw [given] at passphrase
      simp [WalletCreate.toUpdate, Creds.overlay, key, secret, given, passphrase]
  | some text =>
      rw [given] at passphrase
      simp [WalletCreate.toUpdate, Creds.overlay, key, secret, given, passphrase]

theorem edit_chain (filled : body.Filled) (chain : body.walletType = .chain) :
    body.toUpdate.editCreds body.walletType body.typeValue old =
      (body.rawCreds resolve).overlay old := by
  have address : strippedField body.address = body.address.map Python.strip :=
    filled.stripped (by simp [WalletCreate.fields])
  simp [WalletUpdate.editCreds, WalletCreate.rawCreds, WalletCreate.toUpdate, Creds.overlay, chain,
    address]

/-- The two mappings of a perpetual DEX that has no key and secret. -/
theorem perpdex_branches (resolve : String → Option String) (perpdex : body.walletType = .perpdex)
    (notKeyed : body.keyed = false) :
    body.rawCreds resolve = body.buildPerpdexCreds resolve ∧ body.typeValue ≠ "aster" := by
  have notAster : body.typeValue ≠ "aster" := by
    simpa [WalletCreate.keyed, perpdex] using notKeyed
  exact ⟨by simp [WalletCreate.rawCreds, perpdex, notAster], notAster⟩

/-- A default that only one of two writes has. -/
theorem or_default_iff {α : Type} {value default old : Option α} :
    value.or old = (value.or default).or old ↔
      (value = none → ∀ x ∈ default, old = some x) := by
  cases value with
  | none => simpa using eq_or_iff
  | some x => simp

/-- What a creation stores for Lighter: the given index comes before the one it looks up. -/
theorem buildPerpdexCreds_lighter (lighter : Python.lower body.typeValue = "lighter") :
    body.buildPerpdexCreds resolve =
      { address := strippedField body.address
        apiKey := (strippedField body.accountIndex).or (resolvedIndex resolve body)
        apiSecret := strippedField body.privateKey
        apiPassphrase := (Python.nonEmpty ((body.apiKeyIndex.map Python.strip).or (some ""))).or
          (if (Python.nonEmpty body.privateKey).isSome then some "255" else none) } := by
  unfold WalletCreate.buildPerpdexCreds
  cases index : strippedField body.accountIndex with
  | none => cases address : strippedField body.address <;> simp [lighter, resolvedIndex, address]
  | some text => simp [lighter]

theorem lighter_index_iff (filled : body.Filled) :
    (strippedField body.accountIndex).or old.apiKey =
        ((strippedField body.accountIndex).or (resolvedIndex resolve body)).or old.apiKey ↔
      (body.accountIndex = none → ∀ index ∈ resolvedIndex resolve body, old.apiKey = some index) := by
  rw [or_default_iff, filled.stripped (by simp [WalletCreate.fields]), Option.map_eq_none_iff]

theorem lighter_passphrase_iff (filled : body.Filled) :
    (strippedField body.apiKeyIndex).or old.apiPassphrase =
        ((Python.nonEmpty ((body.apiKeyIndex.map Python.strip).or (some ""))).or
          (if (Python.nonEmpty body.privateKey).isSome then some "255" else none)).or
            old.apiPassphrase ↔
      (body.apiKeyIndex = none → body.privateKey ≠ none → old.apiPassphrase = some "255") ∧
        ∀ index ∈ body.apiKeyIndex, Python.strip index = "" →
          body.privateKey = none ∧ old.apiPassphrase = some "" := by
  rw [filled.stripped (x := body.apiKeyIndex) (by simp [WalletCreate.fields]),
    Python.nonEmpty_of_ne (filled.ne (x := body.privateKey) (by simp [WalletCreate.fields]))]
  cases given : body.apiKeyIndex with
  | none => cases body.privateKey <;> simp
  | some index =>
      by_cases blank : Python.strip index = ""
      · cases body.privateKey with
        | none => simpa [blank] using eq_comm
        | some text => simp [blank]
      · simp [Python.nonEmpty_some, blank]

theorem edit_lighter_iff (filled : body.Filled) (perpdex : body.walletType = .perpdex)
    (notKeyed : body.keyed = false) (lighter : Python.lower body.typeValue = "lighter") :
    body.toUpdate.editCreds body.walletType body.typeValue old =
      (body.rawCreds resolve).overlay old ↔ LighterCovers resolve old body := by
  obtain ⟨raw, notAster⟩ := perpdex_branches resolve perpdex notKeyed
  rw [raw, buildPerpdexCreds_lighter lighter]
  unfold WalletUpdate.editCreds
  rw [if_neg (by simp [perpdex, notAster]), if_pos perpdex]
  simp only [WalletCreate.toUpdate, Creds.overlay, lighter, Creds.mk.injEq, true_and, Option.none_or,
    and_true]
  rw [lighter_index_iff filled, lighter_passphrase_iff filled]
  constructor
  · rintro ⟨index, key, blank⟩
    exact ⟨index, key, blank⟩
  · rintro ⟨index, key, blank⟩
    exact ⟨index, key, blank⟩

theorem eq_strip_or_iff {x old : Option String} :
    old = (x.map Python.strip).or old ↔ ∀ text ∈ x, old = some (Python.strip text) := by
  rw [eq_or_iff]
  cases x with
  | none => simp
  | some text => simp

theorem edit_extended_iff (filled : body.Filled) (perpdex : body.walletType = .perpdex)
    (notKeyed : body.keyed = false) (extended : Python.lower body.typeValue = "extended") :
    body.toUpdate.editCreds body.walletType body.typeValue old =
      (body.rawCreds resolve).overlay old ↔ ExtendedCovers old body := by
  obtain ⟨raw, notAster⟩ := perpdex_branches resolve perpdex notKeyed
  have key : strippedField body.apiKey = body.apiKey.map Python.strip :=
    filled.stripped (by simp [WalletCreate.fields])
  have signing : (strippedField body.l2PrivateKey).or (strippedField body.privateKey) =
      (body.l2PrivateKey.or body.privateKey).map Python.strip := by
    rw [filled.stripped (x := body.l2PrivateKey) (by simp [WalletCreate.fields]),
      filled.stripped (x := body.privateKey) (by simp [WalletCreate.fields]), Option.map_or]
  have vault : strippedField body.apiPassphrase = body.apiPassphrase.map Python.strip :=
    filled.stripped (by simp [WalletCreate.fields])
  -- The update has no branch for the venue, so the three keys stay as they were.
  have kept : body.toUpdate.editCreds body.walletType body.typeValue old =
        (body.rawCreds resolve).overlay old ↔
      old.apiKey = (body.apiKey.map Python.strip).or old.apiKey ∧
        old.apiPassphrase = (body.apiPassphrase.map Python.strip).or old.apiPassphrase ∧
        old.privateKey =
          ((body.l2PrivateKey.or body.privateKey).map Python.strip).or old.privateKey := by
    rw [raw]
    unfold WalletUpdate.editCreds WalletCreate.buildPerpdexCreds
    rw [if_neg (by simp [perpdex, notAster]), if_pos perpdex]
    simp [WalletCreate.toUpdate, Creds.overlay, extended, key, signing, vault]
  rw [kept, eq_strip_or_iff, eq_strip_or_iff, eq_strip_or_iff]
  constructor
  · rintro ⟨key, vault, signing⟩
    exact ⟨key, signing, vault⟩
  · rintro ⟨key, signing, vault⟩
    exact ⟨key, vault, signing⟩

/-- On the other venues the two mappings are the same. -/
theorem edit_other (perpdex : body.walletType = .perpdex) (notKeyed : body.keyed = false)
    (notLighter : Python.lower body.typeValue ≠ "lighter")
    (notExtended : Python.lower body.typeValue ≠ "extended") :
    body.toUpdate.editCreds body.walletType body.typeValue old =
      (body.rawCreds resolve).overlay old := by
  obtain ⟨raw, notAster⟩ := perpdex_branches resolve perpdex notKeyed
  rw [raw]
  unfold WalletUpdate.editCreds WalletCreate.buildPerpdexCreds
  rw [if_neg (by simp [perpdex, notAster]), if_pos perpdex]
  by_cases paradex : Python.lower body.typeValue = "paradex"
  · simp [WalletCreate.toUpdate, Creds.overlay, paradex]
  by_cases hyperliquid : Python.lower body.typeValue = "hyperliquid"
  · simp [WalletCreate.toUpdate, Creds.overlay, hyperliquid]
  by_cases ethereal : Python.lower body.typeValue = "ethereal"
  · simp [WalletCreate.toUpdate, Creds.overlay, ethereal]
  · simp [WalletCreate.toUpdate, Creds.overlay]

/-- The two mappings against each other, on the decrypted keys. -/
theorem edit_iff (filled : body.Filled) :
    body.toUpdate.editCreds body.walletType body.typeValue old =
      (body.rawCreds resolve).overlay old ↔ UpdateCovers resolve old body := by
  cases isKeyed : body.keyed with
  | true =>
      have others : UpdateCovers resolve old body := by
        intro perpdex
        have aster : body.typeValue = "aster" := by
          simpa [WalletCreate.keyed, perpdex] using isKeyed
        have lower : Python.lower body.typeValue = "aster" := by
          rw [aster]
          decide +kernel
        exact ⟨fun lighter => by simp [lower] at lighter, fun extended => by simp [lower] at extended⟩
      exact iff_of_true (edit_keyed filled isKeyed) others
  | false =>
      cases kind : body.walletType with
      | exchange => simp [WalletCreate.keyed, kind] at isKeyed
      | chain =>
          rw [← kind]
          exact iff_of_true (edit_chain filled kind) fun perpdex => by simp [kind] at perpdex
      | perpdex =>
          rw [← kind]
          by_cases lighter : Python.lower body.typeValue = "lighter"
          · rw [edit_lighter_iff filled kind isKeyed lighter]
            simp [UpdateCovers, kind, lighter]
          by_cases extended : Python.lower body.typeValue = "extended"
          · rw [edit_extended_iff filled kind isKeyed extended]
            simp [UpdateCovers, kind, extended]
          · exact iff_of_true (edit_other kind isKeyed lighter extended)
              fun _ => ⟨fun is => absurd is lighter, fun is => absurd is extended⟩

/-! ### The stored objects -/

theorem refuseIf_eq_none_iff {failing : Bool} {code : Nat} {detail : String} :
    refuseIf failing code detail = none ↔ failing = false := by
  cases failing <;> simp [refuseIf]

theorem isSome_of_not_missing {x : Option String} (given : missing x = false) : x.isSome = true := by
  cases x with
  | none => exact absurd given (by decide)
  | some text => rfl

/-- An accepted body has the fields that the creation strips. -/
theorem complete_of_accepted {providers : Providers} {purpose : WalletPurpose}
    (accepted : body.refusal providers purpose = none) : body.complete = true := by
  have checked := (Option.or_eq_none_iff.mp accepted).2
  cases isKeyed : body.keyed with
  | true =>
      rw [isKeyed, if_pos rfl] at checked
      have given := refuseIf_eq_none_iff.mp (Option.or_eq_none_iff.mp checked).1
      rw [Bool.or_eq_false_iff] at given
      simp [WalletCreate.complete, isKeyed, isSome_of_not_missing given.1,
        isSome_of_not_missing given.2]
  | false =>
      rw [isKeyed, if_neg (by simp)] at checked
      have given := refuseIf_eq_none_iff.mp (Option.or_eq_none_iff.mp checked).1
      cases kind : body.walletType with
      | exchange => simp [WalletCreate.keyed, kind] at isKeyed
      | perpdex => simp [WalletCreate.complete, isKeyed, kind]
      | chain =>
          have address : missing body.address = false := by simpa [kind] using given
          simp [WalletCreate.complete, isKeyed, isSome_of_not_missing address]

end Fields

/-- An accepted request updates a wallet like a creation exactly when it covers, or finds stored,
what the update does not write. -/
theorem updatesLikeCreate_iff {Iv : Type} (fernet : Fernet Iv) (resolve : String → Option String)
    (ivs ivs' : String → Iv) (providers : Providers) (purpose : WalletPurpose)
    (stored : Option Credentials) (body : WalletCreate) (filled : body.Filled)
    (accepted : body.refusal providers purpose = none) :
    UpdatesLikeCreate fernet resolve ivs ivs' stored body ↔
      UpdateCovers resolve (Creds.ofCredentials (plainCredentials fernet stored)) body := by
  rw [← edit_iff filled, ← Creds.overlaid_into_iff]
  simp [UpdatesLikeCreate, WalletCreate.credentials, complete_of_accepted accepted,
    WalletUpdate.credentials]

/-! ### An Extended wallet -/

/-- A token is the text behind a `g`; anything else is not a token. -/
def prefixFernet : Fernet Unit where
  encrypt _ text := String.ofList ('g' :: text.toList)
  decrypt value :=
    match value.toList with
    | 'g' :: text => some (String.ofList text)
    | _ => none
  decrypt_encrypt _ text := by simp
  encrypt_ne_empty _ text empty := by
    have chars := congrArg String.toList empty
    simp at chars

def openProviders : Providers where
  disabled _ _ := false
  needsPassphrase _ := false
  tradeSupported _ := true
  validateKey _ _ _ := none

/-- A wallet with an API key. -/
def extendedStored : Credentials :=
  encryptCredentials prefixFernet (fun _ => ())
    ({ address := some "0xa1", apiKey := some "k1" : Creds }.into Credentials.empty)

/-- A new API key for it. -/
def extendedKey : WalletCreate where
  walletType := .perpdex
  typeValue := "extended"
  address := some "0xa1"
  apiKey := some "k2"

theorem updatesLikeCreate_extended :
    UpdatesLikeCreate prefixFernet (fun _ => none) (fun _ => ()) (fun _ => ())
        (some extendedStored) extendedKey ↔
      UpdateCovers (fun _ => none)
        (Creds.ofCredentials (plainCredentials prefixFernet (some extendedStored))) extendedKey :=
  updatesLikeCreate_iff prefixFernet (fun _ => none) (fun _ => ()) (fun _ => ()) openProviders
    .portfolio (some extendedStored) extendedKey (by decide +kernel) (by decide +kernel)

/-- The accepted update is answered as done, and the old key stays in force. -/
theorem not_updatesLikeCreate_extended :
    extendedKey.Filled ∧ extendedKey.refusal openProviders .portfolio = none ∧
      ¬UpdatesLikeCreate prefixFernet (fun _ => none) (fun _ => ()) (fun _ => ())
        (some extendedStored) extendedKey := by
  refine ⟨by decide +kernel, by decide +kernel, ?_⟩
  rintro ⟨created, made, overlaid, -⟩
  have stays : decryptCredentials prefixFernet
      (extendedKey.toUpdate.credentials prefixFernet (fun _ => ()) .perpdex "extended"
        (some extendedStored)) "api_key" = some "k1" := by
    decide +kernel
  have asked : decryptCredentials prefixFernet created "api_key" = some "k2" := by
    have same : created = encryptCredentials prefixFernet (fun _ => ())
        ((extendedKey.rawCreds fun _ => none).into Credentials.empty) := by
      simpa [WalletCreate.credentials, WalletCreate.complete, extendedKey, WalletCreate.keyed]
        using made.symm
    rw [same, decryptCredentials_encryptCredentials]
    decide +kernel
  have changed := overlaid "api_key" "k2" asked
  rw [show extendedKey.walletType = .perpdex from rfl,
    show extendedKey.typeValue = "extended" from rfl, stays] at changed
  exact absurd changed (by decide)

end Avalant
