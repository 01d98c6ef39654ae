import Avalant.Lib.Ascii
import Mathlib.Data.List.AList

/-!
Assets of exchanges, by the contracts of their tokens.

Each exchange lists its tokens with chains and addresses in spellings of its own. An adapter brings
them into one form, the registry keeps them, and tokens found elsewhere are matched by chain and
address. Texts are ASCII.
-/

namespace Avalant

namespace Dex

open Ascii

structure AssetAddress where
  chain : String
  address : String
  deposit : Option Bool
  withdraw : Option Bool
deriving DecidableEq

/-- By ticker. -/
abbrev VenueAssets := AList fun _ : String => List AssetAddress

/-- The spellings of a chain that exchanges use. -/
def chainAliasToDexScreener : List (String × String) :=
  [("eth", "ethereum"), ("ethereum", "ethereum"), ("erc20", "ethereum"), ("erc-20", "ethereum"),
    ("eth-erc20", "ethereum"), ("ethereum mainnet", "ethereum"), ("bsc", "bsc"), ("bep20", "bsc"),
    ("bep-20", "bsc"), ("bep20(bsc)", "bsc"), ("bnb smart chain", "bsc"), ("bnb chain", "bsc"),
    ("binance smart chain", "bsc"), ("bnb-bsc", "bsc"), ("matic", "polygon"),
    ("polygon", "polygon"), ("polygon pos", "polygon"), ("matic-polygon", "polygon"),
    ("arbitrum", "arbitrum"), ("arbitrum one", "arbitrum"), ("arb", "arbitrum"),
    ("arbitrumone", "arbitrum"), ("arb-arbitrum one", "arbitrum"), ("arbi", "arbitrum"),
    ("optimism", "optimism"), ("op", "optimism"), ("opmain", "optimism"),
    ("op mainnet", "optimism"), ("base", "base"), ("baseevm", "base"), ("base evm", "base"),
    ("avalanche", "avalanche"), ("avax", "avalanche"), ("avaxc", "avalanche"),
    ("avalanche c-chain", "avalanche"), ("avalanche c chain", "avalanche"),
    ("c-chain", "avalanche"), ("sol", "solana"), ("solana", "solana"), ("ftm", "fantom"),
    ("fantom", "fantom"), ("zksync", "zksync"), ("zksync era", "zksync"), ("zksyncera", "zksync"),
    ("linea", "linea"), ("scroll", "scroll"), ("mantle", "mantle"), ("blast", "blast"),
    ("sui", "sui"), ("apt", "aptos"), ("aptos", "aptos"), ("sei", "sei")]

def normalizeChain (cexChain : String) : String :=
  if cexChain = "" then ""
  else (chainAliasToDexScreener.lookup (lower (trim cexChain))).getD ""

def VenueAssets.at (m : VenueAssets) (ticker : String) : List AssetAddress :=
  (m.lookup ticker).getD []

/-- `out[ticker] = append(out[ticker], a)`. -/
def VenueAssets.append (m : VenueAssets) (ticker : String) (a : AssetAddress) : VenueAssets :=
  m.insert ticker (m.at ticker ++ [a])

/-! ## Gate -/

structure GateChain where
  name : String
  addr : String
  depositDisabled : Bool
  withdrawDisabled : Bool

structure GateCurrency where
  currency : String
  delisted : Bool
  tradeDisabled : Bool
  chains : List GateChain

/-- One of `chains`. -/
def gateChain (ticker : String) (out : VenueAssets) (ch : GateChain) : VenueAssets :=
  let canon := normalizeChain ch.name
  if canon = "" then out
  else
    let addr := lower (trim ch.addr)
    if addr = "" then out
    else
      out.append ticker
        { chain := canon, address := addr, deposit := some !ch.depositDisabled,
          withdraw := some !ch.withdrawDisabled }

/-- The rows of a response. -/
def fetchGate (rows : List GateCurrency) : VenueAssets :=
  rows.foldl
    (fun out r =>
      if r.delisted || r.tradeDisabled then out
      else
        let ticker := upper (trim r.currency)
        if ticker = "" then out else r.chains.foldl (gateChain ticker) out)
    ∅

/-! ## Adapters -/

/-- What an exchange says of one token on one chain. -/
structure Listing where
  ticker : String
  chainName : String
  addr : String
  deposit : Option Bool
  withdraw : Option Bool

namespace Listing

variable (l : Listing)

def symbol : String :=
  upper (trim l.ticker)

def chain : String :=
  normalizeChain l.chainName

/-- Listings without a ticker, on an unknown chain or without an address are skipped. -/
def Usable : Prop :=
  l.symbol ≠ "" ∧ l.chain ≠ "" ∧ trim l.addr ≠ ""

def entry : AssetAddress :=
  ⟨l.chain, lower (trim l.addr), l.deposit, l.withdraw⟩

instance : Decidable l.Usable :=
  inferInstanceAs (Decidable (_ ∧ _ ∧ _))

end Listing

/-- One listing, in the form all adapters bring theirs into. -/
def add (out : VenueAssets) (l : Listing) : VenueAssets :=
  if l.Usable then out.append l.symbol l.entry else out

def assets (ls : List Listing) : VenueAssets :=
  ls.foldl add ∅

def gateListing (currency : String) (ch : GateChain) : Listing :=
  ⟨currency, ch.name, ch.addr, some !ch.depositDisabled, some !ch.withdrawDisabled⟩

/-- The listings of Gate. -/
def gateListings (rows : List GateCurrency) : List Listing :=
  (rows.filter fun r => !(r.delisted || r.tradeDisabled)).flatMap fun r =>
    r.chains.map (gateListing r.currency)

section

variable {ls : List Listing} {ticker : String} {a : AssetAddress} {out : VenueAssets}

theorem VenueAssets.at_append (m : VenueAssets) (ticker ticker' : String) (a : AssetAddress) :
    (m.append ticker a).at ticker' = m.at ticker' ++ if ticker' = ticker then [a] else [] := by
  unfold VenueAssets.append VenueAssets.at
  by_cases same : ticker' = ticker
  · subst same
    simp
  · simp [AList.lookup_insert_ne same, same]

/-- The entries of a ticker are those of its listings, in their order. -/
theorem at_assets (ls : List Listing) (ticker : String) :
    (assets ls).at ticker =
      (ls.filter fun l => l.Usable ∧ l.symbol = ticker).map Listing.entry := by
  suffices from_any : ∀ out : VenueAssets,
      (ls.foldl add out).at ticker =
        out.at ticker ++ (ls.filter fun l => l.Usable ∧ l.symbol = ticker).map Listing.entry from
    from_any ∅
  induction ls with
  | nil => intro out; simp
  | cons l rest ih =>
      intro out
      rw [List.foldl_cons, ih]
      unfold add
      by_cases usable : l.Usable
      · rw [if_pos usable, VenueAssets.at_append]
        by_cases same : ticker = l.symbol
        · simp [usable, same]
        · simp [usable, same, Ne.symm same]
      · rw [if_neg usable]
        simp [usable]

theorem mem_at_assets :
    a ∈ (assets ls).at ticker ↔ ∃ l ∈ ls, l.Usable ∧ l.symbol = ticker ∧ l.entry = a := by
  rw [at_assets]
  simp [and_assoc]

theorem gateChain_eq {currency : String} (named : upper (trim currency) ≠ "") (out : VenueAssets)
    (ch : GateChain) :
    gateChain (upper (trim currency)) out ch = add out (gateListing currency ch) := by
  unfold gateChain add
  dsimp only
  by_cases unknown : normalizeChain ch.name = ""
  · rw [if_pos unknown, if_neg fun usable => usable.2.1 unknown]
  · rw [if_neg unknown]
    by_cases missing : trim ch.addr = ""
    · rw [if_pos (lower_eq_empty.mpr missing), if_neg fun usable => usable.2.2 missing]
    · have usable : (gateListing currency ch).Usable := ⟨named, unknown, missing⟩
      rw [if_neg fun empty => missing (lower_eq_empty.mp empty), if_pos usable]
      rfl

theorem foldl_add_of_blank {currency : String} (blank : upper (trim currency) = "")
    (out : VenueAssets) (chains : List GateChain) :
    (chains.map (gateListing currency)).foldl add out = out := by
  induction chains with
  | nil => rfl
  | cons ch rest ih =>
      have skipped : add out (gateListing currency ch) = out :=
        if_neg fun usable => usable.1 blank
      rw [List.map_cons, List.foldl_cons, skipped, ih]

/-- The rows of Gate pass through the common form. -/
theorem fetchGate_eq (rows : List GateCurrency) : fetchGate rows = assets (gateListings rows) := by
  unfold fetchGate assets gateListings
  generalize (∅ : VenueAssets) = out
  induction rows generalizing out with
  | nil => rfl
  | cons r rest ih =>
      rw [List.foldl_cons, ih]
      cases gone : r.delisted || r.tradeDisabled with
      | true =>
          simp only [gone, if_true, List.filter_cons, Bool.not_true, Bool.false_eq_true, if_false]
      | false =>
          have row : (if upper (trim r.currency) = "" then out
              else r.chains.foldl (gateChain (upper (trim r.currency))) out) =
              (r.chains.map (gateListing r.currency)).foldl add out := by
            by_cases blank : upper (trim r.currency) = ""
            · rw [if_pos blank, foldl_add_of_blank blank]
            · rw [if_neg blank, List.foldl_map]
              exact List.foldl_ext _ _ _ fun out ch _ => gateChain_eq blank out ch
          simp only [gone, Bool.false_eq_true, if_false, row, List.filter_cons, Bool.not_false,
            if_true, List.flatMap_cons, List.foldl_append]

end

/-! ## The registry -/

/-- `fetchers`, by their exchanges. -/
def fetchers : List String :=
  ["gate", "kucoin", "bitget", "whitebit", "backpack", "binance", "bybit", "okx", "mexc", "bingx"]

/-- `venues`, after each adapter's last success. Exchanges without one are not in it. -/
def registry (lists : String → Option (List Listing)) : List (String × VenueAssets) :=
  fetchers.filterMap fun venue => (lists venue).map fun ls => (venue, assets ls)

structure MatchResult where
  verified : Bool := false
  matchChain : String := ""
  addressKnown : Bool := false
  deposit : Option Bool := none
  withdraw : Option Bool := none
deriving DecidableEq

/-- The test of the loop of `MatchByAddress`. -/
def AssetAddress.isAt (chain a : String) (e : AssetAddress) : Bool :=
  e.chain ≠ "" ∧ e.address ≠ "" ∧ equalFold e.chain chain ∧ equalFold e.address a

def matchByAddress (venues : List (String × VenueAssets)) (venue ticker dexChain dexAddress : String) :
    MatchResult :=
  if venue = "" ∨ ticker = "" ∨ dexChain = "" ∨ dexAddress = "" then {}
  else
    let t := upper (trim ticker)
    let a := lower (trim dexAddress)
    let chain := lower (trim dexChain)
    match venues.lookup (lower venue) with
    | none => {}
    | some venueMap =>
        match venueMap.lookup t with
        | none => {}
        | some entries =>
            if entries = [] then {}
            else
              match entries.find? (AssetAddress.isAt chain a) with
              | none => { addressKnown := true }
              | some e =>
                  { verified := true, matchChain := e.chain, addressKnown := true,
                    deposit := e.deposit, withdraw := e.withdraw }

/-! ## Contracts -/

/-- A token on a chain. -/
structure Contract where
  chain : String
  address : String
deriving DecidableEq

/-- Chains whose addresses are base58 texts, where case counts. Those of EVM chains are hexadecimal,
where it does not. -/
def base58Chains : List String :=
  ["solana", "tron"]

/-- What an address denotes. -/
def contractOf (chain address : String) : Contract :=
  ⟨chain, if chain ∈ base58Chains then address else lower address⟩

def Listing.contract (l : Listing) : Contract :=
  contractOf l.chain (trim l.addr)

/-- The listings of an exchange that is fetched. -/
def listings (lists : String → Option (List Listing)) (venue : String) : List Listing :=
  if venue ∈ fetchers then (lists venue).getD [] else []

/-- An exchange lists a contract under a symbol. -/
def Lists (lists : String → Option (List Listing)) (venue symbol : String) (c : Contract)
    (l : Listing) : Prop :=
  l ∈ listings lists venue ∧ l.Usable ∧ l.symbol = symbol ∧ l.contract = c

section

variable {lists : String → Option (List Listing)} {venue ticker dexChain dexAddress : String}

theorem lookup_filterMap {κ β γ : Type*} [DecidableEq κ] (f : κ → Option β) (g : β → γ)
    (keys : List κ) (k : κ) :
    (keys.filterMap fun key => (f key).map fun b => (key, g b)).lookup k =
      if k ∈ keys then (f k).map g else none := by
  induction keys with
  | nil => rfl
  | cons key rest ih =>
      by_cases same : k = key
      · subst same
        cases value : f k with
        | none => simp [value, ih]
        | some b => simp [value]
      · cases value : f key with
        | none => simp [value, ih, same]
        | some b => simp [value, ih, same, List.lookup_cons, beq_eq_false_iff_ne.mpr same]

theorem at_registry (ticker : String) :
    (((registry lists).lookup venue).getD ∅).at ticker =
      ((listings lists venue).filter fun l => l.Usable ∧ l.symbol = ticker).map Listing.entry := by
  unfold registry listings
  rw [lookup_filterMap]
  split
  · cases lists venue with
    | none => rfl
    | some ls => exact at_assets ls ticker
  · rfl

/-- The canonical chains are in lower case. -/
theorem lower_chain (l : Listing) : lower l.chain = l.chain := by
  have canonical : ∀ pair ∈ chainAliasToDexScreener, lower pair.2 = pair.2 := by decide +kernel
  unfold Listing.chain normalizeChain
  split
  · rfl
  · cases known : chainAliasToDexScreener.lookup (lower (trim l.chainName)) with
    | none => rfl
    | some chain =>
        rcases List.lookup_eq_some_iff.mp known with ⟨front, back, table, -⟩
        exact canonical (_, chain) (table ▸ List.mem_append_right _ List.mem_cons_self)

theorem isAt_entry {l : Listing} (usable : l.Usable) :
    l.entry.isAt (lower (trim dexChain)) (lower (trim dexAddress)) = true ↔
      l.chain = lower (trim dexChain) ∧ lower (trim l.addr) = lower (trim dexAddress) := by
  have address : lower (trim l.addr) ≠ "" := fun empty => usable.2.2 (lower_eq_empty.mp empty)
  have chain : l.chain ≠ "" := usable.2.1
  simp [AssetAddress.isAt, Listing.entry, address, chain, equalFold_iff, lower_chain]

/-- What `MatchByAddress` looks through. -/
def candidates (venues : List (String × VenueAssets)) (venue ticker : String) :
    List AssetAddress :=
  ((venues.lookup (lower venue)).getD ∅).at (upper (trim ticker))

variable {venues : List (String × VenueAssets)} {e : AssetAddress}

theorem verified_of_none
    (none : (candidates venues venue ticker).find?
      (AssetAddress.isAt (lower (trim dexChain)) (lower (trim dexAddress))) = none) :
    (matchByAddress venues venue ticker dexChain dexAddress).verified = false := by
  unfold matchByAddress
  split
  · rfl
  · unfold candidates VenueAssets.at at none
    dsimp only
    cases known : venues.lookup (lower venue) with
    | none => rfl
    | some venueMap =>
        rw [known, Option.getD_some] at none
        cases listed : venueMap.lookup (upper (trim ticker)) with
        | none => simp only [listed]
        | some entries =>
            rw [listed, Option.getD_some] at none
            simp only [listed]
            split
            · rfl
            · rw [none]

theorem matchByAddress_of_some
    (given : ¬(venue = "" ∨ ticker = "" ∨ dexChain = "" ∨ dexAddress = ""))
    (found : (candidates venues venue ticker).find?
      (AssetAddress.isAt (lower (trim dexChain)) (lower (trim dexAddress))) = some e) :
    matchByAddress venues venue ticker dexChain dexAddress =
      { verified := true, matchChain := e.chain, addressKnown := true, deposit := e.deposit,
        withdraw := e.withdraw } := by
  unfold matchByAddress
  rw [if_neg given]
  unfold candidates VenueAssets.at at found
  dsimp only
  cases known : venues.lookup (lower venue) with
  | none =>
      rw [known] at found
      cases found
  | some venueMap =>
      rw [known, Option.getD_some] at found
      cases listed : venueMap.lookup (upper (trim ticker)) with
      | none =>
          rw [listed] at found
          cases found
      | some entries =>
          rw [listed, Option.getD_some] at found
          have some_listed : entries ≠ [] := by
            rintro rfl
            cases found
          simp only [listed, if_neg some_listed, found]

/-- A listing that `MatchByAddress` takes for the token it is asked for. -/
def Taken (lists : String → Option (List Listing)) (venue ticker dexChain dexAddress : String)
    (l : Listing) : Prop :=
  l ∈ listings lists (lower venue) ∧ l.Usable ∧ l.symbol = upper (trim ticker) ∧
    l.chain = lower (trim dexChain) ∧ lower (trim l.addr) = lower (trim dexAddress)

theorem Taken.given {l : Listing} (taken : Taken lists venue ticker dexChain dexAddress l) :
    ¬(venue = "" ∨ ticker = "" ∨ dexChain = "" ∨ dexAddress = "") := by
  rcases taken with ⟨member, usable, symbol, chain, address⟩
  rintro (rfl | rfl | rfl | rfl)
  · have unknown : lower "" ∉ fetchers := by decide +kernel
    rw [listings, if_neg unknown] at member
    cases member
  · exact usable.1 (symbol.trans (by decide))
  · exact usable.2.1 (chain.trans (by decide))
  · exact usable.2.2 (lower_eq_empty.mp (address.trans (by decide)))

theorem mem_candidates :
    e ∈ candidates (registry lists) venue ticker ↔
      ∃ l ∈ listings lists (lower venue), l.Usable ∧ l.symbol = upper (trim ticker) ∧ l.entry = e := by
  unfold candidates
  rw [at_registry]
  simp [and_assoc]

theorem taken_of_find?
    (found : (candidates (registry lists) venue ticker).find?
      (AssetAddress.isAt (lower (trim dexChain)) (lower (trim dexAddress))) = some e) :
    ∃ l, Taken lists venue ticker dexChain dexAddress l ∧ l.entry = e := by
  rcases mem_candidates.mp (List.mem_of_find?_eq_some found) with ⟨l, member, usable, symbol, rfl⟩
  exact ⟨l, ⟨member, usable, symbol, (isAt_entry usable).mp (List.find?_some found)⟩, rfl⟩

theorem verified_of_taken {l : Listing} (taken : Taken lists venue ticker dexChain dexAddress l) :
    (matchByAddress (registry lists) venue ticker dexChain dexAddress).verified = true := by
  rcases taken with ⟨member, usable, symbol, at_query⟩
  have listed := mem_candidates.mpr ⟨l, member, usable, symbol, rfl⟩
  cases found : (candidates (registry lists) venue ticker).find?
      (AssetAddress.isAt (lower (trim dexChain)) (lower (trim dexAddress))) with
  | none => exact absurd ((isAt_entry usable).mpr at_query) (List.find?_eq_none.mp found _ listed)
  | some e =>
      rw [matchByAddress_of_some (Taken.given ⟨member, usable, symbol, at_query⟩) found]

/-- The flags are those of a listing taken. -/
theorem taken_of_verified
    (verified : (matchByAddress (registry lists) venue ticker dexChain dexAddress).verified = true) :
    ∃ l, Taken lists venue ticker dexChain dexAddress l ∧
      (matchByAddress (registry lists) venue ticker dexChain dexAddress).deposit = l.deposit ∧
      (matchByAddress (registry lists) venue ticker dexChain dexAddress).withdraw = l.withdraw := by
  cases found : (candidates (registry lists) venue ticker).find?
      (AssetAddress.isAt (lower (trim dexChain)) (lower (trim dexAddress))) with
  | none =>
      rw [verified_of_none found] at verified
      cases verified
  | some e =>
      rcases taken_of_find? found with ⟨l, taken, rfl⟩
      refine ⟨l, taken, ?_⟩
      rw [matchByAddress_of_some taken.given found]
      exact ⟨rfl, rfl⟩

/-- `MatchByAddress` tells whether an exchange lists the contract it is asked for, with the flags of
a listing of it. -/
def MatchesIdentified (lists : String → Option (List Listing)) : Prop :=
  ∀ venue ticker dexChain dexAddress,
    let c := contractOf (lower (trim dexChain)) (trim dexAddress)
    let answer := matchByAddress (registry lists) venue ticker dexChain dexAddress
    (answer.verified = true ↔ ∃ l, Lists lists (lower venue) (upper (trim ticker)) c l) ∧
      (answer.verified = true → ∃ l, Lists lists (lower venue) (upper (trim ticker)) c l ∧
        answer.deposit = l.deposit ∧ answer.withdraw = l.withdraw)

/-- A listing whose address means what any text does that equals it up to case. -/
def Listing.Caseless (l : Listing) : Prop :=
  l.chain ∈ base58Chains → ¬HasLetter (trim l.addr)

theorem Taken.of_lists {l : Listing} (same : Lists lists (lower venue) (upper (trim ticker))
      (contractOf (lower (trim dexChain)) (trim dexAddress)) l) :
    Taken lists venue ticker dexChain dexAddress l := by
  rcases same with ⟨member, usable, symbol, contract⟩
  have chain : l.chain = lower (trim dexChain) := congrArg Contract.chain contract
  have address := congrArg Contract.address contract
  refine ⟨member, usable, symbol, chain, ?_⟩
  simp only [Listing.contract, contractOf, chain] at address
  split at address
  · rw [address]
  · exact address

theorem Lists.of_taken {l : Listing} (caseless : l.Caseless)
    (taken : Taken lists venue ticker dexChain dexAddress l) :
    Lists lists (lower venue) (upper (trim ticker))
      (contractOf (lower (trim dexChain)) (trim dexAddress)) l := by
  rcases taken with ⟨member, usable, symbol, chain, address⟩
  refine ⟨member, usable, symbol, ?_⟩
  unfold Listing.contract contractOf
  rw [← chain]
  split
  case isTrue base58 => rw [eq_of_lower_eq (caseless base58) address.symm]
  case isFalse => rw [address]

/-- Matching is right where no address has another meaning in another case. -/
theorem matchesIdentified_of_caseless
    (caseless : ∀ venue, ∀ l ∈ listings lists venue, l.Usable → l.Caseless) :
    MatchesIdentified lists := by
  intro venue ticker dexChain dexAddress
  have all : ∀ l, Taken lists venue ticker dexChain dexAddress l →
      Lists lists (lower venue) (upper (trim ticker))
        (contractOf (lower (trim dexChain)) (trim dexAddress)) l := fun l taken =>
    Lists.of_taken (caseless _ l taken.1 taken.2.1) taken
  refine ⟨⟨fun verified => ?_, fun ⟨l, same⟩ => verified_of_taken (Taken.of_lists same)⟩,
    fun verified => ?_⟩
  · rcases taken_of_verified verified with ⟨l, taken, -⟩
    exact ⟨l, all l taken⟩
  · rcases taken_of_verified verified with ⟨l, taken, flags⟩
    exact ⟨l, all l taken, flags⟩

theorem lower_of_mem_listings {l : Listing} (member : l ∈ listings lists venue) :
    lower venue = venue := by
  have canonical : ∀ venue ∈ fetchers, lower venue = venue := by decide +kernel
  unfold listings at member
  split at member
  case isTrue known => exact canonical venue known
  case isFalse => cases member

theorem Listing.symbol_symbol (l : Listing) : upper (trim l.symbol) = l.symbol := by
  simp [Listing.symbol]

/-- Where the address of a listing is matched in upper case, it is listed in upper case. -/
theorem upper_listed {l : Listing} (identified : MatchesIdentified lists)
    (member : l ∈ listings lists venue) (usable : l.Usable) (base58 : l.chain ∈ base58Chains)
    (canonical : trim l.chain = l.chain) :
    ∃ l', Lists lists venue l.symbol ⟨l.chain, upper (trim l.addr)⟩ l' := by
  have lowered := lower_of_mem_listings member
  have taken : Taken lists venue l.symbol l.chain (upper (trim l.addr)) l := by
    refine ⟨lowered.symm ▸ member, usable, l.symbol_symbol.symm, ?_, ?_⟩
    · rw [canonical, lower_chain]
    · simp
  have verified := (identified venue l.symbol l.chain (upper (trim l.addr))).1.mp
    (verified_of_taken taken)
  rw [lowered, l.symbol_symbol, canonical, lower_chain, contractOf, if_pos base58] at verified
  simpa using verified

end

end Dex

end Avalant
