import Avalant.Dex.CexAssets
import Avalant.Lib.Float
import Avalant.Lib.Go

/-!
Contracts of a symbol and their prices.

The contracts come from the lists of all exchanges, once each, and are priced by chain and address.
Addresses are put in lower case on the way, in the index and in the keys of the prices.
-/

namespace Avalant

namespace Dex

open Ascii
open Go (Float64)

structure TokenRef where
  chainIndex : String
  address : String
  decimals : Int := 0
  chainName : String
deriving DecidableEq

def canonicalNameToChainIndex : List (String × String) :=
  [("ethereum", "1"), ("bsc", "56"), ("polygon", "137"), ("arbitrum", "42161"), ("optimism", "10"),
    ("base", "8453"), ("avalanche", "43114"), ("fantom", "250"), ("zksync", "324"),
    ("linea", "59144"), ("scroll", "534352"), ("mantle", "5000"), ("blast", "81457"),
    ("solana", "501"), ("tron", "195")]

def okxChainCanonical : List (String × String) :=
  [("1", "ethereum"), ("56", "bsc"), ("137", "polygon"), ("42161", "arbitrum"), ("10", "optimism"),
    ("8453", "base"), ("43114", "avalanche"), ("250", "fantom"), ("324", "zksync"),
    ("59144", "linea"), ("534352", "scroll"), ("5000", "mantle"), ("81457", "blast"),
    ("501", "solana"), ("195", "tron"), ("607", "ton"), ("784", "sui"), ("637", "aptos")]

/-! ## Refresh -/

/-- `seen` and `newTokens`. -/
structure Index where
  seen : List (String × String × String) := []
  tokens : AList fun _ : String => List TokenRef

def Index.refs (ix : Index) (sym : String) : List TokenRef :=
  (ix.tokens.lookup sym).getD []

/-- The reference of an address, on a chain with prices. -/
def refOf (chainNames : String → String) (a : AssetAddress) : Option TokenRef :=
  if a.chain = "" ∨ a.address = "" then none
  else
    (canonicalNameToChainIndex.lookup (lower a.chain)).map fun chainIdx =>
      { chainIndex := chainIdx, address := lower a.address, chainName := chainNames chainIdx }

def Index.addRef (sym : String) (ix : Index) (ref : TokenRef) : Index :=
  if (sym, ref.chainIndex, ref.address) ∈ ix.seen then ix
  else
    { seen := (sym, ref.chainIndex, ref.address) :: ix.seen,
      tokens := ix.tokens.insert sym (ix.refs sym ++ [ref]) }

def Index.addAddress (chainNames : String → String) (sym : String) (ix : Index)
    (a : AssetAddress) : Index :=
  match refOf chainNames a with
  | none => ix
  | some ref => ix.addRef sym ref

def Index.addTicker (chainNames : String → String) (ix : Index)
    (e : Σ _ : String, List AssetAddress) : Index :=
  let sym := upper (trim e.1)
  if sym = "" then ix else e.2.foldl (Index.addAddress chainNames sym) ix

/-- `Refresh`, over the venues and their tickers in the order the maps are ranged in. -/
def refresh (chainNames : String → String) (venues : List (List (Σ _ : String, List AssetAddress))) :
    Index :=
  venues.foldl (fun ix venueMap => venueMap.foldl (Index.addTicker chainNames) ix) ⟨[], ∅⟩

/-- An order of ranging over the registry. -/
def Ranges (venues : List (String × VenueAssets))
    (ranged : List (List (Σ _ : String, List AssetAddress))) : Prop :=
  ∃ order : List VenueAssets, order.Perm (venues.map Prod.snd) ∧
    List.Forall₂ (fun entries venueMap => entries.Perm venueMap.entries) ranged order

/-! ## Prices -/

structure PriceReq where
  chainIndex : String
  tokenContractAddress : String

/-- A price, where `strconv.ParseFloat` reads one. -/
structure PriceRow where
  chainIndex : String
  tokenContractAddress : String
  price : Option Float64

def priceKey (chainIndex address : String) : String :=
  chainIndex ++ ":" ++ lower address

def priceChunkSize : Nat := 100

/-- The outcome of one request, or of the wait before it. -/
inductive Reply where
  | rows (rows : List PriceRow)
  | failed (err : String)
  | cancelled (err : String)

abbrev Prices := AList fun _ : String => Float64

def notePrice (out : Prices) (r : PriceRow) : Prices :=
  match r.price with
  | none => out
  | some px =>
      if px.le (.fin 0) then out else out.insert (priceKey r.chainIndex r.tokenContractAddress) px

def fetchChunks (reply : Nat → List PriceReq → Reply) :
    Nat → List (List PriceReq) → Prices → Option String → Prices × Option String
  | _, [], out, lastErr => (out, lastErr)
  | i, chunk :: rest, out, lastErr =>
      match reply i chunk with
      | .rows rows => fetchChunks reply (i + 1) rest (rows.foldl notePrice out) lastErr
      | .failed err => fetchChunks reply (i + 1) rest out (some err)
      | .cancelled err => (out, some err)

/-- `refs[i:end]`, for each `i`. -/
def chunks (refs : List PriceReq) : List (List PriceReq) :=
  (List.range ((refs.length + priceChunkSize - 1) / priceChunkSize)).map fun i =>
    (refs.drop (priceChunkSize * i)).take priceChunkSize

/-- The prices, and the last error. -/
def fetchPrices (reply : Nat → List PriceReq → Reply) (refs : List PriceReq) :
    Prices × Option String :=
  fetchChunks reply 0 (chunks refs) ∅ none

def TokenRef.req (ref : TokenRef) : PriceReq :=
  ⟨ref.chainIndex, ref.address⟩

/-! ## Contracts -/

/-- What an address denotes, on the chain of an index. -/
def contractAt (chainIndex address : String) : Contract :=
  contractOf ((okxChainCanonical.lookup chainIndex).getD "") address

def TokenRef.contract (ref : TokenRef) : Contract :=
  contractAt ref.chainIndex ref.address

/-- Prices of contracts that were asked for, each under the index it was asked for with. -/
def Quotes (quote : Contract → Option Float64) (reply : Nat → List PriceReq → Reply) : Prop :=
  ∀ i chunk rows, reply i chunk = .rows rows → ∀ row ∈ rows,
    row.price = quote (contractAt row.chainIndex row.tokenContractAddress) ∧
    ∃ req ∈ chunk, req.chainIndex = row.chainIndex ∧
      contractAt req.chainIndex req.tokenContractAddress =
        contractAt row.chainIndex row.tokenContractAddress

/-- The references of a symbol are the contracts that the exchanges list for it on the chains with
prices, and the price found for a reference is that of its contract. -/
structure RefsIdentified (lists : String → Option (List Listing)) (ix : Index) : Prop where
  listed : ∀ sym, ∀ ref ∈ ix.refs sym, ∃ venue l, Lists lists venue sym ref.contract l
  kept : ∀ venue, ∀ l ∈ listings lists venue, l.Usable →
    (canonicalNameToChainIndex.lookup l.chain).isSome →
    ∃ ref ∈ ix.refs l.symbol, ref.contract = l.contract
  priced : ∀ quote reply, Quotes quote reply → ∀ asked : List TokenRef,
    (∀ ref ∈ asked, ∃ sym, ref ∈ ix.refs sym) → ∀ sym, ∀ ref ∈ ix.refs sym, ∀ px,
      (fetchPrices reply (asked.map TokenRef.req)).1.lookup (priceKey ref.chainIndex ref.address) =
        some px → quote ref.contract = some px

/-! ## What the index holds -/

section

variable {chainNames : String → String} {α : Type*} {ix : Index} {sym : String} {ref : TokenRef}

/-- `seen` has the references, which their chain and address determine. -/
structure Index.Sound (chainNames : String → String) (ix : Index) : Prop where
  seen : ∀ sym c a, (sym, c, a) ∈ ix.seen ↔ ∃ ref ∈ ix.refs sym, ref.chainIndex = c ∧ ref.address = a
  named : ∀ sym, ∀ ref ∈ ix.refs sym, ref = ⟨ref.chainIndex, ref.address, 0, chainNames ref.chainIndex⟩

/-- A step adds references, and loses none. -/
def Adds (chainNames : String → String) (step : Index → α → Index)
    (added : α → String → TokenRef → Prop) : Prop :=
  ∀ ix x, ix.Sound chainNames → (step ix x).Sound chainNames ∧
    ∀ sym ref, ref ∈ (step ix x).refs sym ↔ ref ∈ ix.refs sym ∨ added x sym ref

theorem Adds.foldl {step : Index → α → Index} {added : α → String → TokenRef → Prop}
    (adds : Adds chainNames step added) :
    Adds chainNames (fun ix (xs : List α) => xs.foldl step ix)
      fun xs sym ref => ∃ x ∈ xs, added x sym ref := by
  intro ix xs sound
  induction xs generalizing ix with
  | nil => exact ⟨sound, by simp⟩
  | cons x rest ih =>
      rcases adds ix x sound with ⟨sound', first⟩
      rcases ih (step ix x) sound' with ⟨sound'', others⟩
      refine ⟨sound'', fun sym ref => ?_⟩
      refine (others sym ref).trans ?_
      beta_reduce
      rw [first, List.exists_mem_cons_iff, or_assoc]

theorem Index.refs_addRef (fresh : (sym, ref.chainIndex, ref.address) ∉ ix.seen) (sym' : String) :
    (ix.addRef sym ref).refs sym' = ix.refs sym' ++ if sym' = sym then [ref] else [] := by
  unfold Index.addRef
  rw [if_neg fresh]
  unfold Index.refs
  by_cases same : sym' = sym
  · subst same
    simp
  · simp [AList.lookup_insert_ne same, same]

theorem Index.addRef_adds (sym : String) (ix : Index) (sound : ix.Sound chainNames)
    (named : ref = ⟨ref.chainIndex, ref.address, 0, chainNames ref.chainIndex⟩) :
    (ix.addRef sym ref).Sound chainNames ∧
      ∀ sym' ref', ref' ∈ (ix.addRef sym ref).refs sym' ↔
        ref' ∈ ix.refs sym' ∨ sym' = sym ∧ ref' = ref := by
  by_cases known : (sym, ref.chainIndex, ref.address) ∈ ix.seen
  · have same : ix.addRef sym ref = ix := if_pos known
    rw [same]
    refine ⟨sound, fun sym' ref' => ⟨Or.inl, fun either => ?_⟩⟩
    rcases either with member | ⟨rfl, rfl⟩
    · exact member
    · rcases (sound.seen _ _ _).mp known with ⟨other, member, chain, address⟩
      have equal : other = ref' := by
        rw [sound.named _ other member, named, chain, address]
      exact equal ▸ member
  · have refs : ∀ sym' ref', ref' ∈ (ix.addRef sym ref).refs sym' ↔
        ref' ∈ ix.refs sym' ∨ sym' = sym ∧ ref' = ref := by
      intro sym' ref'
      rw [Index.refs_addRef known, List.mem_append]
      by_cases same : sym' = sym <;> simp [same]
    have seen : (ix.addRef sym ref).seen = (sym, ref.chainIndex, ref.address) :: ix.seen := by
      unfold Index.addRef
      rw [if_neg known]
    refine ⟨⟨fun sym' c a => ?_, fun sym' ref' member => ?_⟩, refs⟩
    · rw [seen, List.mem_cons, sound.seen]
      constructor
      · rintro (here | ⟨other, member, found⟩)
        · cases here
          exact ⟨ref, (refs _ _).mpr (Or.inr ⟨rfl, rfl⟩), rfl, rfl⟩
        · exact ⟨other, (refs _ _).mpr (Or.inl member), found⟩
      · rintro ⟨other, member, found⟩
        rcases (refs _ _).mp member with old | ⟨rfl, rfl⟩
        · exact Or.inr ⟨other, old, found⟩
        · rcases found with ⟨rfl, rfl⟩
          exact Or.inl rfl
    · rcases (refs _ _).mp member with old | ⟨-, rfl⟩
      · exact sound.named _ _ old
      · exact named

theorem refOf_named {a : AssetAddress} (made : refOf chainNames a = some ref) :
    ref = ⟨ref.chainIndex, ref.address, 0, chainNames ref.chainIndex⟩ := by
  unfold refOf at made
  split at made
  · cases made
  · rcases Option.map_eq_some_iff.mp made with ⟨chainIdx, -, rfl⟩
    rfl

theorem addAddress_adds (sym : String) :
    Adds chainNames (Index.addAddress chainNames sym)
      fun a sym' ref => sym' = sym ∧ refOf chainNames a = some ref := by
  intro ix a sound
  unfold Index.addAddress
  cases made : refOf chainNames a with
  | none => exact ⟨sound, fun _ _ => by simp [made]⟩
  | some ref =>
      rcases Index.addRef_adds sym ix sound (refOf_named made) with ⟨sound', refs⟩
      refine ⟨sound', fun sym' ref' => ?_⟩
      beta_reduce
      rw [refs, made, Option.some_inj, eq_comm (a := ref')]

theorem addTicker_adds (chainNames : String → String) :
    Adds chainNames (Index.addTicker chainNames)
      fun e sym ref => upper (trim e.1) ≠ "" ∧ sym = upper (trim e.1) ∧
        ∃ a ∈ e.2, refOf chainNames a = some ref := by
  intro ix e sound
  unfold Index.addTicker
  dsimp only
  split
  case isTrue blank => exact ⟨sound, fun _ _ => by simp [blank]⟩
  case isFalse named =>
    rcases (addAddress_adds (upper (trim e.1))).foldl ix e.2 sound with ⟨sound', refs⟩
    refine ⟨sound', fun sym ref => (refs sym ref).trans ?_⟩
    have spread : (∃ a ∈ e.2, sym = upper (trim e.1) ∧ refOf chainNames a = some ref) ↔
        sym = upper (trim e.1) ∧ ∃ a ∈ e.2, refOf chainNames a = some ref := by
      constructor
      · rintro ⟨a, member, symbol, made⟩
        exact ⟨symbol, a, member, made⟩
      · rintro ⟨symbol, a, member, made⟩
        exact ⟨a, member, symbol, made⟩
    beta_reduce
    rw [spread]
    simp [named]

theorem mem_refs_refresh_iff {venues : List (List (Σ _ : String, List AssetAddress))} :
    ref ∈ (refresh chainNames venues).refs sym ↔ ∃ venueMap ∈ venues, ∃ e ∈ venueMap,
      upper (trim e.1) ≠ "" ∧ sym = upper (trim e.1) ∧
        ∃ a ∈ e.2, refOf chainNames a = some ref := by
  have empty : Index.Sound chainNames ⟨[], ∅⟩ :=
    ⟨fun _ _ _ => by simp [Index.refs], fun _ _ member => by simp [Index.refs] at member⟩
  have refs := (addTicker_adds chainNames).foldl.foldl ⟨[], ∅⟩ venues empty
  refine (refs.2 sym ref).trans ?_
  simp [Index.refs]

end

/-! ## Listings and references -/

section

variable {lists : String → Option (List Listing)} {chainNames : String → String}
  {ranged : List (List (Σ _ : String, List AssetAddress))} {sym : String} {ref : TokenRef}
  {l : Listing}

theorem Ranges.exists_iff {venues : List (String × VenueAssets)} (ranges : Ranges venues ranged)
    {p : (Σ _ : String, List AssetAddress) → Prop} :
    (∃ venueMap ∈ ranged, ∃ e ∈ venueMap, p e) ↔ ∃ v ∈ venues, ∃ e ∈ v.2.entries, p e := by
  rcases ranges with ⟨order, perm, each⟩
  have by_order : (∃ venueMap ∈ ranged, ∃ e ∈ venueMap, p e) ↔
      ∃ m ∈ order, ∃ e ∈ m.entries, p e := by
    clear perm
    induction each with
    | nil => simp
    | cons head _ ih =>
        rw [List.exists_mem_cons_iff, List.exists_mem_cons_iff, ih]
        simp only [head.mem_iff]
  rw [by_order]
  constructor
  · rintro ⟨m, member, found⟩
    rcases List.mem_map.mp (perm.mem_iff.mp member) with ⟨v, listed, rfl⟩
    exact ⟨v, listed, found⟩
  · rintro ⟨v, listed, found⟩
    exact ⟨v.2, perm.mem_iff.mpr (List.mem_map_of_mem listed), found⟩

theorem mem_registry {v : String × VenueAssets} :
    v ∈ registry lists ↔ v.1 ∈ fetchers ∧ ∃ ls, lists v.1 = some ls ∧ v.2 = assets ls := by
  unfold registry
  rw [List.mem_filterMap]
  constructor
  · rintro ⟨venue, known, made⟩
    rcases Option.map_eq_some_iff.mp made with ⟨ls, listed, rfl⟩
    exact ⟨known, ls, listed, rfl⟩
  · rintro ⟨known, ls, listed, same⟩
    refine ⟨v.1, known, ?_⟩
    rw [listed, Option.map_some, ← same]

/-- The references of a symbol come from its listings, on any exchange. -/
theorem mem_refs_iff (ranges : Ranges (registry lists) ranged) :
    ref ∈ (refresh chainNames ranged).refs sym ↔ ∃ venue, ∃ l ∈ listings lists venue,
      l.Usable ∧ l.symbol = sym ∧ refOf chainNames l.entry = some ref := by
  rw [mem_refs_refresh_iff, ranges.exists_iff]
  constructor
  · rintro ⟨v, listed, e, entry, -, symbol, a, member, made⟩
    rcases mem_registry.mp listed with ⟨known, ls, given, maps⟩
    rw [maps] at entry
    have here : a ∈ (assets ls).at e.1 := by
      have found : (assets ls).lookup e.1 = some e.2 := AList.mem_lookup_iff.mpr entry
      rw [VenueAssets.at, found]
      exact member
    rcases mem_at_assets.mp here with ⟨l, l_mem, usable, l_symbol, rfl⟩
    refine ⟨v.1, l, ?_, usable, ?_, made⟩
    · rw [listings, if_pos known, given]
      exact l_mem
    · rw [symbol, ← l_symbol, l.symbol_symbol]
  · rintro ⟨venue, l, listed, usable, rfl, made⟩
    unfold listings at listed
    split at listed
    case isFalse => cases listed
    case isTrue known =>
      cases given : lists venue with
      | none =>
          rw [given] at listed
          cases listed
      | some ls =>
          rw [given, Option.getD_some] at listed
          have here : l.entry ∈ (assets ls).at l.symbol :=
            mem_at_assets.mpr ⟨l, listed, usable, rfl, rfl⟩
          unfold VenueAssets.at at here
          cases found : (assets ls).lookup l.symbol with
          | none =>
              rw [found] at here
              cases here
          | some entries =>
              rw [found] at here
              refine ⟨(venue, assets ls), mem_registry.mpr ⟨known, ls, given, rfl⟩,
                ⟨l.symbol, entries⟩, AList.mem_lookup_iff.mp found, ?_, l.symbol_symbol.symm,
                l.entry, here, made⟩
              rw [l.symbol_symbol]
              exact usable.1

/-- A reference is the lower case of the listing's address, on its chain. -/
theorem refOf_entry (usable : l.Usable) :
    refOf chainNames l.entry = some ref ↔ ∃ chainIdx,
      canonicalNameToChainIndex.lookup l.chain = some chainIdx ∧
        ref = { chainIndex := chainIdx, address := lower (trim l.addr),
                chainName := chainNames chainIdx } := by
  have address : lower (trim l.addr) ≠ "" := fun empty => usable.2.2 (lower_eq_empty.mp empty)
  have filled : ¬(l.entry.chain = "" ∨ l.entry.address = "") := by
    rintro (blank | blank)
    · exact usable.2.1 blank
    · exact address blank
  unfold refOf
  rw [if_neg filled]
  simp [Listing.entry, lower_chain, eq_comm]

theorem canonical_of_index {chain chainIdx : String}
    (known : canonicalNameToChainIndex.lookup chain = some chainIdx) :
    okxChainCanonical.lookup chainIdx = some chain ∧ ':' ∉ chainIdx.toList := by
  have inverse : ∀ pair ∈ canonicalNameToChainIndex,
      okxChainCanonical.lookup pair.2 = some pair.1 ∧ ':' ∉ pair.2.toList := by decide +kernel
  rcases List.lookup_eq_some_iff.mp known with ⟨front, back, table, -⟩
  exact inverse (chain, chainIdx) (table ▸ List.mem_append_right _ List.mem_cons_self)

theorem contract_of_ref (usable : l.Usable) (made : refOf chainNames l.entry = some ref) :
    ref.contract = ⟨l.chain, lower (trim l.addr)⟩ ∧ lower ref.address = ref.address ∧
      ':' ∉ ref.chainIndex.toList := by
  rcases (refOf_entry usable).mp made with ⟨chainIdx, known, rfl⟩
  rcases canonical_of_index known with ⟨canonical, plain⟩
  refine ⟨?_, lower_lower _, plain⟩
  simp [TokenRef.contract, contractAt, canonical, contractOf]

/-! ## Prices and references -/

variable {quote : Contract → Option Float64} {reply : Nat → List PriceReq → Reply}
  {key : String} {px : Float64} {refs : List PriceReq}

/-- A price comes from a row of its key, for something asked for. -/
def Quoted (quote : Contract → Option Float64) (refs : List PriceReq) (key : String)
    (px : Float64) : Prop :=
  ∃ req ∈ refs, ∃ address, key = priceKey req.chainIndex address ∧
    contractAt req.chainIndex req.tokenContractAddress = contractAt req.chainIndex address ∧
    quote (contractAt req.chainIndex address) = some px

theorem lookup_notePrice {out : Prices} {r : PriceRow}
    (found : (notePrice out r).lookup key = some px) :
    out.lookup key = some px ∨
      key = priceKey r.chainIndex r.tokenContractAddress ∧ r.price = some px := by
  unfold notePrice at found
  split at found
  case h_1 => exact Or.inl found
  case h_2 px' read =>
    split at found
    · exact Or.inl found
    · by_cases same : key = priceKey r.chainIndex r.tokenContractAddress
      · subst same
        rw [AList.lookup_insert] at found
        exact Or.inr ⟨rfl, read.trans found⟩
      · rw [AList.lookup_insert_ne same] at found
        exact Or.inl found

theorem quoted_of_rows {rows : List PriceRow} {out : Prices}
    (held : ∀ key px, out.lookup key = some px → Quoted quote refs key px)
    (honest : ∀ row ∈ rows,
      row.price = quote (contractAt row.chainIndex row.tokenContractAddress) ∧
      ∃ req ∈ refs, req.chainIndex = row.chainIndex ∧
        contractAt req.chainIndex req.tokenContractAddress =
          contractAt row.chainIndex row.tokenContractAddress) :
    ∀ key px, (rows.foldl notePrice out).lookup key = some px → Quoted quote refs key px := by
  induction rows generalizing out with
  | nil => exact held
  | cons row rest ih =>
      refine ih (fun key px found => ?_) fun row' later => honest row' (List.mem_cons_of_mem _ later)
      rcases lookup_notePrice found with old | ⟨rfl, price⟩
      · exact held key px old
      · rcases honest row List.mem_cons_self with ⟨own, req, member, chain, same⟩
        refine ⟨req, member, row.tokenContractAddress, by rw [chain], ?_, ?_⟩
        · rw [same, chain]
        · rw [chain, ← own, price]

theorem quoted_of_fetchChunks (honest : Quotes quote reply) {parts : List (List PriceReq)}
    (within : ∀ chunk ∈ parts, ∀ req ∈ chunk, req ∈ refs) {i : Nat} {out : Prices}
    {lastErr : Option String} (held : ∀ key px, out.lookup key = some px → Quoted quote refs key px) :
    ∀ key px, (fetchChunks reply i parts out lastErr).1.lookup key = some px →
      Quoted quote refs key px := by
  induction parts generalizing i out lastErr with
  | nil => exact held
  | cons chunk rest ih =>
      have later : ∀ chunk ∈ rest, ∀ req ∈ chunk, req ∈ refs := fun chunk member =>
        within chunk (List.mem_cons_of_mem _ member)
      unfold fetchChunks
      cases answer : reply i chunk with
      | rows rows =>
          refine ih later (quoted_of_rows held fun row member => ?_)
          rcases honest i chunk rows answer row member with ⟨price, req, asked, same⟩
          exact ⟨price, req, within chunk List.mem_cons_self req asked, same⟩
      | failed err => exact ih later held
      | cancelled err => exact held

theorem quoted_of_fetchPrices (honest : Quotes quote reply)
    (found : (fetchPrices reply refs).1.lookup key = some px) : Quoted quote refs key px := by
  refine quoted_of_fetchChunks honest (fun chunk member req asked => ?_) (fun _ _ none => ?_) key px
    found
  · rcases List.mem_map.mp member with ⟨i, -, rfl⟩
    exact List.mem_of_mem_drop (List.mem_of_mem_take asked)
  · cases none

theorem priceKey_inj {c c' a a' : String} (plain : ':' ∉ c.toList) (plain' : ':' ∉ c'.toList)
    (same : priceKey c a = priceKey c' a') : c = c' ∧ lower a = lower a' := by
  have texts := congrArg String.toList same
  have colon : (":" : String).toList = [':'] := rfl
  simp only [priceKey, String.toList_append, colon, List.append_assoc, List.singleton_append]
    at texts
  rcases Go.separator_inj plain plain' texts with ⟨chain, address⟩
  exact ⟨String.toList_inj.mp chain, String.toList_inj.mp address⟩

/-- The price found for a reference is that of its contract. -/
theorem quote_of_found (ranges : Ranges (registry lists) ranged) (honest : Quotes quote reply)
    {asked : List TokenRef}
    (known : ∀ ref ∈ asked, ∃ sym, ref ∈ (refresh chainNames ranged).refs sym)
    (member : ref ∈ (refresh chainNames ranged).refs sym)
    (found : (fetchPrices reply (asked.map TokenRef.req)).1.lookup
      (priceKey ref.chainIndex ref.address) = some px) : quote ref.contract = some px := by
  rcases quoted_of_fetchPrices honest found with ⟨req, requested, address, key, same, price⟩
  rcases List.mem_map.mp requested with ⟨other, other_asked, rfl⟩
  rcases known other other_asked with ⟨other_sym, other_mem⟩
  rcases (mem_refs_iff ranges).mp member with ⟨-, l, -, usable, -, made⟩
  rcases (mem_refs_iff ranges).mp other_mem with ⟨-, l', -, usable', -, made'⟩
  rcases contract_of_ref usable made with ⟨-, lowered, plain⟩
  rcases contract_of_ref usable' made' with ⟨-, lowered', plain'⟩
  rcases priceKey_inj plain plain' key with ⟨chain, address_same⟩
  rw [← price]
  congr 1
  have chain_same : ref.chainIndex = other.req.chainIndex := chain
  unfold TokenRef.contract
  rw [chain_same]
  unfold contractAt contractOf at same ⊢
  split
  case isTrue base58 =>
    -- the address that came back is the one asked for, and so in lower case
    rw [if_pos base58, if_pos base58] at same
    have back : other.address = address := congrArg Contract.address same
    rw [← lowered, address_same, ← back, lowered']
  case isFalse => rw [address_same]

/-- The contract of a reference is that of its listing, where case means nothing. -/
theorem contract_eq_of_caseless (usable : l.Usable) (caseless : l.Caseless)
    (made : refOf chainNames l.entry = some ref) : ref.contract = l.contract := by
  rw [(contract_of_ref usable made).1]
  unfold Listing.contract contractOf
  split
  case isTrue base58 => rw [(caseless_text_iff.mpr (caseless base58)).1]
  case isFalse => rfl

theorem refsIdentified_of_caseless (ranges : Ranges (registry lists) ranged)
    (caseless : ∀ venue, ∀ l ∈ listings lists venue, l.Usable → l.Caseless) :
    RefsIdentified lists (refresh chainNames ranged) where
  listed := by
    intro sym ref member
    rcases (mem_refs_iff ranges).mp member with ⟨venue, l, listed, usable, symbol, made⟩
    have contract := contract_eq_of_caseless usable (caseless venue l listed usable) made
    exact ⟨venue, l, listed, usable, symbol, contract.symm⟩
  kept := by
    intro venue l listed usable priced
    rcases Option.isSome_iff_exists.mp priced with ⟨chainIdx, known⟩
    have made : refOf chainNames l.entry = some ⟨chainIdx, lower (trim l.addr), 0,
        chainNames chainIdx⟩ := (refOf_entry usable).mpr ⟨chainIdx, known, rfl⟩
    exact ⟨_, (mem_refs_iff ranges).mpr ⟨venue, l, listed, usable, rfl, made⟩,
      contract_eq_of_caseless usable (caseless venue l listed usable) made⟩
  priced := fun _ _ honest _ known _ _ member _ found =>
    quote_of_found ranges honest known member found

/-- A base58 address that keeps its reference is in lower case. -/
theorem lower_of_kept (ranges : Ranges (registry lists) ranged)
    (identified : RefsIdentified lists (refresh chainNames ranged)) {venue : String}
    (member : l ∈ listings lists venue) (usable : l.Usable) (base58 : l.chain ∈ base58Chains) :
    lower (trim l.addr) = trim l.addr := by
  have priced : ∀ chain ∈ base58Chains, (canonicalNameToChainIndex.lookup chain).isSome := by
    decide +kernel
  rcases identified.kept venue l member usable (priced _ base58) with ⟨ref, ref_mem, same⟩
  rcases (mem_refs_iff ranges).mp ref_mem with ⟨-, l', -, usable', -, made⟩
  rw [(contract_of_ref usable' made).1] at same
  have address : lower (trim l'.addr) = trim l.addr := by
    have texts := congrArg Contract.address same
    simpa [Listing.contract, contractOf, base58] using texts
  rw [← address, lower_lower]

/-- The identity of contracts survives the index, the prices and the matching exactly where no
exchange lists a base58 address with a letter. -/
theorem identity_survives_iff (lists : String → Option (List Listing)) (chainNames : String → String)
    (ranged : List (List (Σ _ : String, List AssetAddress)))
    (ranges : Ranges (registry lists) ranged) :
    RefsIdentified lists (refresh chainNames ranged) ∧ MatchesIdentified lists ↔
      ∀ venue, ∀ l ∈ listings lists venue, l.Usable → l.chain ∈ base58Chains →
        ¬HasLetter (trim l.addr) := by
  constructor
  · rintro ⟨refs, matched⟩ venue l member usable base58
    have canonical : trim l.chain = l.chain := by
      have plain : ∀ chain ∈ base58Chains, trim chain = chain := by decide +kernel
      exact plain _ base58
    rcases upper_listed matched member usable base58 canonical with
      ⟨l', listed, usable', -, contract⟩
    have chain : l'.chain = l.chain := congrArg Contract.chain contract
    have address : trim l'.addr = upper (trim l.addr) := by
      have texts := congrArg Contract.address contract
      simpa [Listing.contract, contractOf, chain, base58] using texts
    have low := lower_of_kept ranges refs member usable base58
    have low' := lower_of_kept ranges refs listed usable' (chain ▸ base58)
    rw [address, lower_upper, low] at low'
    exact caseless_text_iff.mp ⟨low, low'.symm⟩
  · intro caseless
    exact ⟨refsIdentified_of_caseless ranges caseless, matchesIdentified_of_caseless caseless⟩

end

/-- An order of ranging there is. -/
def ranging (venues : List (String × VenueAssets)) : List (List (Σ _ : String, List AssetAddress)) :=
  venues.map fun v => v.2.entries

theorem ranges_ranging (venues : List (String × VenueAssets)) : Ranges venues (ranging venues) := by
  refine ⟨venues.map Prod.snd, List.Perm.refl _, ?_⟩
  unfold ranging
  rw [List.forall₂_map_left_iff, List.forall₂_map_right_iff]
  exact List.forall₂_same.mpr fun v _ => List.Perm.refl _

/-- Gate lists one token on one chain. -/
def gateOnly (row : GateCurrency) (venue : String) : Option (List Listing) :=
  if venue = "gate" then some (gateListings [row]) else none

def usdt : GateCurrency :=
  ⟨"USDT", false, false, [⟨"ETH", "0xdAC17F958D2ee523a2206206994597C13D831ec7", false, false⟩]⟩

def bonk : GateCurrency :=
  ⟨"BONK", false, false,
    [⟨"SOL", "DezXAZ8z7PnrnRJjz3wXBoRgixCa6xjnB7YaB1pPB263", false, false⟩]⟩

theorem mem_gateOnly {row : GateCurrency} {venue : String} {l : Listing}
    (member : l ∈ listings (gateOnly row) venue) : l ∈ gateListings [row] := by
  unfold listings gateOnly at member
  split at member
  case isTrue =>
    split at member
    · exact member
    · cases member
  case isFalse => cases member

theorem identity_survives_usdt :
    RefsIdentified (gateOnly usdt) (refresh (fun _ => "") (ranging (registry (gateOnly usdt)))) ∧
      MatchesIdentified (gateOnly usdt) := by
  refine (identity_survives_iff (gateOnly usdt) _ _ (ranges_ranging _)).mpr ?_
  intro venue l member _ base58
  have evm : ∀ l ∈ gateListings [usdt], l.chain ∉ base58Chains := by decide +kernel
  exact absurd base58 (evm l (mem_gateOnly member))

/-- The reference of BONK is not its contract, and its address in upper case passes for it. -/
theorem identity_lost_bonk :
    ¬RefsIdentified (gateOnly bonk) (refresh (fun _ => "") (ranging (registry (gateOnly bonk)))) ∧
      ¬MatchesIdentified (gateOnly bonk) := by
  have row : ∀ l ∈ gateListings [bonk], l.Usable ∧ l.chain = "solana" ∧
      lower (trim l.addr) ≠ trim l.addr ∧ trim l.addr ≠ upper (trim l.addr) := by decide +kernel
  have here : gateListing "BONK"
      ⟨"SOL", "DezXAZ8z7PnrnRJjz3wXBoRgixCa6xjnB7YaB1pPB263", false, false⟩ ∈
        listings (gateOnly bonk) "gate" := List.mem_singleton.mpr rfl
  rcases row _ (mem_gateOnly here) with ⟨usable, chain, mixed, _⟩
  have base58 := chain.symm ▸ (by decide : "solana" ∈ base58Chains)
  refine ⟨fun identified => mixed (lower_of_kept (ranges_ranging _) identified here usable base58),
    fun identified => ?_⟩
  have canonical : trim "solana" = "solana" := by decide +kernel
  rcases upper_listed identified here usable base58 (by rw [chain, canonical]) with
    ⟨l', listed, -, -, contract⟩
  have only : l' = gateListing "BONK"
      ⟨"SOL", "DezXAZ8z7PnrnRJjz3wXBoRgixCa6xjnB7YaB1pPB263", false, false⟩ :=
    List.mem_singleton.mp (mem_gateOnly listed)
  subst only
  have address := congrArg Contract.address contract
  simp only [Listing.contract, contractOf, if_pos base58] at address
  exact (row _ (mem_gateOnly here)).2.2.2 address

end Dex

end Avalant
