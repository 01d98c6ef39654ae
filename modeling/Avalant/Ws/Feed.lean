import Avalant.Lib.Go
import Avalant.Lib.Replica
import Avalant.Db.Models

/-!
The tables of the screener channels: rows, their keys, and the frames that carry
them.

The channels are written alike. What tells one from another is a `Feed`: how its
rows are keyed and compared, when its guard holds a table back, and what it
remembers of the file. Values are what `encoding/json` decodes, equal when
`reflect.DeepEqual` says so.
-/

namespace Avalant

open Replica

/-! ## Rows and keys -/

/-- What the code asks of a decoded value. -/
structure Values (V : Type) where
  /-- `v.(string)`. -/
  asString : V → Option String
  /-- Whether `v` is an object. -/
  isMap : V → Bool
  /-- Whether `v` is an array. -/
  isSlice : V → Bool
  /-- `v` in a template literal of the page. -/
  template : V → String
  template_eq : ∀ v s, asString v = some s → template v = s

/-- A decoded object. A null reads as a field that is not there, and what is not an object as one
without fields. -/
abbrev Row (V : Type) := String → Option V

/-- `parts.join('|')`. -/
def joinBar (parts : List String) : String :=
  String.ofList (['|'].intercalate (parts.map String.toList))

section

variable {V : Type}

/-- `s, _ := row[field].(string)`. -/
def text (values : Values V) (row : Row V) (field : String) : String :=
  ((row field).bind values.asString).getD ""

/-- The texts of these fields between bars, unless one is missing. -/
def rowKey (values : Values V) (fields : List String) (row : Row V) : Option String :=
  if ∃ field ∈ fields, text values row field = "" then none
  else some (joinBar (fields.map (text values row)))

/-- The key the page gives a row, whatever it holds. -/
def templateKey (values : Values V) (fields : List String) (row : Row V) : Option String :=
  some (joinBar (fields.map fun field => ((row field).map values.template).getD "undefined"))

/-- The page and the server key a row alike, when the server keys it. -/
theorem templateKey_eq {values : Values V} {fields : List String} {row : Row V} {k : String}
    (keyed : rowKey values fields row = some k) : templateKey values fields row = some k := by
  unfold rowKey at keyed
  split at keyed
  · cases keyed
  case isFalse present =>
    cases keyed
    unfold templateKey
    congr 2
    apply List.map_congr_left
    intro field member
    have nonempty : text values row field ≠ "" := fun empty => present ⟨field, member, empty⟩
    unfold text at nonempty ⊢
    cases value : row field with
    | none =>
        rw [value] at nonempty
        exact absurd rfl nonempty
    | some v =>
        rw [value] at nonempty
        cases string : values.asString v with
        | none =>
            rw [Option.bind_some, string] at nonempty
            exact absurd rfl nonempty
        | some s =>
            rw [Option.bind_some, string]
            exact values.template_eq v s string

/-- Whether two rows differ in one of these fields. -/
def fieldsDiffer [DecidableEq V] (fields : List String) (a b : Row V) : Bool :=
  fields.any fun field => a field ≠ b field

theorem fieldsDiffer_eq_false [DecidableEq V] {fields : List String} {a b : Row V} :
    fieldsDiffer fields a b = false ↔ ∀ field ∈ fields, a field = b field := by
  simp [fieldsDiffer]

theorem fieldsDiffer_equivalence [DecidableEq V] (fields : List String) :
    Equivalence fun a b : Row V => fieldsDiffer fields a b = false where
  refl _ := fieldsDiffer_eq_false.mpr fun _ _ => rfl
  symm same := fieldsDiffer_eq_false.mpr fun field member =>
    (fieldsDiffer_eq_false.mp same field member).symm
  trans first second := fieldsDiffer_eq_false.mpr fun field member =>
    (fieldsDiffer_eq_false.mp first field member).trans
      (fieldsDiffer_eq_false.mp second field member)

end

/-- A key cut at every bar. -/
def splitBars (k : String) : List String :=
  Go.split k '|'

theorem joinBar_splitBars (k : String) : joinBar (splitBars k) = k := by
  have parts : (splitBars k).map String.toList = k.toList.splitOn '|' := by
    unfold splitBars Go.split
    rw [List.map_map]
    have same : String.toList ∘ String.ofList = id := funext fun _ => String.toList_ofList
    rw [same, List.map_id]
  unfold joinBar
  rw [parts, List.intercalate_splitOn, String.ofList_toList]

/-- A key cut at its first bar. -/
def splitFundingKey (k : String) : List String :=
  match k.toList.dropWhile (· != '|') with
  | [] => [k]
  | _ :: rest => [String.ofList (k.toList.takeWhile (· != '|')), String.ofList rest]

theorem joinBar_splitFundingKey (k : String) : joinBar (splitFundingKey k) = k := by
  have whole : k.toList.takeWhile (· != '|') ++ k.toList.dropWhile (· != '|') = k.toList :=
    List.takeWhile_append_dropWhile
  unfold splitFundingKey
  split
  · simp [joinBar]
  case h_2 c rest cut =>
    have bar : c = '|' := by
      have head := List.head?_dropWhile_not (· != '|') k.toList
      rw [cut] at head
      simpa using head
    rw [cut, bar] at whole
    simp [joinBar, whole]

/-! ## Documents and frames -/

section

variable {V : Type}

/-- A decoded file: its rows, and its fields. -/
structure Doc (V : Type) where
  rows : List (Row V)
  fields : Row V := fun _ => none

/-- One message to a client. -/
inductive Frame (V : Type)
  | snapshot (doc : Doc V)
  | diff (added updated : List (Row V)) (removed : List (List String)) (info : Option (List (Option V)))

/-- What tells a channel from the others. -/
structure Feed (V : Type) where
  /-- The server's key of a row. -/
  key : Row V → Option String
  /-- The page's. -/
  clientKey : Row V → Option String
  clientKey_eq : ∀ {row k}, key row = some k → clientKey row = some k
  differs : Row V → Row V → Bool
  equivalence : Equivalence fun a b => differs a b = false
  splitKey : String → List String
  joinBar_splitKey : ∀ k, joinBar (splitKey k) = k
  /-- The fields beside the rows whose changes are sent. -/
  info : Row V → List (Option V)
  /-- Tables of up to this many rows are not guarded. -/
  unguarded : Nat
  /-- How long after a broadcast the guard holds a table back, if it ever ends. -/
  window : Option Time
  /-- Whether it remembers the file: by the modification time, to pass it over, and as the first
  snapshot, before a tick has broadcast. -/
  remembersFile : Bool

namespace Feed

variable (feed : Feed V)

/-- Rows under their keys. A row without one is passed over. -/
def keyed (key : Row V → Option String) (rows : List (Row V)) : List (String × Row V) :=
  rows.filterMap fun row => (key row).map fun k => (k, row)

/-- The table of the server: the last row of each key. -/
def byKey (rows : List (Row V)) : Store String (Row V) :=
  upsert ∅ (keyed feed.key rows)

/-- The table of a client that receives this snapshot. -/
def tableOf (doc : Doc V) : Store String (Row V) :=
  upsert ∅ (keyed feed.clientKey doc.rows)

/-- A client applies a frame. -/
def applyFrame (t : Store String (Row V)) : Frame V → Store String (Row V)
  | .snapshot doc => feed.tableOf doc
  | .diff added updated removed _ =>
      removeAll (upsert (upsert t (keyed feed.clientKey added)) (keyed feed.clientKey updated))
        (removed.map joinBar)

/-- The diff of two tables. -/
def diffFrame (old new : Store String (Row V)) (info : Option (List (Option V))) : Frame V :=
  let d := diff feed.differs old new
  .diff (d.added.map Prod.snd) (d.updated.map Prod.snd) (d.removed.map feed.splitKey) info

variable {feed}

theorem mem_keyed {key : Row V → Option String} {rows : List (Row V)} {k : String} {row : Row V} :
    (k, row) ∈ keyed key rows ↔ row ∈ rows ∧ key row = some k := by
  unfold keyed
  rw [List.mem_filterMap]
  constructor
  · intro given
    rcases given with ⟨row', member, stored⟩
    obtain ⟨k', known, pair⟩ := Option.map_eq_some_iff.mp stored
    obtain ⟨rfl, rfl⟩ := Prod.mk.inj pair
    exact ⟨member, known⟩
  · intro given
    rcases given with ⟨member, known⟩
    exact ⟨row, member, by rw [known]; rfl⟩

theorem mem_of_byKey {rows : List (Row V)} {k : String} {row : Row V}
    (found : (feed.byKey rows).lookup k = some row) : row ∈ rows ∧ feed.key row = some k := by
  unfold byKey at found
  rw [lookup_upsert, AList.lookup_empty, Option.or_none] at found
  exact mem_keyed.mp (mem_of_lastOf found)

/-- When page and server key the rows alike, they build one table. -/
theorem tableOf_eq_byKey {doc : Doc V}
    (alike : ∀ row ∈ doc.rows, feed.clientKey row = feed.key row) :
    feed.tableOf doc = feed.byKey doc.rows := by
  have same : keyed feed.clientKey doc.rows = keyed feed.key doc.rows := by
    unfold keyed
    apply List.filterMap_congr
    intro row member
    rw [alike row member]
  unfold tableOf byKey
  rw [same]

/-- A page finds the keys of rows that come from a table of the server. -/
theorem keyed_of_byKey {rows : List (Row V)} {changes : List (String × Row V)}
    (stored : ∀ k row, (k, row) ∈ changes → (feed.byKey rows).lookup k = some row) :
    keyed feed.clientKey (changes.map Prod.snd) = changes := by
  unfold keyed
  rw [List.filterMap_map]
  have same : ∀ change ∈ changes,
      ((fun row => (feed.clientKey row).map fun k => (k, row)) ∘ Prod.snd) change = some change := by
    intro change member
    have known := (mem_of_byKey (stored change.1 change.2 member)).2
    dsimp only [Function.comp]
    rw [feed.clientKey_eq known]
    rfl
  rw [List.filterMap_congr same, List.filterMap_some]

/-- A client applies the frame of a diff as the diff. -/
theorem applyFrame_diffFrame {old t : Store String (Row V)} {rows : List (Row V)}
    {info : Option (List (Option V))} :
    feed.applyFrame t (feed.diffFrame old (feed.byKey rows) info) =
      (diff feed.differs old (feed.byKey rows)).apply t := by
  have added : keyed feed.clientKey ((diff feed.differs old (feed.byKey rows)).added.map Prod.snd) =
      (diff feed.differs old (feed.byKey rows)).added :=
    keyed_of_byKey fun _ _ member => (mem_added.mp member).1
  have updated : keyed feed.clientKey ((diff feed.differs old (feed.byKey rows)).updated.map Prod.snd) =
      (diff feed.differs old (feed.byKey rows)).updated :=
    keyed_of_byKey fun _ _ member => (mem_updated.mp member).1
  have removed : ((diff feed.differs old (feed.byKey rows)).removed.map feed.splitKey).map joinBar =
      (diff feed.differs old (feed.byKey rows)).removed := by
    rw [List.map_map]
    have same : joinBar ∘ feed.splitKey = id := funext feed.joinBar_splitKey
    rw [same, List.map_id]
  unfold diffFrame Diff.apply
  dsimp only [applyFrame]
  rw [added, updated, removed]

end Feed

end

/-! ## The channels -/

section

variable {V : Type} [DecidableEq V] (values : Values V)

/-! ### `longshort.go` -/

def arbKeyFields : List String := ["symbol", "long_exchange", "short_exchange"]

def arbKey : Row V → Option String :=
  rowKey values arbKeyFields

def splitArbKey : String → List String := splitBars

def oppDiffers : Row V → Row V → Bool :=
  fieldsDiffer ["long_rate", "short_rate", "long_price", "short_price", "long_volume",
    "short_volume", "gross_funding", "price_spread", "net_profit", "net_apr", "in_pct", "out_pct",
    "valid_price"]

def longShort : Feed V where
  key := arbKey values
  clientKey := templateKey values arbKeyFields
  clientKey_eq := templateKey_eq
  differs := oppDiffers
  equivalence := fieldsDiffer_equivalence _
  splitKey := splitArbKey
  joinBar_splitKey := joinBar_splitBars
  info data := [(data "fees").filter values.isMap, (data "exchanges").filter values.isSlice]
  unguarded := 0
  window := some 5
  remembersFile := true

/-! ### `dexshort.go` -/

def dexKeyFields : List String := ["symbol", "short_exchange"]

def dexKey : Row V → Option String :=
  rowKey values dexKeyFields

def splitDexKey : String → List String := splitBars

def dexOppDiffers : Row V → Row V → Bool :=
  fieldsDiffer ["dex_chain", "dex_name", "dex_price", "perp_price", "dex_liquidity_usd",
    "dex_volume_usd", "perp_volume_usd", "funding_rate", "short_funding_8h", "basis_pct", "gross",
    "net_profit", "net_apr", "in_pct", "out_pct"]

def dexShort : Feed V where
  key := dexKey values
  clientKey := templateKey values dexKeyFields
  clientKey_eq := templateKey_eq
  differs := dexOppDiffers
  equivalence := fieldsDiffer_equivalence _
  splitKey := splitDexKey
  joinBar_splitKey := joinBar_splitBars
  info data := [data "symbols_scanned", data "dex_hits"]
  unguarded := 0
  window := some 5
  remembersFile := true

/-! ### `dexspot.go` -/

def dexSpotKeyFields : List String := ["symbol", "cex_exchange"]

def dexSpotKey : Row V → Option String :=
  rowKey values dexSpotKeyFields

def splitDexSpotKey : String → List String := splitBars

def dexSpotOppDiffers : Row V → Row V → Bool :=
  fieldsDiffer ["direction", "dex_chain", "dex_name", "dex_price", "cex_spot_price",
    "dex_liquidity_usd", "dex_volume_usd", "cex_volume_usd", "spread_pct", "abs_spread_pct",
    "net_pct"]

def dexSpot : Feed V where
  key := dexSpotKey values
  clientKey := templateKey values dexSpotKeyFields
  clientKey_eq := templateKey_eq
  differs := dexSpotOppDiffers
  equivalence := fieldsDiffer_equivalence _
  splitKey := splitDexSpotKey
  joinBar_splitKey := joinBar_splitBars
  info data :=
    [data "symbols_scanned", data "cex_hits", (data "cex_exchanges").filter values.isSlice]
  unguarded := 0
  window := some 5
  remembersFile := true

/-! ### `funding.go` -/

def fundingKeyFields : List String := ["exchange", "symbol"]

def fundingKey : Row V → Option String :=
  rowKey values fundingKeyFields

def fundingDiffers : Row V → Row V → Bool :=
  fieldsDiffer ["rate", "price", "volume_usd", "next_ts", "interval_h", "apr"]

/-- Its page passes over rows without a key. It does not remember the file, and its guard has no
end. -/
def funding : Feed V where
  key := fundingKey values
  clientKey := fundingKey values
  clientKey_eq := id
  differs := fundingDiffers
  equivalence := fieldsDiffer_equivalence _
  splitKey := splitFundingKey
  joinBar_splitKey := joinBar_splitFundingKey
  info _ := []
  unguarded := 100
  window := none
  remembersFile := false

end

end Avalant
