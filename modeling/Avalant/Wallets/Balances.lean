import Avalant.Lib.Aggregate
import Avalant.Lib.Rounding
import Avalant.Wallets.Service

/-!
`fetch_balances_stream`: the balances of a list of wallets, fetched concurrently,
with what one run yields and writes.

The current total is accumulated while the fetches come in, over all of them; the
previous total is summed before that, over all snapshots. A failed wallet is in
the second sum only and a wallet without a snapshot in the first only, so the
aggregate PnL is the change of the wallets in both sums exactly when what the
others add on either side is the same.

Amounts are exact decimals. The texts a PnL is printed as are left out.
-/

namespace Avalant

open Relational

namespace Balances

/-! ## Stable totals -/

/-- `STABLE_COINS`. -/
def stableCoins : List String :=
  ["USD", "USDT", "USDC", "USDC.E", "USDCE", "DAI", "USDE", "BUSD", "TUSD", "USDP", "USDD",
   "FDUSD", "PYUSD"]

/-- The characters outside the occurrences of `needle`, found from left to right; `skip` of them
still belong to the last one found. -/
def dropOccurrences (needle : List Char) : ℕ → List Char → List Char
  | _, [] => []
  | skip + 1, _ :: rest => dropOccurrences needle skip rest
  | 0, c :: rest =>
      if needle.isPrefixOf (c :: rest) then dropOccurrences needle (needle.length - 1) rest
      else c :: dropOccurrences needle 0 rest

/-- `asset.upper().replace("_PERP", "")`. -/
def normalized (asset : String) : String :=
  String.ofList (dropOccurrences "_PERP".toList 0 (Python.upper asset).toList)

def isStable (asset : String) : Bool := normalized asset ∈ stableCoins

example : normalized "usdt_perp" = "USDT" := by decide

/-- A `totals` object: an amount for each asset, in the order of its keys. -/
abbrev Totals := List (String × ℚ)

/-- The sum of the amounts of the assets that a test selects. -/
def sumOf (p : String → Bool) (totals : Totals) : ℚ :=
  ((totals.filter fun entry => p entry.1).map Prod.snd).sum

/-- `_stable_sum`. -/
def stableSum (totals : Totals) : ℚ := sumOf isStable totals

/-- `totals[asset] += amount` on a `defaultdict(Decimal)`. -/
def addTotal : Totals → String × ℚ → Totals
  | [], entry => [(entry.1, 0 + entry.2)]
  | (asset, amount) :: rest, entry =>
      if asset = entry.1 then (asset, amount + entry.2) :: rest
      else (asset, amount) :: addTotal rest entry

@[simp] theorem sumOf_nil (p : String → Bool) : sumOf p [] = 0 := rfl

/-! ## PnL -/

inductive Direction
  | up | down | flat
  deriving DecidableEq, Repr

/-- A `PnL` before it is printed. -/
structure Pnl where
  prev : ℚ
  abs : ℚ
  pct : ℚ
  direction : Direction
  deriving DecidableEq, Repr

/-- `_compute_pnl`. -/
def computePnl (current previous : ℚ) : Option Pnl :=
  if previous = 0 ∧ current = 0 then none
  else
    let diff := current - previous
    if diff = 0 then some ⟨previous, 0, 0, .flat⟩
    else
      let pct := if previous ≠ 0 then diff / previous * 100 else 0
      some ⟨previous, diff, pct, if 0 < diff then .up else .down⟩

/-- The change a PnL tells; no PnL tells none. -/
def change (pnl : Option Pnl) : ℚ := pnl.elim 0 Pnl.abs

theorem change_computePnl (current previous : ℚ) :
    change (computePnl current previous) = current - previous := by
  unfold computePnl
  split
  case isTrue both =>
    rw [both.1, both.2, sub_zero]
    rfl
  case isFalse =>
    dsimp only
    split
    case isTrue same => exact same.symm
    case isFalse => rfl

/-! ## One wallet -/

/-- A row of `wallets` with its name and the names of its tags. -/
structure TaggedWallet extends Wallet where
  name : String
  tags : List String
  deriving DecidableEq, Repr

def TaggedWallet.isOwner (wallet : TaggedWallet) : Bool :=
  wallet.tags.any fun name => name == "Owner"

/-- A row of `balance_snapshots`, keyed by its unique `wallet_id`. -/
structure BalanceSnapshot where
  walletId : Nat
  userId : Nat
  totals : Totals
  stableTotal : ℚ
  snapshotAt : Time
  deriving DecidableEq, Repr

instance : Keyed BalanceSnapshot := ⟨BalanceSnapshot.walletId⟩

/-- What `_fetch_single` returns: a result, else an error and its type. The totals are those of
`BalanceResult`, empty for `None`. -/
structure Fetched where
  result : Option Totals
  error : Option String := none
  etype : Option String := none
  deriving DecidableEq, Repr

/-- A message of the queue. -/
structure Arrival where
  wallet : TaggedWallet
  fetched : Fetched
  deriving DecidableEq, Repr

structure WalletBalanceResult where
  walletId : Nat
  walletName : String
  walletType : WalletType
  typeValue : String
  totals : Totals
  usdValues : List (String × ℚ)
  usdTotal : ℚ
  error : Option String
  pnl : Option Pnl
  deriving DecidableEq, Repr

section

-- `get_usd_value`: the value of an amount of an asset, unless its price is unknown
variable (getUsdValue : String → ℚ → Option ℚ)

/-- The values of the assets with a price. -/
def usdValues (totals : Totals) : List (String × ℚ) :=
  totals.filterMap fun entry => (getUsdValue entry.1 entry.2).map fun uv => (entry.1, uv)

/-- Values as they are printed. -/
def cents (values : List (String × ℚ)) : List (String × ℚ) :=
  values.map fun entry => (entry.1, Python.round entry.2 2)

/-- `_build_wallet_result`. -/
def buildWalletResult (wallet : TaggedWallet) (fetched : Fetched)
    (prevSnap : Option BalanceSnapshot) : WalletBalanceResult × ℚ :=
  match fetched.result with
  | none =>
      ({ walletId := wallet.id, walletName := wallet.name, walletType := wallet.walletType,
         typeValue := wallet.typeValue, totals := [], usdValues := [], usdTotal := 0,
         error := some (Python.orStr fetched.error "Unknown error"), pnl := none }, 0)
  | some totals =>
      let currStable := stableSum totals
      let values := usdValues getUsdValue totals
      ({ walletId := wallet.id, walletName := wallet.name, walletType := wallet.walletType,
         typeValue := wallet.typeValue, totals := totals, usdValues := cents values,
         usdTotal := Python.round (values.map Prod.snd).sum 2, error := none,
         pnl := prevSnap.bind fun snap => computePnl currStable snap.stableTotal }, currStable)

/-! ## The stream -/

/-- A call of `fetch_balances_stream`: the wallets of a query, and the queue as it is filled, one
message for each wallet in the order of completion. -/
structure Fetches where
  dbWallets : List TaggedWallet
  distinct : (dbWallets.map fun wallet => wallet.id).Nodup
  queue : List Arrival
  each : (queue.map Arrival.wallet).Perm dbWallets

structure ProviderErrorLog where
  walletType : WalletType
  typeValue : String
  errorType : String
  createdAt : Time
  deriving DecidableEq, Repr

structure BalanceHistory where
  userId : Nat
  usdTotal : ℚ
  totals : Option Totals
  snapshotAt : Time
  deriving DecidableEq, Repr

structure BalanceDb where
  snapshots : Table BalanceSnapshot := Table.empty
  errorLogs : List ProviderErrorLog := []
  history : List BalanceHistory := []

/-- `prev_snapshots`. -/
def prevSnapshots (db : BalanceDb) (dbWallets : List TaggedWallet) : Table BalanceSnapshot :=
  let walletIds := dbWallets.map fun wallet => wallet.id
  db.snapshots.select fun snap => walletIds.contains snap.walletId

/-- An element of `collected`. -/
structure Outcome where
  arrival : Arrival
  walletResult : WalletBalanceResult
  prevSnap : Option BalanceSnapshot
  deriving DecidableEq, Repr

/-- What the loop over the queue accumulates. -/
structure Collected where
  collected : List Outcome := []
  currAggStable : ℚ := 0
  aggregatedTotals : Totals := []

/-- One round of the loop over the queue. -/
def collect (prev : Table BalanceSnapshot) (acc : Collected) (arrival : Arrival) : Collected :=
  let prevSnap := prev.get? arrival.wallet.id
  let built := buildWalletResult getUsdValue arrival.wallet arrival.fetched prevSnap
  { collected := acc.collected ++ [⟨arrival, built.1, prevSnap⟩]
    currAggStable := acc.currAggStable + built.2
    aggregatedTotals := (arrival.fetched.result.getD []).foldl addTotal acc.aggregatedTotals }

/-- The write for one wallet: an error log, else the snapshot of the row that was loaded, else a new
one. -/
def writeOutcome (now : Time) (db : BalanceDb) (outcome : Outcome) : BalanceDb :=
  let wallet := outcome.arrival.wallet
  match outcome.arrival.fetched.result, outcome.prevSnap with
  | none, _ =>
      let log := ⟨wallet.walletType, wallet.typeValue,
        Python.orStr outcome.arrival.fetched.etype "unknown", now⟩
      { db with errorLogs := db.errorLogs ++ [log] }
  | some totals, some snap =>
      let snap := { snap with totals := totals, stableTotal := stableSum totals, snapshotAt := now }
      { db with snapshots := db.snapshots.put snap }
  | some totals, none =>
      let snap := ⟨wallet.id, wallet.userId, totals, stableSum totals, now⟩
      { db with snapshots := db.snapshots.insert snap }

/-- The history point of the Owner-tagged wallets. -/
def historyPoint (now : Time) (collected : List Outcome) : Option BalanceHistory :=
  let ownerWallets := (collected.map fun o => o.arrival.wallet).filter TaggedWallet.isOwner
  let ownerIds := ownerWallets.map fun wallet => wallet.id
  let counted := (collected.map Outcome.walletResult).filter fun r =>
    ownerIds.contains r.walletId && r.error.isNone
  let ownerTotalsUsd := (counted.flatMap WalletBalanceResult.usdValues).foldl addTotal []
  ownerWallets.head?.map fun first =>
    { userId := first.userId
      usdTotal := (counted.map WalletBalanceResult.usdTotal).sum
      totals := if ownerTotalsUsd = [] then none else some ownerTotalsUsd
      snapshotAt := now }

/-- The writes after the loop; `commits` is the answer of the database to the commit. -/
def writeAll (now : Time) (commits : Bool) (db : BalanceDb) (collected : List Outcome) : BalanceDb :=
  let written := collected.foldl (writeOutcome now) db
  let written := { written with history := written.history ++ (historyPoint now collected).toList }
  if commits then written else db

structure AggregatedBalance where
  stable : Totals
  other : Totals
  stableTotal : ℚ
  usdTotal : ℚ
  usdValues : List (String × ℚ)
  pnl : Option Pnl
  deriving DecidableEq, Repr

/-- What a run of the stream yields and leaves in the database. -/
structure Streamed where
  wallets : List WalletBalanceResult
  aggregated : AggregatedBalance
  db : BalanceDb

/-- `fetch_balances_stream`. -/
def fetchBalancesStream (now : Time) (commits : Bool) (fetches : Fetches) (db : BalanceDb) :
    Streamed :=
  let prev := prevSnapshots db fetches.dbWallets
  let prevAggStable := (prev.rows.map BalanceSnapshot.stableTotal).sum
  let loop := fetches.queue.foldl (collect getUsdValue prev) {}
  let db' := writeAll now commits db loop.collected
  let stable := loop.aggregatedTotals.filter fun entry => isStable entry.1
  let aggUsdValues := cents (usdValues getUsdValue loop.aggregatedTotals)
  let aggPnl := if prev.rows = [] then none else computePnl loop.currAggStable prevAggStable
  { wallets := loop.collected.map Outcome.walletResult
    aggregated :=
      { stable := stable
        other := loop.aggregatedTotals.filter fun entry => !isStable entry.1
        stableTotal := (stable.map Prod.snd).sum
        usdTotal := (aggUsdValues.map Prod.snd).sum
        usdValues := aggUsdValues
        pnl := aggPnl }
    db := db' }

/-! ## The loop over the queue -/

theorem buildWalletResult_snd (wallet : TaggedWallet) (fetched : Fetched)
    (prevSnap : Option BalanceSnapshot) :
    (buildWalletResult getUsdValue wallet fetched prevSnap).2 =
      stableSum (fetched.result.getD []) := by
  unfold buildWalletResult
  cases fetched.result <;> rfl

/-- What the loop keeps of a message. -/
def outcomeOf (prev : Table BalanceSnapshot) (arrival : Arrival) : Outcome :=
  let prevSnap := prev.get? arrival.wallet.id
  ⟨arrival, (buildWalletResult getUsdValue arrival.wallet arrival.fetched prevSnap).1, prevSnap⟩

theorem collected_foldl (prev : Table BalanceSnapshot) (queue : List Arrival) (acc : Collected) :
    (queue.foldl (collect getUsdValue prev) acc).collected =
      acc.collected ++ queue.map (outcomeOf getUsdValue prev) := by
  induction queue generalizing acc with
  | nil => simp
  | cons arrival queue ih =>
      rw [List.foldl_cons, ih]
      simp [collect, outcomeOf]

theorem currAggStable_foldl (prev : Table BalanceSnapshot) (queue : List Arrival)
    (acc : Collected) :
    (queue.foldl (collect getUsdValue prev) acc).currAggStable =
      acc.currAggStable + (queue.map fun a => stableSum (a.fetched.result.getD [])).sum := by
  induction queue generalizing acc with
  | nil => simp
  | cons arrival queue ih =>
      rw [List.foldl_cons, ih, List.map_cons, List.sum_cons]
      simp only [collect, buildWalletResult_snd]
      ring

/-! ## The previous total -/

namespace Fetches

variable (fetches : Fetches)

theorem nodup_ids : (fetches.queue.map fun a => a.wallet.id).Nodup := by
  have ids := (fetches.each.map fun wallet => wallet.id).nodup_iff.mpr fetches.distinct
  rwa [List.map_map] at ids

theorem id_mem {a : Arrival} (member : a ∈ fetches.queue) :
    a.wallet.id ∈ fetches.dbWallets.map fun wallet => wallet.id :=
  List.mem_map_of_mem (fetches.each.subset (List.mem_map_of_mem member))

/-- The loaded snapshots are those of the wallets, each once. -/
theorem prevSnapshots_perm (db : BalanceDb) :
    (prevSnapshots db fetches.dbWallets).rows.Perm
      (fetches.queue.filterMap fun a => db.snapshots.get? a.wallet.id) := by
  have read : (fetches.queue.filterMap fun a => db.snapshots.get? a.wallet.id) =
      (fetches.queue.map fun a => a.wallet.id).filterMap db.snapshots.get? := by
    rw [List.filterMap_map]
    rfl
  rw [read]
  have inj : ∀ k k' snap, snap ∈ db.snapshots.get? k → snap ∈ db.snapshots.get? k' → k = k' :=
    fun k k' snap found found' => (Table.key_of_get? found).symm.trans (Table.key_of_get? found')
  refine (List.perm_ext_iff_of_nodup (prevSnapshots db _).nodup.of_map
    (fetches.nodup_ids.filterMap inj)).mpr fun snap => ?_
  rw [List.mem_filterMap]
  change snap ∈ db.snapshots.where_ _ ↔ _
  rw [Table.mem_where, List.contains_iff_mem]
  constructor
  · rintro ⟨stored, member⟩
    obtain ⟨wallet, asked, same⟩ := List.mem_map.mp member
    obtain ⟨a, arrived, rfl⟩ := List.mem_map.mp (fetches.each.symm.subset asked)
    exact ⟨snap.walletId, List.mem_map.mpr ⟨a, arrived, same⟩, stored⟩
  · rintro ⟨k, member, stored⟩
    have keyed : snap.walletId = k := Table.key_of_get? stored
    subst keyed
    obtain ⟨a, arrived, same⟩ := List.mem_map.mp member
    have asked := fetches.id_mem arrived
    exact ⟨stored, same ▸ asked⟩

theorem prevAggStable_eq (db : BalanceDb) :
    ((prevSnapshots db fetches.dbWallets).rows.map BalanceSnapshot.stableTotal).sum =
      (fetches.queue.map fun a =>
        (db.snapshots.get? a.wallet.id).elim 0 BalanceSnapshot.stableTotal).sum := by
  rw [((fetches.prevSnapshots_perm db).map _).sum_eq]
  induction fetches.queue with
  | nil => rfl
  | cons a queue ih =>
      rw [List.map_cons, List.sum_cons, ← ih]
      cases found : db.snapshots.get? a.wallet.id with
      | none => simp [found]
      | some snap => simp [found]

end Fetches

/-! ## Which wallets are in which total -/

section Shares

variable (db : BalanceDb)

/-- The change of a wallet that was fetched and has a snapshot. -/
def stableChange (a : Arrival) : Option ℚ :=
  a.fetched.result.bind fun totals =>
    (db.snapshots.get? a.wallet.id).map fun snap => stableSum totals - snap.stableTotal

/-- The current total of a wallet that was fetched for the first time. -/
def firstTotal (a : Arrival) : Option ℚ :=
  if (db.snapshots.get? a.wallet.id).isNone then a.fetched.result.map stableSum else none

/-- The previous total of a wallet whose fetch failed. -/
def lostTotal (a : Arrival) : Option ℚ :=
  if a.fetched.result.isNone then (db.snapshots.get? a.wallet.id).map BalanceSnapshot.stableTotal
  else none

theorem sum_filterMap_cons (f : Arrival → Option ℚ) (a : Arrival) (queue : List Arrival) :
    ((a :: queue).filterMap f).sum = (f a).getD 0 + (queue.filterMap f).sum := by
  cases found : f a with
  | none => simp [found]
  | some x => simp [found]

/-- The two totals differ by the changes, the first totals and the lost ones. -/
theorem totals_diff (queue : List Arrival) :
    (queue.map fun a => stableSum (a.fetched.result.getD [])).sum -
        (queue.map fun a =>
          (db.snapshots.get? a.wallet.id).elim 0 BalanceSnapshot.stableTotal).sum =
      (queue.filterMap (stableChange db)).sum +
        ((queue.filterMap (firstTotal db)).sum - (queue.filterMap (lostTotal db)).sum) := by
  induction queue with
  | nil => simp
  | cons a queue ih =>
      have one : stableSum (a.fetched.result.getD []) -
            (db.snapshots.get? a.wallet.id).elim 0 BalanceSnapshot.stableTotal =
          (stableChange db a).getD 0 +
            ((firstTotal db a).getD 0 - (lostTotal db a).getD 0) := by
        unfold stableChange firstTotal lostTotal
        cases a.fetched.result with
        | none => cases db.snapshots.get? a.wallet.id <;> simp [stableSum]
        | some totals => cases db.snapshots.get? a.wallet.id <;> simp
      rw [sum_filterMap_cons, sum_filterMap_cons, sum_filterMap_cons, List.map_cons, List.map_cons,
        List.sum_cons, List.sum_cons]
      linarith

end Shares

theorem prevSnapshots_eq_nil_iff (fetches : Fetches) (db : BalanceDb) :
    (prevSnapshots db fetches.dbWallets).rows = [] ↔
      ∀ a ∈ fetches.queue, db.snapshots.get? a.wallet.id = none := by
  rw [← List.filterMap_eq_nil_iff]
  constructor
  · intro empty
    have perm := fetches.prevSnapshots_perm db
    rw [empty] at perm
    exact perm.nil_eq.symm
  · intro empty
    have perm := fetches.prevSnapshots_perm db
    rw [empty] at perm
    exact perm.eq_nil

/-- What the aggregate PnL tells. -/
theorem change_aggregated (now : Time) (commits : Bool) (fetches : Fetches) (db : BalanceDb) :
    change (fetchBalancesStream getUsdValue now commits fetches db).aggregated.pnl =
      if ∀ a ∈ fetches.queue, db.snapshots.get? a.wallet.id = none then 0
      else (fetches.queue.filterMap (stableChange db)).sum +
        ((fetches.queue.filterMap (firstTotal db)).sum -
          (fetches.queue.filterMap (lostTotal db)).sum) := by
  rw [← totals_diff]
  simp only [fetchBalancesStream, prevSnapshots_eq_nil_iff]
  split
  case isTrue => rfl
  case isFalse =>
    rw [change_computePnl, currAggStable_foldl, fetches.prevAggStable_eq, zero_add]

/-! ## The writes -/

theorem get?_writeOutcome {now : Time} {db : BalanceDb} {outcome : Outcome} {k : Nat}
    (loaded : ∀ snap ∈ outcome.prevSnap, snap.walletId = outcome.arrival.wallet.id)
    (untouched : outcome.arrival.wallet.id = k → outcome.arrival.fetched.result = none) :
    (writeOutcome now db outcome).snapshots.get? k = db.snapshots.get? k := by
  unfold writeOutcome
  cases fetched : outcome.arrival.fetched.result with
  | none => rfl
  | some totals =>
      have other : outcome.arrival.wallet.id ≠ k := by
        intro same
        rw [untouched same] at fetched
        cases fetched
      cases before : outcome.prevSnap with
      | none =>
          have absent : ¬outcome.arrival.wallet.id = k := other
          simp [key, absent]
      | some snap =>
          have keyed := loaded snap before
          have absent : ¬k = snap.walletId := fun same => other (keyed.symm.trans same.symm)
          simp [key, absent]

theorem history_writeOutcome (now : Time) (db : BalanceDb) (outcome : Outcome) :
    (writeOutcome now db outcome).history = db.history := by
  unfold writeOutcome
  cases outcome.arrival.fetched.result <;> cases outcome.prevSnap <;> rfl

theorem history_foldl (now : Time) (db : BalanceDb) (collected : List Outcome) :
    (collected.foldl (writeOutcome now) db).history = db.history := by
  induction collected generalizing db with
  | nil => rfl
  | cons outcome collected ih => rw [List.foldl_cons, ih, history_writeOutcome]

theorem get?_foldl (now : Time) (prev : Table BalanceSnapshot) {k : Nat} {queue : List Arrival}
    (untouched : ∀ a ∈ queue, a.wallet.id = k → a.fetched.result = none) (db : BalanceDb) :
    ((queue.map (outcomeOf getUsdValue prev)).foldl (writeOutcome now) db).snapshots.get? k =
      db.snapshots.get? k := by
  induction queue generalizing db with
  | nil => rfl
  | cons a queue ih =>
      have rest : ∀ a' ∈ queue, a'.wallet.id = k → a'.fetched.result = none :=
        fun a' member => untouched a' (List.mem_cons_of_mem a member)
      rw [List.map_cons, List.foldl_cons, ih rest]
      refine get?_writeOutcome (fun snap loaded => Table.key_of_get? loaded) ?_
      exact untouched a List.mem_cons_self

/-- A failed wallet's snapshot is left as it was. -/
theorem snapshot_of_failed {now : Time} {commits : Bool} {fetches : Fetches} {db : BalanceDb}
    {a : Arrival} (member : a ∈ fetches.queue) (failed : a.fetched.result = none) :
    (fetchBalancesStream getUsdValue now commits fetches db).db.snapshots.get? a.wallet.id =
      db.snapshots.get? a.wallet.id := by
  simp only [fetchBalancesStream, collected_foldl, writeAll]
  split
  case isTrue =>
    refine get?_foldl getUsdValue now _ (fun a' member' same => ?_) db
    have one : a' = a := List.inj_on_of_nodup_map fetches.nodup_ids member' member same
    rw [one, failed]
  case isFalse => rfl

theorem history_eq_iff (now : Time) (commits : Bool) (fetches : Fetches) (db : BalanceDb) :
    (fetchBalancesStream getUsdValue now commits fetches db).db.history = db.history ↔
      commits = false ∨ ∀ a ∈ fetches.queue, a.wallet.isOwner = false := by
  simp only [fetchBalancesStream, collected_foldl, writeAll]
  cases commits with
  | false => simp
  | true =>
      simp only [if_true, history_foldl]
      simp [historyPoint, outcomeOf]

/-! ## A failed fetch as a loss -/

/-- A failed fetch is not a loss: the PnL tells the changes of the wallets that were fetched and have
a snapshot, a failed wallet keeps its snapshot, and a history point is written only over all Owner
wallets. -/
structure FailureIsNoLoss (fetches : Fetches) (before : BalanceDb) (run : Streamed) : Prop where
  pnl : change run.aggregated.pnl = (fetches.queue.filterMap (stableChange before)).sum
  snapshots : ∀ a ∈ fetches.queue, a.fetched.result = none →
    run.db.snapshots.get? a.wallet.id = before.snapshots.get? a.wallet.id
  history : run.db.history ≠ before.history →
    ∀ a ∈ fetches.queue, a.wallet.isOwner = true → a.fetched.result ≠ none

theorem failureIsNoLoss_iff (now : Time) (commits : Bool) (fetches : Fetches) (db : BalanceDb) :
    FailureIsNoLoss fetches db (fetchBalancesStream getUsdValue now commits fetches db) ↔
      ((∀ a ∈ fetches.queue, db.snapshots.get? a.wallet.id = none) ∨
          (fetches.queue.filterMap (firstTotal db)).sum =
            (fetches.queue.filterMap (lostTotal db)).sum) ∧
        (commits = false ∨
          ∀ a ∈ fetches.queue, a.wallet.isOwner = true → a.fetched.result ≠ none) := by
  have told : change (fetchBalancesStream getUsdValue now commits fetches db).aggregated.pnl =
        (fetches.queue.filterMap (stableChange db)).sum ↔
      (∀ a ∈ fetches.queue, db.snapshots.get? a.wallet.id = none) ∨
        (fetches.queue.filterMap (firstTotal db)).sum =
          (fetches.queue.filterMap (lostTotal db)).sum := by
    rw [change_aggregated]
    split
    case isTrue fresh =>
      have compared : fetches.queue.filterMap (stableChange db) = [] := by
        refine List.filterMap_eq_nil_iff.mpr fun a member => ?_
        unfold stableChange
        rw [fresh a member]
        cases a.fetched.result <;> rfl
      rw [compared]
      exact iff_of_true rfl (Or.inl fresh)
    case isFalse known =>
      rw [or_iff_right known, add_eq_left, sub_eq_zero]
  have written : ((fetchBalancesStream getUsdValue now commits fetches db).db.history ≠ db.history →
        ∀ a ∈ fetches.queue, a.wallet.isOwner = true → a.fetched.result ≠ none) ↔
      (commits = false ∨
        ∀ a ∈ fetches.queue, a.wallet.isOwner = true → a.fetched.result ≠ none) := by
    constructor
    · intro kept
      by_cases same : (fetchBalancesStream getUsdValue now commits fetches db).db.history = db.history
      · rcases (history_eq_iff getUsdValue now commits fetches db).mp same with fails | none_owner
        · exact Or.inl fails
        · refine Or.inr fun a member owner => ?_
          rw [none_owner a member] at owner
          cases owner
      · exact Or.inr (kept same)
    · rintro (fails | fetched) changed
      · exact absurd ((history_eq_iff getUsdValue now commits fetches db).mpr (Or.inl fails)) changed
      · exact fetched
  constructor
  · rintro ⟨pnl, -, history⟩
    exact ⟨told.mp pnl, written.mp history⟩
  · rintro ⟨balanced, owners⟩
    exact ⟨told.mpr balanced, fun a => snapshot_of_failed getUsdValue, written.mpr owners⟩

/-- One wallet, with a snapshot of 1000, whose provider does not answer. -/
def oneFailed : Fetches :=
  let wallet := { id := 1, userId := 7, walletType := .exchange, typeValue := "okx",
                  purpose := .portfolio, isArchived := false, name := "main", tags := [] }
  { dbWallets := [wallet]
    distinct := by decide
    queue := [⟨wallet, { result := none, error := some "Provider unavailable — try again later" }⟩]
    each := List.Perm.refl _ }

def oneSnapshot : BalanceDb :=
  { snapshots := Table.empty.insert ⟨1, 7, [("USDT", 1000)], 1000, 0⟩ }

/-- It is told as a loss of 1000. -/
theorem failed_fetch_is_a_loss :
    (fetchBalancesStream (fun _ _ => none) 1 true oneFailed oneSnapshot).aggregated.pnl =
        some ⟨1000, -1000, -100, .down⟩ ∧
      ¬FailureIsNoLoss oneFailed oneSnapshot
        (fetchBalancesStream (fun _ _ => none) 1 true oneFailed oneSnapshot) := by
  refine ⟨by decide +kernel, fun kept => ?_⟩
  have told := kept.pnl
  revert told
  decide +kernel

end

end Balances

end Avalant
