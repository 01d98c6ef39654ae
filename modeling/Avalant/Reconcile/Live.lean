import Avalant.Db.Txn

/-!
The live position snapshot a reconcile pass works from.

`list_user_positions(authoritative=True)` asks every trade-enabled wallet for
its positions, each under a timeout. A fetch ends in a list, an exception or a
timeout; `one` and `oneCapped` turn the last two into an empty list, so past
this point a wallet that answered "no positions" and a wallet that did not
answer look the same.
-/

namespace Avalant

open Relational

/-! ## Fetch outcomes -/

/-- A position row as an adapter returns it; `wallet_id` is stamped by the caller. -/
structure LiveRow where
  walletId : Option Nat := none
  symbol : String
  side : String
  quantity : Option ℚ
  entryPrice : Option ℚ := none
  fundingPnlUsd : Option ℚ := none
  exchange : String := ""
  deriving DecidableEq, Repr

/-- How one wallet's `list_positions` call ends. -/
inductive FetchOutcome
  | rows (live : List LiveRow)
  | raised (message : String)
  | timeout
  deriving DecidableEq, Repr

/-- The venue's list really came back. -/
def FetchOutcome.answered : FetchOutcome → Bool
  | .rows _ => true
  | .raised _ | .timeout => false

/-- The wallets whose positions are fetched for a user. -/
def Db.tradeWallets (d : Db) (userId : Nat) : List Wallet :=
  d.wallets.where_ fun w =>
    w.userId == userId && (w.walletType == .exchange || w.walletType == .perpdex) &&
      (w.purpose == .screener || w.purpose == .both) && !w.isArchived &&
      supportedExchanges.contains w.typeValue

/-- `_one` on the authoritative path: an exception becomes an empty list, on
the symbol-not-listed branch and on the generic one alike. -/
def one (w : Wallet) : FetchOutcome → Option (List LiveRow)
  | .rows live => some (live.map fun row => { row with walletId := some w.id })
  | .raised message =>
      let symbolNotOnVenue :=
        ["51001", "-1121", "Instrument ID", "Invalid symbol"].any (Python.contains message)
      if symbolNotOnVenue then some [] else some []
  | .timeout => none

/-- `_one_capped`: a timeout becomes an empty list too. -/
def oneCapped (w : Wallet) (outcome : FetchOutcome) : List LiveRow :=
  (one w outcome).getD []

/-- `list_user_positions(db, user_id, authoritative=True)`. -/
def Db.listUserPositions (d : Db) (userId : Nat) (outcome : Nat → FetchOutcome) :
    List LiveRow :=
  (d.tradeWallets userId).flatMap fun w => oneCapped w (outcome w.id)

/-! ## Fingerprints -/

/-- Per-position dedup key: wallet, upper-cased symbol, lower-cased side. -/
structure Fingerprint where
  walletId : Nat
  symbol : String
  side : String
  deriving DecidableEq, Repr

/-- `_fingerprint`. -/
def fingerprint (p : LiveRow) : Fingerprint :=
  ⟨p.walletId.getD 0, Python.upper p.symbol, Python.lower p.side⟩

/-- `live_by_fp`: the last row of a fingerprint wins; rows without a wallet are dropped. -/
def liveByFp (live : List LiveRow) (fp : Fingerprint) : Option LiveRow :=
  if fp.walletId = 0 then none else live.reverse.find? fun p => fingerprint p == fp

/-- The keys of `live_by_fp`. -/
def liveKeys (live : List LiveRow) : List Fingerprint :=
  ((live.map fingerprint).eraseDups).filter fun fp => fp.walletId != 0

theorem liveByFp_some {live : List LiveRow} {fp : Fingerprint} {p : LiveRow}
    (found : liveByFp live fp = some p) :
    p ∈ live ∧ fingerprint p = fp ∧ fp.walletId ≠ 0 := by
  unfold liveByFp at found
  split at found
  case isTrue => cases found
  case isFalse present =>
    have keyed := List.find?_some found
    have member := List.mem_of_find?_eq_some found
    exact ⟨by simpa using member, by simpa using keyed, present⟩

/-! ## What an unanswered wallet contributes -/

/-- A fetched wallet whose fetch ended in an exception or a timeout. -/
def Db.FetchFailed (d : Db) (userId : Nat) (outcome : Nat → FetchOutcome) (wid : Nat) : Prop :=
  ∃ w ∈ d.tradeWallets userId, w.id = wid ∧ (outcome wid).answered = false

theorem oneCapped_of_unanswered {outcome : FetchOutcome} (w : Wallet)
    (unanswered : outcome.answered = false) : oneCapped w outcome = [] := by
  cases outcome with
  | rows live => cases unanswered
  | raised message => simp [oneCapped, one]
  | timeout => rfl

/-- Every row of the snapshot was returned by the wallet it is stamped with. -/
theorem Db.answered_of_mem_live {d : Db} {userId : Nat} {outcome : Nat → FetchOutcome}
    {p : LiveRow} (member : p ∈ d.listUserPositions userId outcome) :
    ∃ wid, p.walletId = some wid ∧ (outcome wid).answered = true := by
  obtain ⟨w, -, fromWallet⟩ := List.mem_flatMap.mp member
  cases ended : outcome w.id with
  | rows live =>
      simp only [oneCapped, one, ended, Option.getD_some, List.mem_map] at fromWallet
      obtain ⟨row, -, rfl⟩ := fromWallet
      exact ⟨w.id, rfl, by simp [ended, FetchOutcome.answered]⟩
  | raised message =>
      rw [ended, oneCapped_of_unanswered w rfl] at fromWallet
      cases fromWallet
  | timeout =>
      rw [ended, oneCapped_of_unanswered w rfl] at fromWallet
      cases fromWallet

/-- No live position is seen on a wallet whose fetch failed. -/
theorem Db.liveByFp_of_failed {d : Db} {userId : Nat} {outcome : Nat → FetchOutcome}
    {fp : Fingerprint} (failed : d.FetchFailed userId outcome fp.walletId) :
    liveByFp (d.listUserPositions userId outcome) fp = none := by
  cases found : liveByFp (d.listUserPositions userId outcome) fp with
  | none => rfl
  | some p =>
      obtain ⟨member, keyed, -⟩ := liveByFp_some found
      obtain ⟨wid, stamped, answered⟩ := Db.answered_of_mem_live member
      obtain ⟨-, -, -, unanswered⟩ := failed
      have same : fp.walletId = wid := by
        rw [← keyed]
        simp [fingerprint, stamped]
      rw [same, answered] at unanswered
      cases unanswered

end Avalant
