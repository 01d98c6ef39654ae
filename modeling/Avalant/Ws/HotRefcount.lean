import Avalant.Lib.Python
import Avalant.Ws.Book
import Mathlib.Algebra.BigOperators.Ring.Finset
import Mathlib.Algebra.Order.BigOperators.Group.List

/-!
The counts of hot symbols.

A handler changes the subscriptions of its client under the lock of the channel, and the counts
afterwards, under a lock of their own. The reader of a client calls the handlers one after the
other, and readers of different clients run side by side.
-/

namespace Avalant

open Transition

namespace HotSymbols

/-! ## Pairs of a request -/

/-- `isPairToken`. -/
def isPairToken (s : List Char) : Bool :=
  s.all fun r => r.isAlphanum || r = '_'

/-- `normalizePair`. -/
def normalizePair (raw : String) : Option Pair :=
  let chars := raw.toList
  let before := chars.takeWhile (· ≠ ':')
  let rest := chars.dropWhile (· ≠ ':')
  if rest = [] ∨ before = [] then none
  else
    let ex := Python.strip (Python.lower (String.ofList before))
    let sym := Python.strip (Python.upper (String.ofList rest.tail))
    if ex = "" ∨ sym = "" ∨ 24 < ex.length ∨ 24 < sym.length then none
    else if isPairToken ex.toList && isPairToken sym.toList then some ⟨ex, sym⟩
    else none

/-! ## State -/

/-- The pairs of a client, each with the last `ts` sent. -/
abbrev Subs := AList fun _ : Pair => Nat

/-- What a call has left to do after it has changed the subscriptions. -/
inductive HotCall
  | count (added : List Pair)
  /-- The snapshots of a new subscription. -/
  | snapshots (pairs : List Pair)
  | uncount (removed : List Pair)

structure HotClient where
  /-- None when `b.subs` does not have the client. -/
  subs : Option Subs
  calls : List HotCall := []

abbrev Refcnt := AList fun _ : String => ℤ

structure HotBook where
  clients : List HotClient := []
  hotSubsRefcnt : Refcnt := ∅

/-! ## Handlers -/

/-- One round of the loop of `handleSubscribe`. -/
def addPair (state : Subs × List Pair) (p : Pair) : Subs × List Pair :=
  if p ∈ state.1 then state else (state.1.insert p 0, state.2 ++ [p])

/-- One round of the loop of `handleUnsubscribe`. -/
def removePair (state : Subs × List Pair) (p : Pair) : Subs × List Pair :=
  if p ∈ state.1 then (state.1.erase p, state.2 ++ [p]) else state

/-- `b.hotSubsRefcnt[sym]++`. -/
def increment (hot : Refcnt) (p : Pair) : Refcnt :=
  hot.insert p.symbol ((hot.lookup p.symbol).getD 0 + 1)

/-- A positive count is decremented, and its entry deleted at zero. -/
def decrement (hot : Refcnt) (p : Pair) : Refcnt :=
  let n := (hot.lookup p.symbol).getD 0
  if 0 < n then if n - 1 = 0 then hot.erase p.symbol else hot.insert p.symbol (n - 1)
  else hot

inductive HotAct
  | register
  | subscribe (client : Nat) (pairs : List String)
  | unsubscribe (client : Nat) (pairs : List String)
  | deregister (client : Nat)
  /-- The next lock of a call of a client; the cache may have a book for the snapshot. -/
  | advance (client call : Nat) (found : Bool)

namespace HotClient

/-- `handleSubscribe`, under `b.mu`: the first places that are free are looked at. -/
def subscribe (c : HotClient) (pairs : List String) : HotClient :=
  match c.subs with
  | none => c
  | some subs =>
      let cleaned := pairs.filterMap normalizePair
      let free := bookMaxPairsPerClient - subs.keys.length
      let (subs, added) := (cleaned.take free).foldl addPair (subs, [])
      { c with subs := some subs, calls := c.calls ++ [.count added] }

def unsubscribe (c : HotClient) (pairs : List String) : HotClient :=
  match c.subs with
  | none => c
  | some subs =>
      let (subs, removed) := (pairs.filterMap normalizePair).foldl removePair (subs, [])
      { c with subs := some subs, calls := c.calls ++ [.uncount removed] }

def deregister (c : HotClient) : HotClient :=
  { c with subs := none, calls := c.calls ++ [.uncount ((c.subs.map AList.keys).getD [])] }

/-- `set[pairKey] = ts` of `sendInitialSnapshot`. -/
def mark (c : HotClient) (p : Pair) (found : Bool) : HotClient :=
  if found then { c with subs := c.subs.map fun subs => subs.insert p 1 } else c

end HotClient

namespace HotBook

def setClient (s : HotBook) (i : Nat) (c : HotClient) : HotBook :=
  { s with clients := s.clients.set i c }

/-- A call takes its next lock. -/
def advance (tiered : Bool) (s : HotBook) (i : Nat) (c : HotClient) (k : Nat) (found : Bool) :
    HotCall → HotBook
  | .count added =>
      { s.setClient i { c with calls := c.calls.set k (.snapshots added) } with
        hotSubsRefcnt := if tiered then added.foldl increment s.hotSubsRefcnt
          else s.hotSubsRefcnt }
  | .snapshots [] => s.setClient i { c with calls := c.calls.eraseIdx k }
  | .snapshots (p :: pairs) =>
      s.setClient i { c.mark p found with calls := c.calls.set k (.snapshots pairs) }
  | .uncount removed =>
      { s.setClient i { c with calls := c.calls.eraseIdx k } with
        hotSubsRefcnt := if tiered then removed.foldl decrement s.hotSubsRefcnt
          else s.hotSubsRefcnt }

/-- `tiered` is `AVALANT_TIERED_FRESHNESS`. -/
def step (tiered : Bool) (s : HotBook) : HotAct → Option HotBook
  | .register => some { s with clients := s.clients ++ [{ subs := some ∅ }] }
  | .subscribe i pairs => s.clients[i]?.map fun c => s.setClient i (c.subscribe pairs)
  | .unsubscribe i pairs => s.clients[i]?.map fun c => s.setClient i (c.unsubscribe pairs)
  | .deregister i => s.clients[i]?.map fun c => s.setClient i c.deregister
  | .advance i k found =>
      s.clients[i]?.bind fun c => c.calls[k]?.map fun call => s.advance tiered i c k found call

/-! ## Counts and subscriptions -/

/-- The subscriptions of a client to pairs of a symbol. -/
def held (c : HotClient) (sym : String) : Nat :=
  (c.subs.map fun subs => subs.keys.countP (·.symbol = sym)).getD 0

def subscriptions (s : HotBook) (sym : String) : Nat :=
  (s.clients.map fun c => held c sym).sum

/-- No call is in progress. -/
def Idle (s : HotBook) : Prop :=
  ∀ c ∈ s.clients, c.calls = []

/-- The counts are those of the subscriptions, and positive where there is an entry. -/
structure Exact (s : HotBook) : Prop where
  counts : ∀ sym, (s.hotSubsRefcnt.lookup sym).getD 0 = s.subscriptions sym
  positive : ∀ sym n, s.hotSubsRefcnt.lookup sym = some n → 0 < n
  absent : ∀ sym, s.subscriptions sym = 0 → s.hotSubsRefcnt.lookup sym = none

/-- Whenever no call is in progress, over the runs under a condition. -/
def AlwaysCounts (tiered : Bool) (ok : HotBook → HotAct → Prop) : Prop :=
  ∀ s, Run (step tiered) ok {} s → s.Idle → s.Exact

/-- The same where freshness is tiered, and no counts at all where it is not. -/
def AlwaysCountsTiered (tiered : Bool) (ok : HotBook → HotAct → Prop) : Prop :=
  if tiered then AlwaysCounts true ok
  else ∀ s, Run (step false) ok {} s → s.hotSubsRefcnt = ∅

/-- No call of a client is in progress. -/
def idleAt (s : HotBook) (i : Nat) : Bool :=
  s.clients[i]?.all fun c => c.calls.isEmpty

/-- The reader of a client calls its handlers one after the other. -/
def Serial (s : HotBook) : HotAct → Prop
  | .subscribe i _ | .unsubscribe i _ | .deregister i => s.idleAt i = true
  | .register | .advance .. => True

instance (s : HotBook) : (act : HotAct) → Decidable (Serial s act)
  | .subscribe i _ | .unsubscribe i _ | .deregister i =>
      inferInstanceAs (Decidable (s.idleAt i = true))
  | .register | .advance .. => inferInstanceAs (Decidable True)

/-! ## Counts -/

section

variable {hot : Refcnt} {sym : String} {pairs : List Pair}

def Positive (hot : Refcnt) : Prop :=
  ∀ sym n, hot.lookup sym = some n → 0 < n

/-- The count of a symbol, zero without an entry. -/
def countOf (hot : Refcnt) (sym : String) : ℤ :=
  (hot.lookup sym).getD 0

theorem Positive.countOf_nonneg (positive : Positive hot) (sym : String) : 0 ≤ countOf hot sym := by
  unfold countOf
  cases entry : hot.lookup sym with
  | none => exact le_refl 0
  | some n => exact (positive sym n entry).le

theorem countOf_insert (hot : Refcnt) (sym' : String) (n : ℤ) (sym : String) :
    countOf (hot.insert sym' n) sym = if sym' = sym then n else countOf hot sym := by
  unfold countOf
  split
  case isTrue same =>
    subst same
    rw [AList.lookup_insert]
    rfl
  case isFalse other => rw [AList.lookup_insert_ne (Ne.symm other)]

theorem Positive.insert (positive : Positive hot) (sym' : String) {n : ℤ} (above : 0 < n) :
    Positive (hot.insert sym' n) := by
  intro sym m entry
  by_cases same : sym = sym'
  · subst same
    rw [AList.lookup_insert] at entry
    cases entry
    exact above
  · rw [AList.lookup_insert_ne same] at entry
    exact positive sym m entry

theorem countOf_increment (hot : Refcnt) (p : Pair) (sym : String) :
    countOf (increment hot p) sym = countOf hot sym + if p.symbol = sym then 1 else 0 := by
  unfold increment
  rw [countOf_insert]
  split
  case isTrue same =>
    subst same
    rfl
  case isFalse => rw [add_zero]

theorem Positive.increment (positive : Positive hot) (p : Pair) : Positive (increment hot p) := by
  have above := positive.countOf_nonneg p.symbol
  exact positive.insert p.symbol (Int.lt_add_one_of_le above)

theorem countOf_decrement {p : Pair} (some_ : 0 < countOf hot p.symbol)
    (sym : String) :
    countOf (decrement hot p) sym = countOf hot sym - if p.symbol = sym then 1 else 0 := by
  have above : 0 < (hot.lookup p.symbol).getD 0 := some_
  unfold decrement
  dsimp only
  rw [if_pos above]
  split
  case isTrue last =>
    have one : countOf hot p.symbol = 1 := by
      have value : (hot.lookup p.symbol).getD 0 = countOf hot p.symbol := rfl
      omega
    unfold countOf
    split
    case isTrue same =>
      subst same
      rw [AList.lookup_erase]
      change 0 = countOf hot p.symbol - 1
      omega
    case isFalse other => rw [AList.lookup_erase_ne (Ne.symm other), sub_zero]
  case isFalse more =>
    rw [countOf_insert]
    split
    case isTrue same =>
      subst same
      rfl
    case isFalse => rw [sub_zero]

theorem Positive.decrement (positive : Positive hot) (p : Pair) : Positive (decrement hot p) := by
  unfold HotSymbols.decrement
  dsimp only
  split
  case isTrue above =>
    split
    · intro sym n entry
      by_cases same : sym = p.symbol
      · subst same
        rw [AList.lookup_erase] at entry
        cases entry
      · rw [AList.lookup_erase_ne same] at entry
        exact positive sym n entry
    case isFalse more => exact positive.insert p.symbol (by omega)
  case isFalse => exact positive

theorem count_all (positive : Positive hot) (pairs : List Pair) :
    Positive (pairs.foldl increment hot) ∧ ∀ sym,
      countOf (pairs.foldl increment hot) sym = countOf hot sym + pairs.countP (·.symbol = sym) := by
  induction pairs generalizing hot with
  | nil =>
      refine ⟨positive, fun sym => ?_⟩
      simp
  | cons p pairs ih =>
      obtain ⟨positive', counts⟩ := ih (positive.increment p)
      refine ⟨positive', fun sym => ?_⟩
      rw [List.foldl_cons, counts, countOf_increment, List.countP_cons]
      by_cases same : p.symbol = sym
      · simp [same]
        omega
      · simp [same]

/-- Where there are enough, each of the pairs is taken off. -/
theorem uncount_all (positive : Positive hot) (pairs : List Pair)
    (enough : ∀ sym, (pairs.countP (·.symbol = sym) : ℤ) ≤ countOf hot sym) :
    Positive (pairs.foldl decrement hot) ∧ ∀ sym,
      countOf (pairs.foldl decrement hot) sym = countOf hot sym - pairs.countP (·.symbol = sym) := by
  induction pairs generalizing hot with
  | nil =>
      refine ⟨positive, fun sym => ?_⟩
      simp
  | cons p pairs ih =>
      have one : 0 < countOf hot p.symbol := by
        have own := enough p.symbol
        rw [List.countP_cons_of_pos (by simp)] at own
        omega
      have after := countOf_decrement one
      obtain ⟨positive', counts⟩ := ih (positive.decrement p) fun sym => by
        have own := enough sym
        rw [after, List.countP_cons] at *
        by_cases same : p.symbol = sym
        · simp [same] at own ⊢
          omega
        · simpa [same] using own
      refine ⟨positive', fun sym => ?_⟩
      rw [List.foldl_cons, counts, after, List.countP_cons]
      by_cases same : p.symbol = sym
      · simp [same]
        omega
      · simp [same]

end

/-! ## Subscriptions -/

section

variable {subs : Subs} {p : Pair} {sym : String}

def heldOf (subs : Subs) (sym : String) : Nat :=
  subs.keys.countP (·.symbol = sym)

theorem heldOf_insert_of_mem (member : p ∈ subs) (ts : Nat) (sym : String) :
    heldOf (subs.insert p ts) sym = heldOf subs sym := by
  unfold heldOf
  rw [AList.keys_insert]
  exact ((List.perm_cons_erase (AList.mem_keys.mp member)).countP_eq _).symm

theorem heldOf_insert_of_not_mem (fresh : p ∉ subs) (ts : Nat) (sym : String) :
    heldOf (subs.insert p ts) sym = heldOf subs sym + if p.symbol = sym then 1 else 0 := by
  unfold heldOf
  rw [AList.keys_insert, List.erase_of_not_mem (mt AList.mem_keys.mpr fresh), List.countP_cons]
  simp

theorem heldOf_erase (member : p ∈ subs) (sym : String) :
    heldOf (subs.erase p) sym + (if p.symbol = sym then 1 else 0) = heldOf subs sym := by
  unfold heldOf
  have perm := (List.perm_cons_erase (AList.mem_keys.mp member)).countP_eq
    fun p => decide (p.symbol = sym)
  rw [AList.keys_erase, perm, List.countP_cons]
  simp

/-- What the loop of a subscription adds to the pairs and to its list is the same. -/
theorem heldOf_addPairs (pairs : List Pair) (subs : Subs) (added : List Pair) (sym : String) :
    heldOf (pairs.foldl addPair (subs, added)).1 sym + added.countP (·.symbol = sym) =
      heldOf subs sym + (pairs.foldl addPair (subs, added)).2.countP (·.symbol = sym) := by
  induction pairs generalizing subs added with
  | nil => rfl
  | cons p pairs ih =>
      rw [List.foldl_cons]
      unfold addPair
      dsimp only
      split
      case isTrue => exact ih subs added
      case isFalse fresh =>
        have rest := ih (subs.insert p 0) (added ++ [p])
        rw [heldOf_insert_of_not_mem fresh, List.countP_append, List.countP_singleton] at rest
        by_cases same : p.symbol = sym
        · simp only [same, if_true, decide_true] at rest
          unfold addPair at rest
          omega
        · simp only [same, if_false, decide_false, Bool.false_eq_true] at rest
          unfold addPair at rest
          omega

theorem heldOf_removePairs (pairs : List Pair) (subs : Subs) (removed : List Pair) (sym : String) :
    heldOf (pairs.foldl removePair (subs, removed)).1 sym +
        (pairs.foldl removePair (subs, removed)).2.countP (·.symbol = sym) =
      heldOf subs sym + removed.countP (·.symbol = sym) := by
  induction pairs generalizing subs removed with
  | nil => rfl
  | cons p pairs ih =>
      rw [List.foldl_cons]
      unfold removePair
      dsimp only
      split
      case isTrue member =>
        have rest := ih (subs.erase p) (removed ++ [p])
        have own := heldOf_erase member sym
        rw [List.countP_append, List.countP_singleton] at rest
        by_cases same : p.symbol = sym
        · simp only [same, if_true, decide_true] at rest own
          unfold removePair at rest
          omega
        · simp only [same, if_false, decide_false, Bool.false_eq_true] at rest own
          unfold removePair at rest
          omega
      case isFalse => exact ih subs removed

/-- The pairs of the list are among those of the client. -/
theorem mem_addPairs (pairs : List Pair) (subs : Subs) (added : List Pair)
    (known : ∀ p ∈ added, p ∈ subs) :
    ∀ p ∈ (pairs.foldl addPair (subs, added)).2, p ∈ (pairs.foldl addPair (subs, added)).1 := by
  induction pairs generalizing subs added with
  | nil => exact known
  | cons p pairs ih =>
      rw [List.foldl_cons]
      unfold addPair
      dsimp only
      split
      · exact ih subs added known
      · refine ih (subs.insert p 0) (added ++ [p]) fun q member => ?_
        rw [AList.mem_insert]
        rcases List.mem_append.mp member with old | new
        · exact .inr (known q old)
        · exact .inl (List.mem_singleton.mp new)

end

/-! ## One client -/

/-- What a call will still add to a count. -/
def due (sym : String) : HotCall → ℤ
  | .count added => added.countP (·.symbol = sym)
  | .snapshots _ => 0
  | .uncount removed => -removed.countP (·.symbol = sym)

/-- What a client has in a count: its subscriptions, but for what its calls have still to do. -/
def share (sym : String) (c : HotClient) : ℤ :=
  held c sym - (c.calls.map (due sym)).sum

/-- A client whose calls come one after the other. -/
structure InTurn (c : HotClient) : Prop where
  single : c.calls.length ≤ 1
  /-- What is to be counted, or marked, is subscribed. -/
  counted : ∀ added, .count added ∈ c.calls →
    (∀ sym, added.countP (·.symbol = sym) ≤ held c sym) ∧
      ∀ p ∈ added, ∃ subs, c.subs = some subs ∧ p ∈ subs
  marked : ∀ pairs, .snapshots pairs ∈ c.calls → ∀ p ∈ pairs, ∃ subs, c.subs = some subs ∧ p ∈ subs

section

variable {c : HotClient} {sym : String}

theorem held_some {subs : Subs} (known : c.subs = some subs) (sym : String) :
    held c sym = heldOf subs sym := by
  unfold held
  rw [known]
  rfl

/-- A client's part is never negative. -/
theorem InTurn.share_nonneg (turn : InTurn c) (sym : String) : 0 ≤ share sym c := by
  unfold share
  cases calls : c.calls with
  | nil => simp
  | cons call rest =>
      have alone : rest = [] := by
        have single := turn.single
        rw [calls, List.length_cons] at single
        exact List.length_eq_zero_iff.mp (by omega)
      subst alone
      rw [List.map_singleton, List.sum_singleton]
      cases call with
      | count added =>
          have within := (turn.counted added (by rw [calls]; exact List.mem_cons_self)).1 sym
          change (0 : ℤ) ≤ held c sym - added.countP (·.symbol = sym)
          omega
      | snapshots pairs =>
          change (0 : ℤ) ≤ held c sym - 0
          omega
      | uncount removed =>
          change (0 : ℤ) ≤ held c sym - -removed.countP (·.symbol = sym)
          omega

theorem share_append (c : HotClient) (call : HotCall) (subs : Option Subs) :
    share sym { c with subs, calls := c.calls ++ [call] } =
      held { c with subs } sym - (c.calls.map (due sym)).sum - due sym call := by
  change (held { c with subs } sym : ℤ) - ((c.calls ++ [call]).map (due sym)).sum = _
  rw [List.map_append, List.sum_append, List.map_singleton, List.sum_singleton]
  omega

theorem share_subscribe (c : HotClient) (pairs : List String) (sym : String) :
    share sym (c.subscribe pairs) = share sym c := by
  unfold HotClient.subscribe
  cases known : c.subs with
  | none => rfl
  | some subs =>
      dsimp only
      have counts := heldOf_addPairs
        ((pairs.filterMap normalizePair).take (bookMaxPairsPerClient - subs.keys.length)) subs [] sym
      rw [share_append, held_some rfl]
      unfold share
      rw [held_some known]
      change _ - _ - ((List.countP _ _ : Nat) : ℤ) = _
      rw [List.countP_nil] at counts
      omega

theorem share_unsubscribe (c : HotClient) (pairs : List String) (sym : String) :
    share sym (c.unsubscribe pairs) = share sym c := by
  unfold HotClient.unsubscribe
  cases known : c.subs with
  | none => rfl
  | some subs =>
      dsimp only
      have counts := heldOf_removePairs (pairs.filterMap normalizePair) subs [] sym
      rw [share_append, held_some rfl]
      unfold share
      rw [held_some known]
      change _ - _ - -((List.countP _ _ : Nat) : ℤ) = _
      rw [List.countP_nil] at counts
      omega

theorem share_deregister (c : HotClient) (sym : String) :
    share sym c.deregister = share sym c := by
  unfold HotClient.deregister
  rw [share_append]
  unfold share
  cases known : c.subs with
  | none =>
      have none_ : held c sym = 0 := by
        unfold held
        rw [known]
        rfl
      rw [none_]
      change 0 - _ - -((0 : Nat) : ℤ) = _
      omega
  | some subs =>
      rw [held_some known]
      change 0 - _ - -((heldOf subs sym : Nat) : ℤ) = _
      omega

theorem inTurn_subscribe (idle : c.calls = []) (pairs : List String) :
    InTurn (c.subscribe pairs) := by
  unfold HotClient.subscribe
  cases known : c.subs with
  | none =>
      refine ⟨?_, fun added member => ?_, fun pairs member => ?_⟩
      · rw [idle]
        exact Nat.zero_le 1
      · rw [idle] at member
        cases member
      · rw [idle] at member
        cases member
  | some subs =>
      dsimp only
      rw [idle]
      refine ⟨Nat.le_refl 1, fun added member => ?_, fun pairs member => ?_⟩
      · cases List.mem_singleton.mp member
        refine ⟨fun sym => ?_, fun p member => ⟨_, rfl, ?_⟩⟩
        · have counts := heldOf_addPairs
            ((pairs.filterMap normalizePair).take (bookMaxPairsPerClient - subs.keys.length)) subs []
            sym
          rw [held_some rfl]
          rw [List.countP_nil] at counts
          omega
        · refine mem_addPairs _ subs [] (fun q known => ?_) p member
          cases known
      · cases List.mem_singleton.mp member

theorem inTurn_uncount {subs : Option Subs} (removed : List Pair) :
    InTurn { subs, calls := [.uncount removed] } := by
  refine ⟨Nat.le_refl 1, fun added member => ?_, fun pairs member => ?_⟩
  · cases List.mem_singleton.mp member
  · cases List.mem_singleton.mp member

theorem inTurn_idle {subs : Option Subs} : InTurn { subs } := by
  refine ⟨Nat.zero_le 1, fun added member => ?_, fun pairs member => ?_⟩
  · cases member
  · cases member

end

/-! ## All clients -/

/-- Every count is the sum of the clients' parts. -/
structure Sound (s : HotBook) : Prop where
  counts : ∀ sym, countOf s.hotSubsRefcnt sym = (s.clients.map (share sym)).sum
  positive : Positive s.hotSubsRefcnt
  turns : ∀ c ∈ s.clients, InTurn c

section

variable {s s' : HotBook} {i k : Nat} {c c' : HotClient}

theorem sum_set (known : s.clients[i]? = some c) (f : HotClient → ℤ) (c' : HotClient) :
    ((s.clients.set i c').map f).sum = (s.clients.map f).sum + (f c' - f c) := by
  obtain ⟨within, same⟩ := List.getElem?_eq_some_iff.mp known
  have inside : i < (s.clients.map f).length := by rwa [List.length_map]
  rw [List.map_set, List.sum_set', dif_pos inside, List.getElem_map, same]
  omega

/-- A client changes, and the counts with its part. -/
theorem Sound.set (sound : s.Sound) (known : s.clients[i]? = some c) (turn : InTurn c')
    {hot : Refcnt} (positive : Positive hot)
    (counts : ∀ sym, countOf hot sym = countOf s.hotSubsRefcnt sym + (share sym c' - share sym c)) :
    Sound { s.setClient i c' with hotSubsRefcnt := hot } := by
  refine ⟨fun sym => ?_, positive, fun other member => ?_⟩
  · exact ((counts sym).trans (by rw [sound.counts])).trans (sum_set known (share sym) c').symm
  · rcases List.mem_or_eq_of_mem_set member with old | rfl
    · exact sound.turns other old
    · exact turn

theorem Sound.setClient (sound : s.Sound) (known : s.clients[i]? = some c) (turn : InTurn c')
    (same : ∀ sym, share sym c' = share sym c) : (s.setClient i c').Sound := by
  refine sound.set known turn sound.positive fun sym => ?_
  rw [same]
  omega

theorem InTurn.alone (turn : InTurn c) {call : HotCall} (taken : c.calls[k]? = some call) :
    k = 0 ∧ c.calls = [call] := by
  obtain ⟨within, same⟩ := List.getElem?_eq_some_iff.mp taken
  have single := turn.single
  obtain rfl : k = 0 := by omega
  obtain ⟨only, calls⟩ := List.length_eq_one_iff.mp (show c.calls.length = 1 by omega)
  refine ⟨rfl, ?_⟩
  rw [calls] at taken
  cases taken
  exact calls

theorem share_eq {call : HotCall} (calls : c.calls = [call]) (sym : String) :
    share sym c = held c sym - due sym call := by
  unfold share
  rw [calls, List.map_singleton, List.sum_singleton]

/-- A pair that is subscribed. -/
def Subscribed (c : HotClient) (p : Pair) : Prop :=
  ∃ subs, c.subs = some subs ∧ p ∈ subs

variable {p : Pair} {sym : String}

/-- A snapshot marks pairs that are subscribed, so no count changes. -/
theorem Subscribed.held_mark (subscribed : Subscribed c p) (found : Bool) (sym : String) :
    held (c.mark p found) sym = held c sym := by
  obtain ⟨subs, known, member⟩ := subscribed
  cases found with
  | false => rfl
  | true =>
      have after : (c.mark p true).subs = some (subs.insert p 1) := by
        change c.subs.map _ = _
        rw [known]
        rfl
      rw [held_some after, held_some known]
      exact heldOf_insert_of_mem member 1 sym

theorem Subscribed.mark {q : Pair} (subscribed : Subscribed c q) (p : Pair) (found : Bool) :
    Subscribed (c.mark p found) q := by
  obtain ⟨subs, known, inside⟩ := subscribed
  cases found with
  | false => exact ⟨subs, known, inside⟩
  | true =>
      refine ⟨subs.insert p 1, ?_, (AList.mem_insert subs).mpr (.inr inside)⟩
      change c.subs.map _ = _
      rw [known]
      rfl

/-- One client's share is at most the count. -/
theorem Sound.share_le (sound : s.Sound) (known : s.clients[i]? = some c) (sym : String) :
    share sym c ≤ countOf s.hotSubsRefcnt sym := by
  rw [sound.counts]
  refine List.single_le_sum (fun x member => ?_) _
    (List.mem_map_of_mem (List.mem_of_getElem? known))
  obtain ⟨other, present, rfl⟩ := List.mem_map.mp member
  exact (sound.turns other present).share_nonneg sym

/-- A call takes its next lock. -/
theorem Sound.advance (sound : s.Sound) (known : s.clients[i]? = some c) {call : HotCall}
    (taken : c.calls[k]? = some call) (found : Bool) : (s.advance true i c k found call).Sound := by
  have turn := sound.turns c (List.mem_of_getElem? known)
  obtain ⟨rfl, calls⟩ := turn.alone taken
  have own : call ∈ c.calls := by
    rw [calls]
    exact List.mem_cons_self
  unfold HotBook.advance
  rw [calls]
  cases call with
  | count added =>
      obtain ⟨within, subscribed⟩ := turn.counted added own
      obtain ⟨positive, counts⟩ := count_all sound.positive added
      have turn' : InTurn { c with calls := [.snapshots added] } := by
        refine ⟨Nat.le_refl 1, fun other member => ?_, fun pairs member => ?_⟩
        · cases List.mem_singleton.mp member
        · cases List.mem_singleton.mp member
          exact subscribed
      refine sound.set known turn' positive fun sym => ?_
      rw [if_pos rfl, counts, share_eq calls, share_eq rfl]
      change _ = _ + ((held c sym : ℤ) - 0 - (held c sym - (added.countP _ : Nat)))
      omega
  | snapshots pairs =>
      have kept : ∀ p ∈ pairs, Subscribed c p := turn.marked pairs own
      cases pairs with
      | nil =>
          refine sound.setClient known ⟨Nat.zero_le 1, fun other member => ?_, fun pairs member => ?_⟩
            fun sym => ?_
          · cases member
          · cases member
          · rw [share_eq calls]
            rfl
      | cons p pairs =>
          refine sound.setClient known ⟨Nat.le_refl 1, fun other member => ?_, fun rest member => ?_⟩
            fun sym => ?_
          · cases List.mem_singleton.mp member
          · cases List.mem_singleton.mp member
            intro q later
            exact (kept q (List.mem_cons_of_mem p later)).mark p found
          · rw [share_eq calls, share_eq rfl, ← (kept p List.mem_cons_self).held_mark found]
            rfl
  | uncount removed =>
      obtain ⟨positive, counts⟩ := uncount_all sound.positive removed fun sym => by
        have own := sound.share_le known sym
        rw [share_eq calls] at own
        change (held c sym : ℤ) - -((removed.countP _ : Nat) : ℤ) ≤ _ at own
        omega
      have idle : InTurn { subs := c.subs } := inTurn_idle
      refine sound.set known idle positive fun sym => ?_
      rw [if_pos rfl, counts, share_eq calls]
      change _ = _ + ((held c sym : ℤ) - 0 - (held c sym - -(removed.countP _ : Nat)))
      omega

theorem calls_of_idleAt (idle : s.idleAt i = true) (known : s.clients[i]? = some c) :
    c.calls = [] := by
  unfold idleAt at idle
  rw [known] at idle
  exact List.isEmpty_iff.mp idle

theorem preserves_sound : Preserves (step true) Serial Sound := by
  intro s act s' sound serial stepped
  cases act with
  | register =>
      cases stepped
      refine ⟨fun sym => ?_, sound.positive, fun c member => ?_⟩
      · have none_ : share sym { subs := some ∅ } = 0 := rfl
        rw [List.map_append, List.sum_append, ← sound.counts, List.map_singleton,
          List.sum_singleton, none_, add_zero]
      · rcases List.mem_append.mp member with old | new
        · exact sound.turns c old
        · rw [List.mem_singleton.mp new]
          exact inTurn_idle
  | subscribe i pairs =>
      obtain ⟨c, known, rfl⟩ := Option.map_eq_some_iff.mp stepped
      exact sound.setClient known (inTurn_subscribe (calls_of_idleAt serial known) pairs)
        (share_subscribe c pairs)
  | unsubscribe i pairs =>
      obtain ⟨c, known, rfl⟩ := Option.map_eq_some_iff.mp stepped
      refine sound.setClient known ?_ (share_unsubscribe c pairs)
      have idle : c.calls = [] := calls_of_idleAt serial known
      unfold HotClient.unsubscribe
      split
      · exact sound.turns c (List.mem_of_getElem? known)
      · rw [idle]
        exact inTurn_uncount _
  | deregister i =>
      obtain ⟨c, known, rfl⟩ := Option.map_eq_some_iff.mp stepped
      refine sound.setClient known ?_ (share_deregister c)
      have idle : c.calls = [] := calls_of_idleAt serial known
      unfold HotClient.deregister
      rw [idle]
      exact inTurn_uncount _
  | advance i k found =>
      obtain ⟨c, known, moved⟩ := Option.bind_eq_some_iff.mp stepped
      obtain ⟨call, taken, rfl⟩ := Option.map_eq_some_iff.mp moved
      exact sound.advance known taken found

theorem sound_empty : Sound {} := by
  refine ⟨fun sym => rfl, fun sym n entry => ?_, fun c member => ?_⟩
  · cases entry
  · cases member

theorem Sound.exact_ (sound : s.Sound) (idle : s.Idle) : s.Exact := by
  have counts : ∀ sym, countOf s.hotSubsRefcnt sym = s.subscriptions sym := by
    intro sym
    have parts : s.clients.map (share sym) = s.clients.map fun c => (held c sym : ℤ) := by
      refine List.map_congr_left fun c member => ?_
      unfold share
      rw [idle c member]
      exact sub_zero _
    rw [sound.counts, parts, subscriptions, Nat.cast_list_sum, List.map_map]
    rfl
  refine ⟨counts, sound.positive, fun sym none_ => ?_⟩
  have zero := counts sym
  rw [none_] at zero
  cases entry : s.hotSubsRefcnt.lookup sym with
  | none => rfl
  | some n =>
      have above := sound.positive sym n entry
      unfold countOf at zero
      rw [entry] at zero
      exact absurd zero above.ne'

/-- Without tiers no count is ever written. -/
theorem preserves_empty :
    Preserves (step false) Serial fun s => s.hotSubsRefcnt = ∅ := by
  intro s act s' empty _ stepped
  cases act with
  | register =>
      cases stepped
      exact empty
  | subscribe i pairs =>
      obtain ⟨c, -, rfl⟩ := Option.map_eq_some_iff.mp stepped
      exact empty
  | unsubscribe i pairs =>
      obtain ⟨c, -, rfl⟩ := Option.map_eq_some_iff.mp stepped
      exact empty
  | deregister i =>
      obtain ⟨c, -, rfl⟩ := Option.map_eq_some_iff.mp stepped
      exact empty
  | advance i k found =>
      obtain ⟨c, -, moved⟩ := Option.bind_eq_some_iff.mp stepped
      obtain ⟨call, -, rfl⟩ := Option.map_eq_some_iff.mp moved
      unfold HotBook.advance
      split <;> exact empty

/-- The counts are exact between the calls, whichever clients' calls cross, when freshness is
tiered; else there are none. -/
theorem alwaysCountsTiered_serial (tiered : Bool) : AlwaysCountsTiered tiered Serial := by
  unfold AlwaysCountsTiered
  split
  · intro s run idle
    exact (run.invariant preserves_sound sound_empty).exact_ idle
  · intro s run
    exact run.invariant preserves_empty rfl

end

/-! ## Counts that are not exact -/

/-- A client subscribes to one pair. -/
def subscribed : List HotAct :=
  [.register, .subscribe 0 ["binance:BTC"], .advance 0 0 false, .advance 0 0 false,
    .advance 0 0 false]

/-- The connection ends while the subscription is still to be counted. -/
def overtaken : List HotAct :=
  [.register, .subscribe 0 ["binance:BTC"], .deregister 0, .advance 0 1 false, .advance 0 0 false,
    .advance 0 0 false, .advance 0 0 false]

/-- What the runs below are about: whether all calls have ended, the entry, the subscriptions. -/
def bitcoin (s : HotBook) : Bool × Option ℤ × Nat :=
  (s.clients.all fun c => c.calls.isEmpty, s.hotSubsRefcnt.lookup "BTC", s.subscriptions "BTC")

theorem bitcoin_of_exact {ok : HotBook → HotAct → Prop} {tiered : Bool}
    (exact_ : AlwaysCounts tiered ok) {s : HotBook} (run : Run (step tiered) ok {} s)
    {entry : Option ℤ} {n : Nat} (read : bitcoin s = (true, entry, n)) : entry.getD 0 = n := by
  unfold bitcoin at read
  obtain ⟨ended, rest⟩ := Prod.mk.inj read
  obtain ⟨rfl, rfl⟩ := Prod.mk.inj rest
  refine (exact_ s run fun c member => ?_).counts "BTC"
  exact List.isEmpty_iff.mp (List.all_eq_true.mp ended c member)

/-- Without tiers nothing is counted; and two calls of one client at a time would leave a count
behind. -/
theorem alwaysCounts_broken :
    ¬AlwaysCounts false Serial ∧ ¬AlwaysCounts true fun _ _ => True := by
  have uncounted : (execGuarded (step false) Serial {} subscribed).map bitcoin =
      some (true, none, 1) := by decide +kernel
  have leaked : (exec (step true) {} overtaken).map bitcoin = some (true, some 1, 0) := by
    decide +kernel
  refine ⟨fun exact_ => ?_, fun exact_ => ?_⟩
  · obtain ⟨s, reached, read⟩ := Option.map_eq_some_iff.mp uncounted
    exact absurd (bitcoin_of_exact exact_ (Run.of_execGuarded reached) read) (by decide)
  · obtain ⟨s, reached, read⟩ := Option.map_eq_some_iff.mp leaked
    exact absurd (bitcoin_of_exact exact_ (Run.of_exec reached) read) (by decide)

end HotBook

end HotSymbols

end Avalant
