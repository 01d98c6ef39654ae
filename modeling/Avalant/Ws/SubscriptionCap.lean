import Avalant.Lib.Admission
import Avalant.Lib.Run
import Avalant.Ws.HotRefcount
import Avalant.Ws.Trades

/-!
The bound on the subscriptions of a client of the book and the trades channel.

`handleSubscribe` computes once how many places are free, and compares the place of a pair in the
request with it. What the strings of a request mean is left to a function, so that the results hold
for whatever counts as a pair.
-/

namespace Avalant

open Admission Transition

/-! ## The channels -/

/-- The subscribed pairs of a client: with the last `ts` sent in the book channel, and with nothing
in the trades channel. -/
abbrev PairMap (V : Type*) := AList fun _ : Pair => V

structure PairChannel (V : Type*) where
  maxPairsPerClient : Nat
  /-- What a new pair is put in with. -/
  fresh : V
  normalizePair : String → Option Pair

/-- The pairs of a client. -/
inductive ClientAct (V : Type*)
  | register
  | deregister
  | subscribe (pairs : List String)
  | unsubscribe (pairs : List String)
  /-- `set[pairKey] = ts` for a pair that the client has: the reader of the client, which is the one
  to unsubscribe, also sends the first snapshots. -/
  | mark (pair : Pair) (ts : V)

namespace PairChannel

variable {V : Type*} (ch : PairChannel V)

/-- The loop of `handleSubscribe`, from a place of the request on. -/
def subscribeLoop (free : Nat) : Nat → List Pair → PairMap V × List Pair → PairMap V × List Pair
  | _, [], state => state
  | i, p :: pairs, (subs, added) =>
      if free ≤ i then (subs, added)
      else if p ∈ subs then subscribeLoop free (i + 1) pairs (subs, added)
      else subscribeLoop free (i + 1) pairs (subs.insert p ch.fresh, added ++ [p])

/-- The pairs of a request that are well formed. -/
def cleaned (pairs : List String) : List Pair :=
  pairs.filterMap ch.normalizePair

/-- `handleSubscribe` under the lock: the subscriptions, and the pairs that are then touched and
answered with what is known of them. -/
def handleSubscribe (subs : PairMap V) (pairs : List String) : PairMap V × List Pair :=
  ch.subscribeLoop (ch.maxPairsPerClient - subs.keys.length) 0 (ch.cleaned pairs) (subs, [])

/-- `handleUnsubscribe` under the lock. -/
def handleUnsubscribe (subs : PairMap V) (pairs : List String) : PairMap V :=
  (ch.cleaned pairs).foldl (fun subs p => subs.erase p) subs

/-- None when the channel does not have the client. -/
def step (c : Option (PairMap V)) : ClientAct V → Option (Option (PairMap V))
  | .register => some (some ∅)
  | .deregister => some none
  | .subscribe pairs => some (c.map fun subs => (ch.handleSubscribe subs pairs).1)
  | .unsubscribe pairs => some (c.map fun subs => ch.handleUnsubscribe subs pairs)
  | .mark p ts => some (c.map fun subs => subs.replace p ts)

/-- The subscriptions of a client after any requests. -/
def Reached (subs : PairMap V) : Prop :=
  Run ch.step (fun _ _ => True) none (some subs)

/-- The bound is kept, and so is what the client has; a pair is refused only where the bound is
reached. -/
def SubscribesExactly : Prop :=
  ∀ subs, ch.Reached subs → ∀ pairs,
    let after := (ch.handleSubscribe subs pairs).1
    after.keys.length ≤ ch.maxPairsPerClient ∧ (∀ p ∈ subs, after.lookup p = subs.lookup p) ∧
      FillsCap ch.maxPairsPerClient subs after (ch.cleaned pairs)

/-- What a request does: the new pairs in its first places are subscribed in its order, as many
places as are free. -/
structure Subscribes (subs : PairMap V) (pairs : List String) (after : PairMap V)
    (added : List Pair) : Prop where
  capped : after.keys.length ≤ ch.maxPairsPerClient
  kept : ∀ p ∈ subs, after.lookup p = subs.lookup p
  inOrder : added =
    news subs ((ch.cleaned pairs).take (ch.maxPairsPerClient - subs.keys.length))
  subscribed : ∀ p, p ∈ after ↔ p ∈ subs ∨ p ∈ added

/-- The first places of a request that are free hold new pairs only, each once; or the others hold
nothing that is not in them or subscribed already. -/
def FirstPlacesSuffice (subs : PairMap V) (pairs : List String) : Prop :=
  let free := ch.maxPairsPerClient - subs.keys.length
  (((ch.cleaned pairs).take free).Nodup ∧ ∀ p ∈ (ch.cleaned pairs).take free, p ∉ subs) ∨
    ∀ p ∈ (ch.cleaned pairs).drop free, p ∈ subs ∨ p ∈ (ch.cleaned pairs).take free

def SubscribesFirst : Prop :=
  ∀ subs, ch.Reached subs → ∀ pairs,
    ch.Subscribes subs pairs (ch.handleSubscribe subs pairs).1 (ch.handleSubscribe subs pairs).2 ∧
      (FillsCap ch.maxPairsPerClient subs (ch.handleSubscribe subs pairs).1 (ch.cleaned pairs) ↔
        ch.FirstPlacesSuffice subs pairs)

/-! ## One request -/

theorem subscribeLoop_eq (free : Nat) (pairs : List Pair) (i : Nat)
    (state : PairMap V × List Pair) :
    ch.subscribeLoop free i pairs state = (pairs.take (free - i)).foldl (takeIn ch.fresh) state := by
  induction pairs generalizing i state with
  | nil => rw [List.take_nil]; rfl
  | cons p pairs ih =>
      obtain ⟨subs, added⟩ := state
      unfold subscribeLoop
      split
      case isTrue none_ =>
        rw [Nat.sub_eq_zero_of_le none_]
        rfl
      case isFalse places =>
        have more : free - i = (free - (i + 1)) + 1 := by omega
        rw [more, List.take_succ_cons, List.foldl_cons]
        unfold takeIn
        dsimp only
        split
        · exact ih (i + 1) (subs, added)
        · exact ih (i + 1) (subs.insert p ch.fresh, added ++ [p])

theorem handleSubscribe_eq (subs : PairMap V) (pairs : List String) :
    ch.handleSubscribe subs pairs =
      ((ch.cleaned pairs).take (ch.maxPairsPerClient - subs.keys.length)).foldl (takeIn ch.fresh)
        (subs, []) :=
  ch.subscribeLoop_eq _ _ 0 _

theorem takesIn_handleSubscribe {subs : PairMap V}
    (within : subs.keys.length ≤ ch.maxPairsPerClient) (pairs : List String) :
    TakesIn ch.maxPairsPerClient subs (ch.handleSubscribe subs pairs).1 (ch.cleaned pairs) := by
  obtain ⟨-, keys, -⟩ := foldl_takeIn ch.fresh
    ((ch.cleaned pairs).take (ch.maxPairsPerClient - subs.keys.length)) subs []
  rw [← handleSubscribe_eq] at keys
  exact ⟨within, keys⟩

theorem subscribes_handleSubscribe {subs : PairMap V}
    (within : subs.keys.length ≤ ch.maxPairsPerClient) (pairs : List String) :
    ch.Subscribes subs pairs (ch.handleSubscribe subs pairs).1
      (ch.handleSubscribe subs pairs).2 := by
  have takes := ch.takesIn_handleSubscribe within pairs
  obtain ⟨adds, -, stays⟩ := foldl_takeIn ch.fresh
    ((ch.cleaned pairs).take (ch.maxPairsPerClient - subs.keys.length)) subs []
  rw [← handleSubscribe_eq, List.nil_append] at adds
  rw [← handleSubscribe_eq] at stays
  refine ⟨takes.capped, stays, adds, fun p => ?_⟩
  rw [takes.mem, adds, mem_news]
  tauto

/-! ## Every run -/

def Within : Option (PairMap V) → Prop
  | none => True
  | some subs => subs.keys.length ≤ ch.maxPairsPerClient

theorem length_handleUnsubscribe_le (subs : PairMap V) (pairs : List String) :
    (ch.handleUnsubscribe subs pairs).keys.length ≤ subs.keys.length := by
  unfold handleUnsubscribe
  induction ch.cleaned pairs generalizing subs with
  | nil => exact le_rfl
  | cons p pairs ih =>
      refine (ih (subs.erase p)).trans ?_
      rw [AList.keys_erase]
      exact List.length_erase_le

theorem preserves_within : Preserves ch.step (fun _ _ => True) ch.Within := by
  intro c act c' within _ stepped
  cases act with
  | register =>
      cases stepped
      exact Nat.zero_le _
  | deregister =>
      cases stepped
      trivial
  | subscribe pairs =>
      cases stepped
      cases c with
      | none => trivial
      | some subs => exact (ch.takesIn_handleSubscribe within pairs).capped
  | unsubscribe pairs =>
      cases stepped
      cases c with
      | none => trivial
      | some subs => exact (ch.length_handleUnsubscribe_le subs pairs).trans within
  | mark p ts =>
      cases stepped
      cases c with
      | none => trivial
      | some subs =>
          change (subs.replace p ts).keys.length ≤ _
          rw [AList.keys_replace]
          exact within

theorem Reached.within {subs : PairMap V} (reached : ch.Reached subs) :
    subs.keys.length ≤ ch.maxPairsPerClient := by
  have kept : ch.Within (some subs) := Run.invariant ch.preserves_within reached trivial
  exact kept

theorem subscribesFirst : ch.SubscribesFirst := by
  intro subs reached pairs
  have within := reached.within
  exact ⟨ch.subscribes_handleSubscribe within pairs,
    (ch.takesIn_handleSubscribe within pairs).fillsCap_iff⟩

end PairChannel

/-! ## The book and the trades channel -/

variable {V W : Type*}

/-- `Book`. -/
def bookPairs (fresh : V) (normalizePair : String → Option Pair) : PairChannel V where
  maxPairsPerClient := bookMaxPairsPerClient
  fresh
  normalizePair

/-- `Trades`. -/
def tradesPairs (fresh : V) (normalizePair : String → Option Pair) : PairChannel V where
  maxPairsPerClient := tradesMaxPairsPerClient
  fresh
  normalizePair

/-- The hot counts follow the subscriptions of this channel. -/
theorem hotClient_subscribe_eq {c : HotSymbols.HotClient} {subs : HotSymbols.Subs}
    (known : c.subs = some subs) (pairs : List String) :
    let done := (bookPairs 0 HotSymbols.normalizePair).handleSubscribe subs pairs
    c.subscribe pairs = { c with subs := some done.1, calls := c.calls ++ [.count done.2] } := by
  have same : HotSymbols.addPair = takeIn 0 := rfl
  dsimp only
  unfold HotSymbols.HotClient.subscribe
  rw [PairChannel.handleSubscribe_eq, known, same]
  rfl

theorem subscribePairs_eq (arrived : Nat) (pairs : List Pair) (set : PairMap Nat)
    (added : List Pair) :
    pairs.foldl (takeIn arrived) (set, added) =
      ((TradesClient.subscribePairs arrived set pairs).1,
        added ++ (TradesClient.subscribePairs arrived set pairs).2) := by
  induction pairs generalizing set added with
  | nil => exact Prod.ext rfl (List.append_nil added).symm
  | cons p pairs ih =>
      rw [List.foldl_cons]
      by_cases known : p ∈ set
      · have same : takeIn arrived (set, added) p = (set, added) := if_pos known
        have skipped : TradesClient.subscribePairs arrived set (p :: pairs) =
            TradesClient.subscribePairs arrived set pairs := if_pos (AList.lookup_isSome.mpr known)
        rw [same, skipped]
        exact ih set added
      · have put : takeIn arrived (set, added) p = (set.insert p arrived, added ++ [p]) :=
          if_neg known
        have listed : TradesClient.subscribePairs arrived set (p :: pairs) =
            ((TradesClient.subscribePairs arrived (set.insert p arrived) pairs).1,
              p :: (TradesClient.subscribePairs arrived (set.insert p arrived) pairs).2) :=
          if_neg (mt AList.lookup_isSome.mp known)
        rw [put, listed]
        refine (ih (set.insert p arrived) (added ++ [p])).trans ?_
        rw [List.append_assoc]
        rfl

/-- The backfills follow the subscriptions of this channel. -/
theorem tradesClient_subscribe_eq (c : TradesClient) (arrived : Nat) (pairs : List String) :
    let ch := tradesPairs arrived HotSymbols.normalizePair
    let done := ch.handleSubscribe c.set pairs
    c.subscribe arrived (ch.cleaned pairs) =
      { c with set := done.1, job := if done.2 = [] then none else some ⟨done.2, []⟩ } := by
  dsimp only
  rw [PairChannel.handleSubscribe_eq, subscribePairs_eq]
  rfl

/-- In both channels the first places of a request are subscribed, whatever counts as a pair. -/
theorem book_and_trades_subscribeFirst (ts : V) (entry : W)
    (normalizePair : String → Option Pair) :
    (bookPairs ts normalizePair).SubscribesFirst ∧
      (tradesPairs entry normalizePair).SubscribesFirst :=
  ⟨PairChannel.subscribesFirst _, PairChannel.subscribesFirst _⟩

/-- A new client asks for one pair a hundred times, and then for another: it gets the first. -/
theorem repeated_pair_uses_up_the_places :
    ¬(bookPairs 0 HotSymbols.normalizePair).SubscribesExactly ∧
      ¬(tradesPairs () HotSymbols.normalizePair).SubscribesExactly := by
  have lost : ∀ {V : Type} (ch : PairChannel V), ch.maxPairsPerClient = 100 →
      ch.normalizePair = HotSymbols.normalizePair → ¬ch.SubscribesExactly := by
    intro V ch hundred normal exact_
    have reached : ch.Reached ∅ :=
      (Run.refl none).tail (a := .register) trivial rfl
    have request : ch.cleaned (List.replicate 100 "okx:BTC" ++ ["okx:ETH"]) =
        List.replicate 100 ⟨"okx", "BTC"⟩ ++ [⟨"okx", "ETH"⟩] := by
      unfold PairChannel.cleaned
      rw [normal]
      decide +kernel
    have takes := ch.takesIn_handleSubscribe reached.within
      (List.replicate 100 "okx:BTC" ++ ["okx:ETH"])
    obtain ⟨-, -, fills⟩ := exact_ ∅ reached (List.replicate 100 "okx:BTC" ++ ["okx:ETH"])
    rw [takes.fillsCap_iff, request, hundred, AList.keys_empty] at fills
    rcases fills with ⟨once, -⟩ | nothing
    · exact absurd once (by decide)
    · rcases nothing ⟨"okx", "ETH"⟩ (by decide) with held | early
      · exact AList.notMem_empty _ held
      · exact absurd early (by decide)
  exact ⟨lost _ rfl rfl, lost _ rfl rfl⟩

end Avalant
