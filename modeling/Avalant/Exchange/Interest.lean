import Avalant.Exchange.Manager
import Avalant.Ws.Book
import Mathlib.Data.Finset.Card

/-!
The feed of a pair that a client is subscribed to.

A subscription touches the manager once. The entry goes with the idle window, and
with a `book:unsubscribe` of any process, whoever is still subscribed.
-/

namespace Avalant

namespace Exchange

open Transition

/-! ## The subscriptions -/

inductive WatchKind
  | book
  | trades

/-- `tradesMaxPairsPerClient`. -/
def tradesMaxPairsPerClient : Nat := 100

def WatchKind.maxPairs : WatchKind → Nat
  | .book => bookMaxPairsPerClient
  | .trades => tradesMaxPairsPerClient

/-- A client of the book or the trades channel. -/
structure Watcher where
  kind : WatchKind
  connected : Bool
  pairs : Finset Pair
  /-- New pairs that `handleSubscribe` has still to touch. -/
  touches : List Pair

/-- The pairs that a request adds: those in its first places that are free, and not known. -/
def Watcher.added (w : Watcher) (pairs : List Pair) : List Pair :=
  ((pairs.take (w.kind.maxPairs - w.pairs.card)).filter fun pair => pair ∉ w.pairs).dedup

/-- What has happened to a pair, for the statements. -/
inductive Mark
  | touched (pair : Pair) (at_ : Instant)
  | untouched (pair : Pair)

def Mark.pair : Mark → Pair
  | .touched pair _ => pair
  | .untouched pair => pair

/-! ## The pairs of the arb files -/

structure FutOpp where
  symbol : String
  longExchange : String
  shortExchange : String

structure SpotOpp where
  symbol : String
  spotExchange : String
  shortExchange : String

structure DexOpp where
  symbol : String
  shortExchange : String

/-- What is read of the files of the opportunities; nothing of a file that is not there. -/
structure ArbFiles where
  futures : List FutOpp
  spot : List SpotOpp
  dex : List DexOpp
  dexScreener : List DexOpp

/-- The legs that have an order book. -/
def ArbFiles.legs (files : ArbFiles) : List Pair :=
  (files.futures.flatMap fun o => [⟨o.longExchange, o.symbol⟩, ⟨o.shortExchange, o.symbol⟩]) ++
    (files.spot.flatMap fun o =>
      (if o.spotExchange = "" then [] else [⟨o.spotExchange ++ "_spot", o.symbol⟩]) ++
        [⟨o.shortExchange, o.symbol⟩]) ++
    (files.dex ++ files.dexScreener).map fun o => ⟨o.shortExchange, o.symbol⟩

/-! ## The manager -/

abbrev Manager := AList fun _ : String => Venue

def Manager.venue (m : Manager) (name : String) : Venue :=
  (m.lookup name).getD Venue.initial

def Manager.update (m : Manager) (name : String) (f : Venue → Venue) : Manager :=
  m.insert name (f (m.venue name))

structure Interest where
  now : Instant
  manager : Manager
  registered : List String
  watchers : List Watcher
  /-- The last mark first. -/
  log : List Mark

inductive InterestAct
  | wait (d : Nat)
  | register (venue : String)
  | connect (kind : WatchKind)
  | disconnect (client : Nat)
  | subscribe (client : Nat) (pairs : List Pair)
  /-- The next pair of a request is touched. -/
  | touchNext (client : Nat)
  | unsubscribe (client : Nat) (pairs : List Pair)
  /-- A `book:subscribe` message. -/
  | bookSubscribe (pair : Pair)
  /-- A `book:unsubscribe` message. -/
  | bookUnsubscribe (pair : Pair)
  /-- Disabled in the present fetcher. -/
  | touchFromArbFiles (files : ArbFiles)
  | prewarm (venue : String) (syms : List String)
  | reconcile (venue : String)

namespace Interest

def initial : Interest := ⟨0, ∅, [], [], []⟩

def venue (s : Interest) (name : String) : Venue :=
  s.manager.venue name

/-- `Touch`. -/
def touch (s : Interest) (pair : Pair) : Interest :=
  if pair.exchange = "" ∨ pair.symbol = "" then s
  else
    { s with
      manager := s.manager.update pair.exchange fun v => v.touch pair.symbol s.now
      log := .touched pair s.now :: s.log }

/-- `TouchFromArbFiles`. A leg without an exchange or a symbol is not touched. -/
def touchFromArbFiles (s : Interest) (files : ArbFiles) : Interest :=
  files.legs.foldl touch s

/-- `Untouch`. -/
def untouch (s : Interest) (pair : Pair) : Interest :=
  { s with
    manager := s.manager.update pair.exchange fun v => v.untouch pair.symbol
    log := .untouched pair :: s.log }

/-- A client that is not busy with a request. -/
def idle (s : Interest) (client : Nat) : Option Watcher :=
  s.watchers[client]?.filter fun w => w.connected && w.touches.isEmpty

def setWatcher (s : Interest) (client : Nat) (w : Watcher) : Interest :=
  { s with watchers := s.watchers.set client w }

def step (s : Interest) : InterestAct → Option Interest
  | .wait d => some { s with now := s.now + d }
  | .register venue => some { s with registered := venue :: s.registered }
  | .connect kind => some { s with watchers := s.watchers ++ [⟨kind, true, ∅, []⟩] }
  | .disconnect client =>
      (s.idle client).map fun w =>
        s.setWatcher client { w with connected := false, pairs := ∅ }
  | .subscribe client pairs =>
      (s.idle client).map fun w =>
        s.setWatcher client
          { w with pairs := w.pairs ∪ (w.added pairs).toFinset, touches := w.added pairs }
  | .touchNext client => do
      let w ← s.watchers[client]?
      match w.touches with
      | [] => none
      | pair :: touches => some ((s.setWatcher client { w with touches }).touch pair)
  | .unsubscribe client pairs =>
      (s.idle client).map fun w =>
        s.setWatcher client { w with pairs := w.pairs \ pairs.toFinset }
  | .bookSubscribe pair => some (s.touch pair)
  | .bookUnsubscribe pair => some (s.untouch pair)
  | .touchFromArbFiles files => some (s.touchFromArbFiles files)
  | .prewarm venue syms =>
      some { s with manager := s.manager.update venue fun v => v.prewarmSet syms }
  | .reconcile venue =>
      if venue ∈ s.registered then
        some { s with manager := s.manager.update venue fun v => (v.reconcile s.now).1 }
      else none

/-! ## Feeds -/

/-- The set that the manager wants for a venue has every pair of the venue that a client is
subscribed to. -/
def Fed (s : Interest) (venue : String) : Prop :=
  ∀ w ∈ s.watchers, ∀ pair ∈ w.pairs, pair.exchange = venue →
    pair.symbol ∈ (s.venue venue).current

/-- The last that happened to a pair is a touch within the idle window. -/
def Asked (s : Interest) (pair : Pair) : Prop :=
  ∃ at_, s.log.find? (fun mark => mark.pair = pair) = some (.touched pair at_) ∧
    s.now ≤ at_ + idleWindow

instance (s : Interest) (pair : Pair) : Decidable (s.Asked pair) :=
  match known : s.log.find? fun mark => mark.pair = pair with
  | none => isFalse (by rintro ⟨at_, found, -⟩; rw [known] at found; cases found)
  | some (.untouched _) => isFalse (by rintro ⟨at_, found, -⟩; rw [known] at found; cases found)
  | some (.touched other at_) =>
      decidable_of_iff (other = pair ∧ s.now ≤ at_ + idleWindow) (by simp [Asked, known])

/-- At a reconcile, each pair of the venue that a client is subscribed to is in the prewarm list, or
asked for. -/
def Alive (s : Interest) : InterestAct → Prop
  | .reconcile venue =>
      ∀ w ∈ s.watchers, ∀ pair ∈ w.pairs, pair.exchange = venue →
        pair.symbol ∈ (s.venue venue).prewarm ∨ s.Asked pair
  | _ => True

instance (s : Interest) (venue : String) : Decidable (s.Fed venue) := by
  unfold Fed
  infer_instance

instance (s : Interest) (act : InterestAct) : Decidable (s.Alive act) := by
  unfold Alive
  cases act <;> infer_instance

end Interest

/-- In every run whose steps meet `ok`, every reconcile keeps the feeds. -/
def AlwaysFed (ok : Interest → InterestAct → Prop) : Prop :=
  ∀ s venue s', Run Interest.step ok Interest.initial s → ok s (.reconcile venue) →
    s.step (.reconcile venue) = some s' → s'.Fed venue

/-- The condition under which a reconcile keeps the feeds, and no other does. -/
structure FedWhen (ok : Interest → InterestAct → Prop) : Prop where
  always : AlwaysFed ok
  only : ∀ s venue s', Run Interest.step (fun _ _ => True) Interest.initial s →
    s.step (.reconcile venue) = some s' → s'.Fed venue → ok s (.reconcile venue)

/-! ## The log and the touches of the manager -/

/-- What the manager keeps of a pair, by the last that happened to it. -/
inductive Recorded (now : Instant) (pair : Pair) : Option Mark → Option Instant → Prop
  | never : Recorded now pair none none
  | dropped : Recorded now pair (some (.untouched pair)) none
  | kept (at_ : Instant) : Recorded now pair (some (.touched pair at_)) (some at_)
  | expired (at_ : Instant) (late : at_ + idleWindow < now) :
      Recorded now pair (some (.touched pair at_)) none

section

variable {pair : Pair} {now : Instant} {mark : Option Mark} {entry : Option Instant}

theorem Recorded.later {now' : Instant}
    (recorded : Recorded now pair mark entry) (later : now ≤ now') :
    Recorded now' pair mark entry := by
  cases recorded with
  | never => exact .never
  | dropped => exact .dropped
  | kept at_ => exact .kept at_
  | expired at_ late => exact .expired at_ (Nat.lt_of_lt_of_le late later)

/-- An entry that is dropped when it has expired. -/
theorem Recorded.pruned
    (recorded : Recorded now pair mark entry) :
    Recorded now pair mark (entry.filter fun at_ => !decide (at_ + idleWindow < now)) := by
  cases recorded with
  | never => exact .never
  | dropped => exact .dropped
  | kept at_ =>
      by_cases late : at_ + idleWindow < now
      · rw [Option.filter_some_neg (by simpa using late)]
        exact .expired at_ late
      · rw [Option.filter_some_pos (by simpa using late)]
        exact .kept at_
  | expired at_ late => exact .expired at_ late

/-- A touch within the idle window, by the log and by the manager. -/
theorem Recorded.asked_iff
    (recorded : Recorded now pair mark entry) :
    (∃ at_, mark = some (.touched pair at_) ∧ now ≤ at_ + idleWindow) ↔
      ∃ at_, entry = some at_ ∧ now ≤ at_ + idleWindow := by
  cases recorded with
  | never => simp
  | dropped => simp
  | kept at_ => simp
  | expired at_ late =>
      refine iff_of_false ?_ (by simp)
      intro given
      rcases given with ⟨_, ⟨⟩, fresh⟩
      exact absurd late (Nat.not_lt.mpr fresh)

end

theorem Manager.venue_update_self (m : Manager) (name : String) (f : Venue → Venue) :
    (m.update name f).venue name = f (m.venue name) := by
  unfold Manager.venue Manager.update
  rw [AList.lookup_insert]
  rfl

theorem Manager.venue_update_of_ne (m : Manager) (f : Venue → Venue) {name other : String}
    (apart : other ≠ name) : (m.update name f).venue other = m.venue other := by
  unfold Manager.venue Manager.update
  rw [AList.lookup_insert_ne apart]

namespace Interest

/-- The last that happened to a pair. -/
def lastMark (s : Interest) (pair : Pair) : Option Mark :=
  s.log.find? fun mark => mark.pair = pair

/-- The entry of a pair in the manager. -/
def entry (s : Interest) (pair : Pair) : Option Instant :=
  (s.venue pair.exchange).userSubs.lookup pair.symbol

def Matches (s : Interest) : Prop :=
  ∀ pair, Recorded s.now pair (s.lastMark pair) (s.entry pair)

section

variable {s s' : Interest} {pair other : Pair} {name : String} {f : Venue → Venue}

/-- A change of one venue that leaves the touches of a pair. -/
theorem entry_update (name : String) (f : Venue → Venue) (changed : s'.manager = s.manager.update name f)
    (same : pair.exchange = name →
      (f (s.venue name)).userSubs.lookup pair.symbol = (s.venue name).userSubs.lookup pair.symbol) :
    s'.entry pair = s.entry pair := by
  unfold entry venue
  rw [changed]
  by_cases here : pair.exchange = name
  · subst here
    rw [Manager.venue_update_self]
    exact same rfl
  · rw [Manager.venue_update_of_ne _ _ here]

/-- The symbols of two pairs of a venue differ. -/
theorem symbol_ne (apart : other ≠ pair) (venue : other.exchange = pair.exchange) :
    other.symbol ≠ pair.symbol := by
  intro same
  exact apart (by cases other; cases pair; simp_all)

/-- What happens to a pair is logged, and changes its own entry. -/
theorem matches_mark (mark : Mark) (f : Venue → Venue) (matched : s.Matches) (now : s'.now = s.now)
    (log : s'.log = mark :: s.log)
    (changed : s'.manager = s.manager.update mark.pair.exchange f)
    (own : ∀ v : Venue, Recorded s.now mark.pair (some mark)
      ((f v).userSubs.lookup mark.pair.symbol))
    (others : ∀ v : Venue, ∀ symbol ≠ mark.pair.symbol,
      (f v).userSubs.lookup symbol = v.userSubs.lookup symbol) : s'.Matches := by
  intro pair
  rw [now]
  by_cases same : pair = mark.pair
  · have last : s'.lastMark pair = some mark := by
      unfold lastMark
      rw [log]
      exact List.find?_cons_of_pos (decide_eq_true same.symm)
    have entry : s'.entry pair = (f (s.venue pair.exchange)).userSubs.lookup pair.symbol := by
      unfold Interest.entry venue
      rw [changed, same, Manager.venue_update_self]
    rw [last, entry, same]
    exact own _
  · have last : s'.lastMark pair = s.lastMark pair := by
      unfold lastMark
      rw [log]
      exact List.find?_cons_of_neg (by simpa using fun known => same known.symm)
    rw [last, entry_update _ f changed fun venue => others _ _ (symbol_ne same venue)]
    exact matched pair

theorem matches_touch (matched : s.Matches) (pair : Pair) : (s.touch pair).Matches := by
  unfold touch
  split
  case isTrue => exact matched
  case isFalse named =>
    have touched (v : Venue) : v.touch pair.symbol s.now =
        { v with userSubs := v.userSubs.insert pair.symbol s.now } :=
      if_neg fun empty => named (Or.inr empty)
    refine matches_mark (.touched pair s.now) (fun v => v.touch pair.symbol s.now) matched rfl rfl
      rfl (fun v => ?_) fun v symbol apart => ?_
    · rw [touched]
      change Recorded s.now pair _ ((v.userSubs.insert pair.symbol s.now).lookup pair.symbol)
      rw [AList.lookup_insert]
      exact .kept s.now
    · rw [touched]
      exact AList.lookup_insert_ne apart

theorem matches_touches (matched : s.Matches) (pairs : List Pair) :
    (pairs.foldl touch s).Matches := by
  induction pairs generalizing s with
  | nil => exact matched
  | cons pair pairs ih => exact ih (matches_touch matched pair)

theorem matches_untouch (matched : s.Matches) (pair : Pair) : (s.untouch pair).Matches := by
  refine matches_mark (.untouched pair) (fun v => v.untouch pair.symbol) matched rfl rfl rfl
    (fun v => ?_) fun v symbol apart => ?_
  · change Recorded s.now pair _ ((v.userSubs.erase pair.symbol).lookup pair.symbol)
    rw [AList.lookup_erase]
    exact .dropped
  · exact AList.lookup_erase_ne apart

/-- A step that leaves the log and the touches of the manager. -/
theorem matches_of_same (matched : s.Matches) (now : s.now ≤ s'.now) (log : s'.log = s.log)
    (same : ∀ pair, s'.entry pair = s.entry pair) : s'.Matches := by
  intro pair
  rw [same]
  unfold lastMark
  rw [log]
  exact (matched pair).later now

theorem matches_step {act : InterestAct} (matched : s.Matches) (stepped : s.step act = some s') :
    s'.Matches := by
  have quiet : s'.manager = s.manager → s.now ≤ s'.now → s'.log = s.log → s'.Matches := by
    intro manager now log
    refine matches_of_same matched now log fun pair => ?_
    unfold entry venue
    rw [manager]
  cases act with
  | wait d =>
      cases stepped
      exact quiet rfl (Nat.le_add_right _ _) rfl
  | register venue =>
      cases stepped
      exact quiet rfl (le_refl _) rfl
  | connect kind =>
      cases stepped
      exact quiet rfl (le_refl _) rfl
  | disconnect client =>
      obtain ⟨w, -, rfl⟩ := Option.map_eq_some_iff.mp stepped
      exact quiet rfl (le_refl _) rfl
  | subscribe client pairs =>
      obtain ⟨w, -, rfl⟩ := Option.map_eq_some_iff.mp stepped
      exact quiet rfl (le_refl _) rfl
  | touchNext client =>
      obtain ⟨w, -, next⟩ := Option.bind_eq_some_iff.mp stepped
      split at next
      · cases next
      case h_2 pair touches _ =>
        cases next
        exact matches_touch (s := s.setWatcher client { w with touches }) matched pair
  | unsubscribe client pairs =>
      obtain ⟨w, -, rfl⟩ := Option.map_eq_some_iff.mp stepped
      exact quiet rfl (le_refl _) rfl
  | bookSubscribe pair =>
      cases stepped
      exact matches_touch matched pair
  | bookUnsubscribe pair =>
      cases stepped
      exact matches_untouch matched pair
  | touchFromArbFiles files =>
      cases stepped
      exact matches_touches matched files.legs
  | prewarm name syms =>
      cases stepped
      exact matches_of_same matched (le_refl _) rfl fun pair =>
        entry_update name (fun v => v.prewarmSet syms) rfl fun _ => rfl
  | reconcile name =>
      obtain ⟨-, changed⟩ := Option.ite_none_right_eq_some.mp stepped
      cases changed
      intro pair
      by_cases here : pair.exchange = name
      · subst here
        have entry : ({ s with manager := s.manager.update pair.exchange fun v =>
            (v.reconcile s.now).1 } : Interest).entry pair =
              (s.entry pair).filter fun at_ => !decide (at_ + idleWindow < s.now) := by
          unfold Interest.entry venue
          rw [Manager.venue_update_self, (current_reconcile _ _).2]
          exact lookup_pruned _ _ _
        rw [entry]
        exact (matched pair).pruned
      · have entry : ({ s with manager := s.manager.update name fun v =>
            (v.reconcile s.now).1 } : Interest).entry pair = s.entry pair :=
          entry_update name (fun v => (v.reconcile s.now).1) rfl fun same => absurd same here
        rw [entry]
        exact matched pair

theorem matches_run (run : Run step (fun _ _ => True) initial s) : s.Matches := by
  refine run.invariant (fun _ _ _ matched _ stepped => matches_step matched stepped) fun pair => ?_
  exact .never

/-- A reconcile keeps the feeds exactly when each subscribed pair is prewarmed or asked for. -/
theorem fed_iff (matched : s.Matches) {venue : String}
    (stepped : s.step (.reconcile venue) = some s') :
    s'.Fed venue ↔ s.Alive (.reconcile venue) := by
  obtain ⟨-, changed⟩ := Option.ite_none_right_eq_some.mp stepped
  cases changed
  unfold Fed Alive
  refine forall₂_congr fun w _ => forall₂_congr fun pair _ => forall_congr' fun here => ?_
  subst here
  unfold Interest.venue
  rw [Manager.venue_update_self, (current_reconcile _ _).1, mem_union_pruned]
  exact or_congr Iff.rfl (matched pair).asked_iff.symm

end

end Interest

/-! ## Every run -/

/-- Every reconcile keeps the feeds of the pairs that are prewarmed or asked for, and of no others. -/
theorem fedWhen_alive {ok : Interest → InterestAct → Prop} (same : ∀ s act, ok s act ↔ s.Alive act) :
    FedWhen ok where
  always := fun s venue _ run alive stepped => by
    have matched := Interest.matches_run (run.mono fun _ _ _ => trivial)
    exact (Interest.fed_iff matched stepped).mpr ((same s (.reconcile venue)).mp alive)
  only := fun s venue _ run stepped fed =>
    (same s (.reconcile venue)).mpr ((Interest.fed_iff (Interest.matches_run run) stepped).mp fed)

theorem fedWhen_interest_alive : FedWhen Interest.Alive :=
  fedWhen_alive fun _ _ => Iff.rfl

/-- A client of the book channel subscribes to a pair that is not prewarmed. -/
def oneSubscription : List InterestAct :=
  [.register "binance", .connect .book, .subscribe 0 [⟨"binance", "BTC"⟩], .touchNext 0]

/-- A message touches the pair again before the window is over. -/
example : (execGuarded Interest.step Interest.Alive Interest.initial
    (oneSubscription ++ [.reconcile "binance", .wait (100 * 1000000000),
      .bookSubscribe ⟨"binance", "BTC"⟩, .wait (100 * 1000000000), .reconcile "binance"])).map
        (fun s => (s.venue "binance").current) = some {"BTC"} := by
  decide +kernel

/-- A run that ends with a reconcile without the pair. -/
theorem not_fed {ok : Interest → InterestAct → Prop} [∀ s act, Decidable (ok s act)]
    (as : List InterestAct)
    (ran : ((execGuarded Interest.step ok Interest.initial as).bind fun s =>
      if ok s (.reconcile "binance") then (s.step (.reconcile "binance")).map fun s' =>
        decide (s'.Fed "binance") else none) = some false) : ¬AlwaysFed ok := by
  intro always
  obtain ⟨s, executed, last⟩ := Option.bind_eq_some_iff.mp ran
  obtain ⟨admitted, last⟩ := Option.ite_none_right_eq_some.mp last
  obtain ⟨s', stepped, starved⟩ := Option.map_eq_some_iff.mp last
  exact of_decide_eq_false starved
    (always s "binance" s' (Run.of_execGuarded executed) admitted stepped)

/-- A process that has no subscriber left tells the others. -/
def InterestAct.IsUnsubscribe : InterestAct → Bool
  | .bookUnsubscribe _ => true
  | _ => false

def InterestAct.IsWait : InterestAct → Bool
  | .wait _ => true
  | _ => false

/-- The window passes without a message, a message of another process takes the entry, and so in
general. -/
theorem alwaysFed_broken :
    (¬AlwaysFed fun _ act => act.IsUnsubscribe = false) ∧
      (¬AlwaysFed fun _ act => act.IsWait = false) ∧ ¬AlwaysFed fun _ _ => True :=
  ⟨not_fed (oneSubscription ++ [.wait (121 * 1000000000)]) (by decide +kernel),
    not_fed (oneSubscription ++ [.bookUnsubscribe ⟨"binance", "BTC"⟩]) (by decide +kernel),
    not_fed (oneSubscription ++ [.wait (121 * 1000000000)]) (by decide +kernel)⟩

end Exchange

end Avalant
