import Avalant.Cache.Store
import Avalant.Lib.Run

/-!
The funding store of one venue, fed by a websocket and by REST sweeps.

A tick carries zeros for the fields that a report leaves out, and the store keeps its value of
a field where a tick has a zero. Reports are merged in the order in which they arrive. Times are
nanoseconds from Go's zero time, so a zero time is zero.
-/

namespace Avalant

namespace Funding

open Transition

/-! ## The store -/

structure Tick where
  symbol : String
  rate : ℚ
  markPrice : ℚ
  indexPrice : ℚ
  volume24h : ℚ
  openIntUSD : ℚ
  nextFunding : Nat
  intervalH : ℚ
  updatedAt : Nat
  deriving DecidableEq

abbrev Ticks := AList fun _ : Pair => Tick

/-- The fields that are merged. -/
inductive Field
  | rate
  | markPrice
  | indexPrice
  | volume24h
  | openIntUSD
  | nextFunding
  | intervalH
  deriving DecidableEq

namespace Tick

def read (t : Tick) : Field → ℚ
  | .rate => t.rate
  | .markPrice => t.markPrice
  | .indexPrice => t.indexPrice
  | .volume24h => t.volume24h
  | .openIntUSD => t.openIntUSD
  | .nextFunding => t.nextFunding
  | .intervalH => t.intervalH

def merge (cur t : Tick) : Tick where
  symbol := cur.symbol
  rate := if t.rate ≠ 0 then t.rate else cur.rate
  markPrice := if t.markPrice ≠ 0 then t.markPrice else cur.markPrice
  indexPrice := if t.indexPrice ≠ 0 then t.indexPrice else cur.indexPrice
  volume24h := if t.volume24h ≠ 0 then t.volume24h else cur.volume24h
  openIntUSD := if t.openIntUSD ≠ 0 then t.openIntUSD else cur.openIntUSD
  nextFunding := if t.nextFunding ≠ 0 then t.nextFunding else cur.nextFunding
  intervalH := if t.intervalH ≠ 0 then t.intervalH else cur.intervalH
  updatedAt := t.updatedAt

def stamped (t : Tick) (now : Nat) : Tick :=
  if t.updatedAt = 0 then { t with updatedAt := now } else t

end Tick

/-- `Store.Apply`. -/
def apply (ticks : Ticks) (exchange : String) (t : Tick) (now : Nat) : Ticks :=
  if t.symbol = "" then ticks
  else
    let t := t.stamped now
    match ticks.lookup ⟨exchange, t.symbol⟩ with
    | none => ticks.insert ⟨exchange, t.symbol⟩ t
    | some cur => ticks.insert ⟨exchange, t.symbol⟩ (cur.merge t)

/-! ## Reports -/

/-- What the venue tells of a symbol: any fields, and any values, a zero too. -/
structure Observation where
  symbol : String
  rate : Option ℚ := none
  markPrice : Option ℚ := none
  indexPrice : Option ℚ := none
  volume24h : Option ℚ := none
  openIntUSD : Option ℚ := none
  nextFunding : Option Nat := none
  intervalH : Option ℚ := none
  updatedAt : Option Nat := none
  deriving DecidableEq

namespace Observation

def read (o : Observation) : Field → Option ℚ
  | .rate => o.rate
  | .markPrice => o.markPrice
  | .indexPrice => o.indexPrice
  | .volume24h => o.volume24h
  | .openIntUSD => o.openIntUSD
  | .nextFunding => o.nextFunding.map fun t => (t : ℚ)
  | .intervalH => o.intervalH

/-- What `ParseWS` and `BackstopFetch` make of it. -/
def toTick (o : Observation) : Tick where
  symbol := o.symbol
  rate := o.rate.getD 0
  markPrice := o.markPrice.getD 0
  indexPrice := o.indexPrice.getD 0
  volume24h := o.volume24h.getD 0
  openIntUSD := o.openIntUSD.getD 0
  nextFunding := o.nextFunding.getD 0
  intervalH := o.intervalH.getD 0
  updatedAt := o.updatedAt.getD 0

end Observation

/-- An observation, the time it was made, and the time its tick was applied. -/
structure Report extends Observation where
  observedAt : Nat
  appliedAt : Nat := 0
  deriving DecidableEq

/-! ## The runner -/

structure Venue where
  now : Nat
  ticks : Ticks
  /-- What the websocket has pushed and the session has not read. -/
  conn : List Report
  /-- The rows of a sweep that are to be applied. -/
  sweep : List Report
  /-- The reports that have been applied, in that order. -/
  applied : List Report

inductive FundingAct
  | wait (d : Nat)
  | push (o : Observation)
  /-- The connection is lost, with what it had not delivered. -/
  | drop
  /-- The answer of a sweep. -/
  | fetch (rows : List Observation)
  | applyWs
  | applyRow

namespace Venue

def initial : Venue := ⟨0, ∅, [], [], []⟩

def applyReport (exchange : String) (s : Venue) (r : Report) : Venue :=
  { s with
    ticks := apply s.ticks exchange r.toTick s.now
    applied := s.applied ++ [{ r with appliedAt := s.now }] }

/-- The websocket and the sweeps of a venue; one sweep is applied before the next is made. -/
def step (exchange : String) (s : Venue) : FundingAct → Option Venue
  | .wait d => some { s with now := s.now + d }
  | .push o => some { s with conn := s.conn ++ [{ o with observedAt := s.now }] }
  | .drop => some { s with conn := [] }
  | .fetch rows =>
      match s.sweep with
      | [] => some { s with sweep := rows.map fun o => { o with observedAt := s.now } }
      | _ :: _ => none
  | .applyWs =>
      match s.conn with
      | [] => none
      | r :: conn => some ({ s with conn }.applyReport exchange r)
  | .applyRow =>
      match s.sweep with
      | [] => none
      | r :: sweep => some ({ s with sweep }.applyReport exchange r)

/-- Everything that was pushed or fetched has been applied. -/
def Settled (s : Venue) : Prop := s.conn = [] ∧ s.sweep = []

/-- The applied reports of a symbol. -/
def reports (s : Venue) (symbol : String) : List Report :=
  s.applied.filter (·.symbol = symbol)

end Venue

/-! ## The freshest values -/

/-- The most recent observation of a field has the value. -/
def Freshest (reports : List Report) (f : Field) (v : ℚ) : Prop :=
  ∃ r ∈ reports, r.read f = some v ∧
    ∀ r' ∈ reports, (r'.read f).isSome → r'.observedAt ≤ r.observedAt

/-- After every run each field that was reported has its freshest value. -/
def StoreFreshest : Prop :=
  ∀ exchange s, Run (Venue.step exchange) (fun _ _ => True) .initial s → s.Settled →
    ∀ symbol ≠ "", ∀ f, (∃ r ∈ s.reports symbol, (r.read f).isSome) →
      ∃ tick, s.ticks.lookup ⟨exchange, symbol⟩ = some tick ∧
        Freshest (s.reports symbol) f (tick.read f)

/-- The value of a field in a report that the store does not take for a missing one. -/
def Report.counts (f : Field) (r : Report) : Bool :=
  r.toTick.read f ≠ 0

/-- The reports of a field that count, in the order of arrival. -/
def counting (reports : List Report) (f : Field) : List Report :=
  reports.filter (Report.counts f)

/-- What the store has of a symbol: of each field the value that counted last, which is the
freshest one that counts when those arrived in the order of observation, and the time of the last
report. -/
structure Merged (reports : List Report) (tick : Tick) : Prop where
  last : ∀ f, tick.read f = ((counting reports f).getLast?.map (·.toTick.read f)).getD 0
  fresh : ∀ f, counting reports f ≠ [] →
    (counting reports f).Pairwise (fun r r' => r.observedAt ≤ r'.observedAt) →
    Freshest (counting reports f) f (tick.read f)
  updated : ∀ r ∈ reports.getLast?, tick.updatedAt = (r.toTick.stamped r.appliedAt).updatedAt

/-- After every run the store has an entry of each symbol that was reported, merged from its
reports, and of no other. -/
def StoreMerges : Prop :=
  ∀ exchange s, Run (Venue.step exchange) (fun _ _ => True) .initial s → ∀ symbol ≠ "",
    match s.ticks.lookup ⟨exchange, symbol⟩ with
    | none => s.reports symbol = []
    | some tick => s.reports symbol ≠ [] ∧ Merged (s.reports symbol) tick

/-! ## Merging -/

section

variable {reports : List Report} {r : Report} {f : Field} {tick : Tick}

theorem read_toTick (o : Observation) (f : Field) : o.toTick.read f = (o.read f).getD 0 := by
  cases f with
  | nextFunding =>
      change ((o.nextFunding.getD 0 : Nat) : ℚ) = (o.nextFunding.map fun t => (t : ℚ)).getD 0
      cases o.nextFunding with
      | none => rfl
      | some t => rfl
  | _ => rfl

theorem read_stamped (t : Tick) (now : Nat) (f : Field) : (t.stamped now).read f = t.read f := by
  unfold Tick.stamped
  split
  · cases f <;> rfl
  · rfl

theorem read_merge (cur t : Tick) (f : Field) :
    (cur.merge t).read f = if t.read f ≠ 0 then t.read f else cur.read f := by
  cases f with
  | nextFunding =>
      change (((if t.nextFunding ≠ 0 then t.nextFunding else cur.nextFunding) : Nat) : ℚ) =
        if (t.nextFunding : ℚ) ≠ 0 then (t.nextFunding : ℚ) else (cur.nextFunding : ℚ)
      by_cases zero : t.nextFunding = 0
      · simp [zero]
      · simp [zero]
  | _ => rfl

theorem counting_concat (reports : List Report) (r : Report) (f : Field) :
    counting (reports ++ [r]) f =
      if r.toTick.read f ≠ 0 then counting reports f ++ [r] else counting reports f := by
  unfold counting
  rw [List.filter_append, List.filter_singleton]
  unfold Report.counts
  split
  case isTrue nonzero => simp [nonzero]
  case isFalse zero => simp [zero]

/-- The value that counted last, when a report arrives. -/
theorem last_concat (reports : List Report) (r : Report) (f : Field) :
    ((counting (reports ++ [r]) f).getLast?.map (·.toTick.read f)).getD 0 =
      if r.toTick.read f ≠ 0 then r.toTick.read f
      else ((counting reports f).getLast?.map (·.toTick.read f)).getD 0 := by
  rw [counting_concat]
  split
  · rw [List.getLast?_concat]
    rfl
  · rfl

/-- A value that counts is one that the venue reported. -/
theorem read_of_counts (counts : r.counts f = true) : r.read f = some (r.toTick.read f) := by
  have nonzero : r.toTick.read f ≠ 0 := by simpa [Report.counts] using counts
  rw [read_toTick] at nonzero ⊢
  cases known : r.read f with
  | none =>
      rw [known] at nonzero
      exact absurd rfl nonzero
  | some v => rfl

/-- In order, the last is the freshest. -/
theorem freshest_of_last (last : tick.read f =
      ((counting reports f).getLast?.map (·.toTick.read f)).getD 0)
    (some_ : counting reports f ≠ [])
    (inOrder : (counting reports f).Pairwise fun r r' => r.observedAt ≤ r'.observedAt) :
    Freshest (counting reports f) f (tick.read f) := by
  rcases List.eq_nil_or_concat (counting reports f) with empty | ⟨before, r, whole⟩
  · exact absurd empty some_
  · rw [List.concat_eq_append] at whole
    rw [whole] at last inOrder ⊢
    rw [List.getLast?_concat] at last
    have counts : r.counts f = true := by
      have member : r ∈ counting reports f := whole ▸ List.mem_concat_self
      exact (List.mem_filter.mp member).2
    refine ⟨r, List.mem_concat_self, ?_, fun r' member _ => ?_⟩
    · rw [last]
      exact read_of_counts counts
    · rcases List.mem_append.mp member with earlier | own
      · exact (List.pairwise_append.mp inOrder).2.2 r' earlier r List.mem_cons_self
      · rw [List.mem_singleton.mp own]

/-- The entry of a first report. -/
theorem merged_first (r : Report) : Merged [r] (r.toTick.stamped r.appliedAt) := by
  have last : ∀ f, (r.toTick.stamped r.appliedAt).read f =
      ((counting [r] f).getLast?.map (·.toTick.read f)).getD 0 := by
    intro f
    have whole := last_concat [] r f
    rw [List.nil_append] at whole
    rw [whole, read_stamped]
    split
    · rfl
    case isFalse zero => exact not_not.mp zero
  refine ⟨last, fun f => freshest_of_last (last f), fun r' own => ?_⟩
  cases own
  rfl

/-- A report is merged into the entry. -/
theorem Merged.concat (merged : Merged reports tick) (r : Report) :
    Merged (reports ++ [r]) (tick.merge (r.toTick.stamped r.appliedAt)) := by
  have last : ∀ f, (tick.merge (r.toTick.stamped r.appliedAt)).read f =
      ((counting (reports ++ [r]) f).getLast?.map (·.toTick.read f)).getD 0 := by
    intro f
    rw [last_concat, read_merge, read_stamped, merged.last f]
  refine ⟨last, fun f => freshest_of_last (last f), fun r' own => ?_⟩
  rw [List.getLast?_concat] at own
  cases own
  rfl

end

/-! ## Runs -/

namespace Venue

/-- What the entries of the venue have of the applied reports. -/
def Explained (exchange : String) (s : Venue) : Prop :=
  ∀ symbol ≠ "",
    match s.ticks.lookup ⟨exchange, symbol⟩ with
    | none => s.reports symbol = []
    | some tick => s.reports symbol ≠ [] ∧ Merged (s.reports symbol) tick

variable {exchange : String} {s : Venue}

theorem reports_applyReport (r : Report) (symbol : String) :
    (s.applyReport exchange r).reports symbol =
      s.reports symbol ++ if r.symbol = symbol then [{ r with appliedAt := s.now }] else [] := by
  unfold reports applyReport
  rw [List.filter_append]
  by_cases same : r.symbol = symbol
  · simp [same]
  · simp [same]

theorem Explained.applyReport (explained : s.Explained exchange) (r : Report) :
    (s.applyReport exchange r).Explained exchange := by
  intro symbol named
  have before := explained symbol named
  rw [reports_applyReport]
  by_cases same : r.symbol = symbol
  · subst same
    rw [if_pos rfl]
    have kept : (r.toTick.stamped s.now).symbol = r.symbol := by
      unfold Tick.stamped
      split <;> rfl
    have written : (s.applyReport exchange r).ticks =
        match s.ticks.lookup ⟨exchange, r.symbol⟩ with
        | none => s.ticks.insert ⟨exchange, r.symbol⟩ (r.toTick.stamped s.now)
        | some cur => s.ticks.insert ⟨exchange, r.symbol⟩ (cur.merge (r.toTick.stamped s.now)) := by
      change apply s.ticks exchange r.toTick s.now = _
      have named' : r.toTick.symbol ≠ "" := named
      unfold apply
      rw [if_neg named']
      dsimp only
      rw [kept]
    rw [written]
    cases found : s.ticks.lookup ⟨exchange, r.symbol⟩ with
    | none =>
        rw [found] at before
        dsimp only
        rw [AList.lookup_insert, before, List.nil_append]
        exact ⟨List.cons_ne_nil _ _, merged_first { r with appliedAt := s.now }⟩
    | some cur =>
        rw [found] at before
        dsimp only
        rw [AList.lookup_insert]
        exact ⟨List.append_ne_nil_of_right_ne_nil _ (List.cons_ne_nil _ _),
          before.2.concat { r with appliedAt := s.now }⟩
  · rw [if_neg same, List.append_nil]
    have other : (s.applyReport exchange r).ticks.lookup ⟨exchange, symbol⟩ =
        s.ticks.lookup ⟨exchange, symbol⟩ := by
      change (apply s.ticks exchange r.toTick s.now).lookup _ = _
      have unlike : ∀ t : Tick, t.symbol = r.symbol → (⟨exchange, symbol⟩ : Pair) ≠ ⟨exchange, t.symbol⟩ :=
        fun t keyed pair => same ((Pair.mk.inj pair).2.trans keyed).symm
      unfold apply
      split
      · rfl
      · have kept : (r.toTick.stamped s.now).symbol = r.symbol := by
          unfold Tick.stamped
          split <;> rfl
        dsimp only
        split
        · exact AList.lookup_insert_ne (unlike _ kept)
        · exact AList.lookup_insert_ne (unlike _ kept)
    rw [other]
    exact before

theorem preserves_explained :
    Preserves (step exchange) (fun _ _ => True) (Explained exchange) := by
  intro s act s' explained _ stepped
  cases act with
  | wait d =>
      cases stepped
      exact explained
  | push o =>
      cases stepped
      exact explained
  | drop =>
      cases stepped
      exact explained
  | fetch rows =>
      dsimp only [step] at stepped
      split at stepped
      · cases stepped
        exact explained
      · cases stepped
  | applyWs =>
      dsimp only [step] at stepped
      split at stepped
      · cases stepped
      case h_2 r conn _ =>
        cases stepped
        have pending : Explained exchange { s with conn } := explained
        exact pending.applyReport r
  | applyRow =>
      dsimp only [step] at stepped
      split at stepped
      · cases stepped
      case h_2 r sweep _ =>
        cases stepped
        have pending : Explained exchange { s with sweep } := explained
        exact pending.applyReport r

end Venue

/-- Each field of an entry has the value that counted last. -/
theorem storeMerges : StoreMerges := by
  intro exchange s run
  refine run.invariant Venue.preserves_explained fun symbol _ => ?_
  rfl

/-! ## Values that are not the freshest -/

instance (reports : List Report) (f : Field) (v : ℚ) : Decidable (Freshest reports f v) :=
  inferInstanceAs (Decidable (∃ r ∈ reports, r.read f = some v ∧
    ∀ r' ∈ reports, (r'.read f).isSome → r'.observedAt ≤ r.observedAt))

def btcRate (rate : ℚ) : Observation := { symbol := "BTC", rate := some rate }

/-- The rate goes to zero. -/
def zeroRun : List FundingAct :=
  [.push (btcRate 1), .applyWs, .wait 1, .push (btcRate 0), .applyWs]

/-- A sweep is made before a tick, and applied after it. -/
def sweepRun : List FundingAct :=
  [.fetch [btcRate 1], .wait 1, .push (btcRate 2), .applyWs, .applyRow]

/-- Everything is applied, and the stored rate is not a freshest one. -/
def Venue.Stale (s : Venue) : Bool :=
  s.conn = [] ∧ s.sweep = [] ∧ (∃ r ∈ s.reports "BTC", (r.read .rate).isSome) ∧
    (s.ticks.lookup ⟨"bybit", "BTC"⟩).all fun tick =>
      ¬Freshest (s.reports "BTC") .rate (tick.read .rate)

theorem not_storeFreshest (acts : List FundingAct)
    (stale : (exec (Venue.step "bybit") .initial acts).map Venue.Stale = some true) :
    ¬StoreFreshest := by
  intro freshest
  obtain ⟨s, executed, found⟩ := Option.map_eq_some_iff.mp stale
  obtain ⟨conn, sweep, reported, unlike⟩ := of_decide_eq_true found
  obtain ⟨tick, stored, kept⟩ :=
    freshest "bybit" s (Run.of_exec executed) ⟨conn, sweep⟩ "BTC" (by decide) .rate reported
  rw [stored] at unlike
  exact of_decide_eq_true unlike kept

theorem storeFreshest_broken :
    (¬StoreFreshest) ∧
      (exec (Venue.step "bybit") .initial zeroRun).map Venue.Stale = some true ∧
      (exec (Venue.step "bybit") .initial sweepRun).map Venue.Stale = some true := by
  have zero : (exec (Venue.step "bybit") .initial zeroRun).map Venue.Stale = some true := by
    decide +kernel
  have sweep : (exec (Venue.step "bybit") .initial sweepRun).map Venue.Stale = some true := by
    decide +kernel
  exact ⟨not_storeFreshest zeroRun zero, zero, sweep⟩

end Funding

end Avalant
