import Avalant.Lib.Python
import Avalant.Lib.Run
import Avalant.Lib.Table
import Avalant.Spread.Candles

/-!
The consumers of the spread stream.

Redis gives each entry once to the group. A consumer buffers the entries of a read, commits the
buffer in one transaction, and then acknowledges it; what it has not committed when it ends stays
unacknowledged, and no read asks for such entries.
-/

namespace Avalant

namespace Spread

open Relational Transition

/-! ## Entries -/

/-- A value that `json.loads` returns. -/
inductive Json
  | null
  | bool (b : Bool)
  | int (i : ℤ)
  | float (x : ℚ)
  | str (s : String)
  | list (items : List Json)
  | dict (fields : List (String × Json))

/-- `int(s)` and `float(s)` of a string, none when they raise, and `str(v)` of a value. -/
structure Conversions where
  int : String → Option ℤ
  float : String → Option ℚ
  str : Json → String

namespace Json

def truthy : Json → Bool
  | null => false
  | bool b => b
  | int i => i ≠ 0
  | float x => x ≠ 0
  | str s => s ≠ ""
  | list items => !items.isEmpty
  | dict fields => !fields.isEmpty

/-- `obj.get(name) or default`. -/
def getOr (fields : List (String × Json)) (name : String) (default_ : Json) : Json :=
  match fields.lookup name with
  | none => default_
  | some v => if v.truthy then v else default_

variable (c : Conversions)

/-- `int(v)`; none when it raises. -/
def toInt : Json → Option ℤ
  | int i => some i
  | float x => some (Python.trunc x)
  | bool b => some (if b then 1 else 0)
  | str s => c.int s
  | null | list _ | dict _ => none

/-- `float(v)`; none when it raises. -/
def toFloat : Json → Option ℚ
  | int i => some i
  | float x => some x
  | bool b => some (if b then 1 else 0)
  | str s => c.float s
  | null | list _ | dict _ => none

end Json

/-- A buffered entry. -/
structure IngestRow where
  el : String
  es : String
  sym : String
  ts : ℤ
  candle : Candle
  deriving DecidableEq

/-- The field `d` of an entry: missing or empty, not JSON, or JSON. -/
inductive Payload
  | missing
  | broken
  | json (value : Json)

/-- What the loop body does with an entry. -/
inductive Outcome
  /-- Acknowledged, and not buffered. -/
  | skipped
  | raised
  | buffered (row : IngestRow)

namespace Payload

variable (c : Conversions)

def ohlc (fields : List (String × Json)) (o h l cl : String) : Option Ohlc := do
  let open_ ← (Json.getOr fields o (.int 0)).toFloat c
  let high ← (Json.getOr fields h (.int 0)).toFloat c
  let low ← (Json.getOr fields l (.int 0)).toFloat c
  let close ← (Json.getOr fields cl (.int 0)).toFloat c
  return ⟨open_, high, low, close⟩

/-- The dictionary that is appended to the buffer, in the order of its evaluation. -/
def row (fields : List (String × Json)) : Option IngestRow := do
  let el := Python.take 16 (c.str (Json.getOr fields "el" (.str "")))
  let es := Python.take 16 (c.str (Json.getOr fields "es" (.str "")))
  let sym := Python.take 32 (c.str (Json.getOr fields "sym" (.str "")))
  let ts ← (Json.getOr fields "ts" (.int 0)).toInt c
  let in_ ← ohlc c fields "io" "ih" "il" "ic"
  let out ← ohlc c fields "oo" "oh" "ol" "oc"
  let samples ← (Json.getOr fields "n" (.int 1)).toInt c
  return ⟨el, es, sym, ts, ⟨in_, out, samples⟩⟩

def outcome : Payload → Outcome
  | missing | broken => .skipped
  | json (.dict fields) =>
      match row c fields with
      | none => .raised
      | some row => .buffered row
  | json _ => .raised

/-- The entry has a row. -/
def wellFormed (p : Payload) : Bool :=
  match p.outcome c with
  | .buffered _ => true
  | .skipped | .raised => false

def raises (p : Payload) : Bool :=
  match p.outcome c with
  | .raised => true
  | .skipped | .buffered _ => false

end Payload

/-! ## Consumers -/

structure Consumer where
  id : Nat
  /-- The entries that a read returns. -/
  reply : List Nat
  buffer : List Nat
  pendingAck : List Nat
  /-- The buffer has been committed, and is being acknowledged. -/
  acking : Bool
  deriving DecidableEq

instance : Keyed Consumer := ⟨Consumer.id⟩

@[simp] theorem key_consumer (consumer : Consumer) : key consumer = consumer.id := rfl

/-- The stream with its group; entries are numbered in their order. -/
structure Ingestion where
  added : Nat
  /-- The entries before it have been delivered to the group. -/
  delivered : Nat
  consumers : Table Consumer
  /-- The entries whose rows have been committed. -/
  committed : List Nat
  acked : List Nat

inductive IngestionAct
  | xadd
  | start (k : Nat)
  /-- `XREADGROUP` with `>` takes entries that the group has not been given. -/
  | read (k n : Nat)
  | receive (k : Nat)
  /-- The reply is lost. -/
  | readFails (k : Nat)
  | flush (k : Nat) (commits : Bool)
  | ack (k : Nat) (answered : Bool)
  /-- The process ends, with what it has buffered. -/
  | crash (k : Nat)

def IngestionAct.IsCrash : IngestionAct → Bool
  | .crash _ => true
  | _ => false

def batchSize : Nat := 500

section

variable (c : Conversions) (stream : Nat → Payload)

/-- The loop over the entries of a reply, which the first exception leaves. -/
def Consumer.take (consumer : Consumer) : List Nat → Consumer
  | [] => consumer
  | i :: entries =>
      match (stream i).outcome c with
      | .skipped =>
          Consumer.take { consumer with pendingAck := consumer.pendingAck ++ [i] } entries
      | .raised => consumer
      | .buffered _ =>
          Consumer.take { consumer with
            buffer := consumer.buffer ++ [i]
            pendingAck := consumer.pendingAck ++ [i] } entries

end

namespace Ingestion

def initial : Ingestion := ⟨0, 0, Table.empty, [], []⟩

variable (c : Conversions) (stream : Nat → Payload)

def step (s : Ingestion) : IngestionAct → Option Ingestion
  | .xadd => some { s with added := s.added + 1 }
  | .start k =>
      match s.consumers.get? k with
      | none => some { s with consumers := s.consumers.put ⟨k, [], [], [], false⟩ }
      | some _ => none
  | .read k n =>
      (s.consumers.get? k).bind fun consumer =>
        if consumer.reply = [] ∧ ¬consumer.acking ∧ n ≤ batchSize ∧ s.delivered + n ≤ s.added then
          some { s with
            delivered := s.delivered + n
            consumers := s.consumers.put { consumer with reply := List.range' s.delivered n } }
        else none
  | .receive k =>
      (s.consumers.get? k).map fun consumer =>
        let received := Consumer.take c stream { consumer with reply := [] } consumer.reply
        { s with consumers := s.consumers.put received }
  | .readFails k =>
      (s.consumers.get? k).map fun consumer =>
        { s with consumers := s.consumers.put { consumer with reply := [] } }
  | .flush k commits =>
      (s.consumers.get? k).bind fun consumer =>
        if consumer.reply = [] ∧ ¬consumer.acking ∧ consumer.buffer ≠ [] then
          if commits then
            some { s with
              committed := s.committed ++ consumer.buffer
              consumers := s.consumers.put { consumer with acking := true } }
          else some s
        else none
  | .ack k answered =>
      (s.consumers.get? k).bind fun consumer =>
        if consumer.acking then
          if answered then
            some { s with
              acked := s.acked ++ consumer.pendingAck
              consumers := s.consumers.put
                { consumer with buffer := [], pendingAck := [], acking := false } }
          else some { s with consumers := s.consumers.put { consumer with acking := false } }
        else none
  | .crash k => some { s with consumers := s.consumers.erase k }

/-! ## Kept entries -/

/-- Each well-formed entry that has been delivered is committed, or in the buffer of a live
consumer, or in the reply of its read. -/
def KeepsEntries (s : Ingestion) : Prop :=
  ∀ i < s.delivered, (stream i).wellFormed c →
    i ∈ s.committed ∨ ∃ consumer ∈ s.consumers.rows, i ∈ consumer.buffer ∨ i ∈ consumer.reply

/-- In every state of the runs under a condition. -/
def AlwaysKeepsEntries (ok : Ingestion → IngestionAct → Prop) : Prop :=
  ∀ s, Run (step c stream) ok .initial s → s.KeepsEntries c stream

/-- The well-formed entries of a list have been committed. -/
def Committed (s : Ingestion) (entries : List Nat) : Prop :=
  ∀ i ∈ entries, (stream i).wellFormed c → i ∈ s.committed

/-- A process ends, or loses a reply, only with entries that have been committed, and no
well-formed entry of a reply comes after one that raises. -/
def Covered (s : Ingestion) : IngestionAct → Prop
  | .receive k => ∀ consumer ∈ s.consumers.get? k,
      consumer.reply.Pairwise fun i j => (stream i).raises c → ¬(stream j).wellFormed c
  | .readFails k => ∀ consumer ∈ s.consumers.get? k, s.Committed c stream consumer.reply
  | .crash k => ∀ consumer ∈ s.consumers.get? k,
      s.Committed c stream (consumer.buffer ++ consumer.reply)
  | _ => True

end Ingestion

/-! ## A reply -/

section

variable {c : Conversions} {stream : Nat → Payload}

theorem Consumer.take_frame (consumer : Consumer) (entries : List Nat) :
    (consumer.take c stream entries).id = consumer.id ∧
      (consumer.take c stream entries).reply = consumer.reply ∧
      (consumer.take c stream entries).acking = consumer.acking ∧
      ∀ i ∈ consumer.buffer, i ∈ (consumer.take c stream entries).buffer := by
  induction entries generalizing consumer with
  | nil => exact ⟨rfl, rfl, rfl, fun _ member => member⟩
  | cons i entries ih =>
      unfold Consumer.take
      split
      · exact ih _
      · exact ⟨rfl, rfl, rfl, fun _ member => member⟩
      · obtain ⟨id, reply, acking, held⟩ := ih { consumer with
          buffer := consumer.buffer ++ [i]
          pendingAck := consumer.pendingAck ++ [i] }
        exact ⟨id, reply, acking, fun j member => held j (List.mem_append_left _ member)⟩

/-- What no exception hides is buffered. -/
theorem Consumer.mem_take {entries : List Nat} {i : Nat} (consumer : Consumer)
    (spared : entries.Pairwise fun i j => (stream i).raises c → ¬(stream j).wellFormed c)
    (member : i ∈ entries) (wellFormed : (stream i).wellFormed c) :
    i ∈ (consumer.take c stream entries).buffer := by
  induction entries generalizing consumer with
  | nil => cases member
  | cons j entries ih =>
      obtain ⟨first, rest⟩ := List.pairwise_cons.mp spared
      unfold Consumer.take
      rcases List.mem_cons.mp member with same | later
      · subst same
        unfold Payload.wellFormed at wellFormed
        split at wellFormed
        case h_1 row found =>
          rw [found]
          exact (Consumer.take_frame _ entries).2.2.2 i (List.mem_append_right _ List.mem_cons_self)
        case h_2 => cases wellFormed
        case h_3 => cases wellFormed
      · split
        · exact ih _ rest later
        case h_2 raised =>
          have raises : (stream j).raises c := by
            unfold Payload.raises
            rw [raised]
          exact absurd wellFormed (first i later raises)
        · exact ih _ rest later

end

/-! ## Runs -/

namespace Ingestion

variable {c : Conversions} {stream : Nat → Payload} {s : Ingestion} {k : Nat}
  {consumer : Consumer}

/-- What is acknowledged has been committed. -/
def AcksCommitted (s : Ingestion) : Prop :=
  ∀ consumer ∈ s.consumers.rows, consumer.acking = true →
    consumer.reply = [] ∧ ∀ i ∈ consumer.buffer, i ∈ s.committed

structure Inv (c : Conversions) (stream : Nat → Payload) (s : Ingestion) : Prop where
  keeps : s.KeepsEntries c stream
  acks : s.AcksCommitted

/-- A consumer goes on with all that it held, or it has been committed. -/
theorem Inv.put (inv : s.Inv c stream) (found : s.consumers.get? k = some consumer)
    (consumer' : Consumer) (id : consumer'.id = k) {committed acked : List Nat}
    (grows : ∀ i ∈ s.committed, i ∈ committed)
    (holds : ∀ i, i ∈ consumer.buffer ∨ i ∈ consumer.reply → (stream i).wellFormed c →
      i ∈ committed ∨ i ∈ consumer'.buffer ∨ i ∈ consumer'.reply)
    (acking : consumer'.acking = true →
      consumer'.reply = [] ∧ ∀ i ∈ consumer'.buffer, i ∈ committed) :
    Inv c stream ⟨s.added, s.delivered, s.consumers.put consumer', committed, acked⟩ := by
  have numbered : consumer.id = k := Table.key_of_get? found
  refine ⟨fun i old wellFormed => ?_, fun other member isAcking => ?_⟩
  · rcases inv.keeps i old wellFormed with done | ⟨holder, member, held⟩
    · exact Or.inl (grows i done)
    · by_cases same : holder.id = k
      · have own : holder = consumer := by
          have stored : s.consumers.get? holder.id = some holder := Table.mem_rows_iff.mp member
          rw [same, found] at stored
          exact (Option.some_inj.mp stored).symm
        subst own
        rcases holds i held wellFormed with done | still
        · exact Or.inl done
        · exact Or.inr ⟨consumer', Table.mem_rows_put.mpr (Or.inl rfl), still⟩
      · have kept : holder ∈ (s.consumers.put consumer').rows :=
          Table.mem_rows_put.mpr (Or.inr ⟨member, fun equal => same (equal.trans id)⟩)
        exact Or.inr ⟨holder, kept, held⟩
  · rcases Table.mem_rows_put.mp member with own | ⟨old, -⟩
    · subst own
      exact acking isAcking
    · obtain ⟨idle, all⟩ := inv.acks other old isAcking
      exact ⟨idle, fun i held => grows i (all i held)⟩

/-- What a consumer may hold when it goes. -/
theorem Inv.crash (inv : s.Inv c stream)
    (covered : ∀ consumer ∈ s.consumers.get? k,
      s.Committed c stream (consumer.buffer ++ consumer.reply)) :
    Inv c stream { s with consumers := s.consumers.erase k } := by
  refine ⟨fun i old wellFormed => ?_, fun consumer member isAcking => ?_⟩
  · rcases inv.keeps i old wellFormed with done | ⟨holder, member, held⟩
    · exact Or.inl done
    · by_cases same : holder.id = k
      · have stored : s.consumers.get? k = some holder := same ▸ Table.mem_rows_iff.mp member
        exact Or.inl (covered holder stored i (List.mem_append.mpr held) wellFormed)
      · exact Or.inr ⟨holder, Table.mem_rows_erase.mpr ⟨member, same⟩, held⟩
  · exact inv.acks consumer (Table.mem_rows_erase.mp member).1 isAcking

theorem Inv.read {n : Nat} (inv : s.Inv c stream) (found : s.consumers.get? k = some consumer)
    (idle : consumer.reply = []) (free : ¬consumer.acking = true) :
    Inv c stream { s with
      delivered := s.delivered + n
      consumers := s.consumers.put { consumer with reply := List.range' s.delivered n } } := by
  have numbered : consumer.id = k := Table.key_of_get? found
  have before : Inv c stream ⟨s.added, s.delivered,
      s.consumers.put { consumer with reply := List.range' s.delivered n }, s.committed, s.acked⟩ := by
    refine inv.put found { consumer with reply := List.range' s.delivered n } numbered (fun _ done => done) (fun i held _ => ?_)
      fun isAcking => absurd isAcking free
    rw [idle] at held
    exact Or.inr (Or.inl (held.resolve_right List.not_mem_nil))
  refine ⟨fun i new wellFormed => ?_, before.acks⟩
  by_cases old : i < s.delivered
  · exact before.keeps i old wellFormed
  · have within : i < s.delivered + n := new
    have given : i ∈ List.range' s.delivered n :=
      List.mem_range'_1.mpr ⟨Nat.not_lt.mp old, within⟩
    exact Or.inr ⟨_, Table.mem_rows_put.mpr (Or.inl rfl), Or.inr given⟩

theorem Inv.receive (inv : s.Inv c stream) (found : s.consumers.get? k = some consumer)
    (spared : consumer.reply.Pairwise fun i j => (stream i).raises c → ¬(stream j).wellFormed c) :
    let received := Consumer.take c stream { consumer with reply := [] } consumer.reply
    Inv c stream { s with consumers := s.consumers.put received } := by
  intro received
  obtain ⟨id, reply, acking, held⟩ : received.id = consumer.id ∧ received.reply = [] ∧
      received.acking = consumer.acking ∧ ∀ i ∈ consumer.buffer, i ∈ received.buffer :=
    Consumer.take_frame { consumer with reply := [] } consumer.reply
  refine inv.put found received (id.trans (Table.key_of_get? found)) (fun _ done => done)
    (fun i either wellFormed => ?_) fun isAcking => ?_
  · rcases either with buffered | given
    · exact Or.inr (Or.inl (held i buffered))
    · exact Or.inr (Or.inl (Consumer.mem_take _ spared given wellFormed))
  · obtain ⟨idle, all⟩ := inv.acks consumer (Table.mem_of_get? found) (acking.symm.trans isAcking)
    refine ⟨reply, fun i member => all i ?_⟩
    have same : received.buffer = consumer.buffer := by
      change (Consumer.take c stream { consumer with reply := [] } consumer.reply).buffer = _
      rw [idle]
      rfl
    exact same ▸ member

theorem preserves_inv : Preserves (step c stream) (Covered c stream) (Inv c stream) := by
  intro s act s' inv covered stepped
  cases act with
  | xadd =>
      cases stepped
      exact ⟨inv.keeps, inv.acks⟩
  | start k =>
      dsimp only [step] at stepped
      split at stepped
      case h_1 free =>
        cases stepped
        refine ⟨fun i old wellFormed => ?_, fun consumer member isAcking => ?_⟩
        · rcases inv.keeps i old wellFormed with done | ⟨holder, member, held⟩
          · exact Or.inl done
          · have other : holder.id ≠ k := by
              intro same
              have stored := Table.mem_rows_iff.mp member
              rw [key_consumer, same, free] at stored
              cases stored
            exact Or.inr ⟨holder, Table.mem_rows_put.mpr (Or.inr ⟨member, other⟩), held⟩
        · rcases Table.mem_rows_put.mp member with own | ⟨old, -⟩
          · subst own
            cases isAcking
          · exact inv.acks consumer old isAcking
      case h_2 => cases stepped
  | read k n =>
      obtain ⟨consumer, found, rest⟩ := Option.bind_eq_some_iff.mp stepped
      split at rest
      case isTrue free =>
        cases rest
        exact inv.read found free.1 free.2.1
      case isFalse => cases rest
  | receive k =>
      obtain ⟨consumer, found, rfl⟩ := Option.map_eq_some_iff.mp stepped
      exact inv.receive found (covered consumer found)
  | readFails k =>
      obtain ⟨consumer, found, rfl⟩ := Option.map_eq_some_iff.mp stepped
      refine inv.put found { consumer with reply := [] } (Table.key_of_get? found)
        (fun _ done => done) (fun i either wellFormed => ?_) fun isAcking => ?_
      · rcases either with buffered | given
        · exact Or.inr (Or.inl buffered)
        · exact Or.inl (covered consumer found i given wellFormed)
      · exact ⟨rfl, (inv.acks consumer (Table.mem_of_get? found) isAcking).2⟩
  | flush k commits =>
      obtain ⟨consumer, found, rest⟩ := Option.bind_eq_some_iff.mp stepped
      split at rest
      case isTrue free =>
        split at rest
        case isTrue =>
          cases rest
          refine inv.put found { consumer with acking := true } (Table.key_of_get? found)
            (fun i done => List.mem_append_left _ done) (fun i either _ => Or.inr either) fun _ => ⟨free.1, fun i held => ?_⟩
          exact List.mem_append_right _ held
        case isFalse =>
          cases rest
          exact inv
      case isFalse => cases rest
  | ack k answered =>
      obtain ⟨consumer, found, rest⟩ := Option.bind_eq_some_iff.mp stepped
      split at rest
      case isTrue isAcking =>
        obtain ⟨idle, all⟩ := inv.acks consumer (Table.mem_of_get? found) isAcking
        split at rest
        case isTrue =>
          cases rest
          refine inv.put found { consumer with buffer := [], pendingAck := [], acking := false }
            (Table.key_of_get? found) (fun _ done => done) (fun i either _ => ?_)
            fun acking => by cases acking
          rw [idle] at either
          exact Or.inl (all i (either.resolve_right List.not_mem_nil))
        case isFalse =>
          cases rest
          exact inv.put found { consumer with acking := false } (Table.key_of_get? found)
            (fun _ done => done) (fun i either _ => Or.inr either) fun acking => by cases acking
      case isFalse => cases rest
  | crash k =>
      cases stepped
      exact inv.crash covered

/-- No entry is lost while processes end with nothing uncommitted and no exception hides an
entry. -/
theorem alwaysKeepsEntries_covered (c : Conversions) (stream : Nat → Payload) :
    AlwaysKeepsEntries c stream (Covered c stream) := by
  intro s run
  refine (run.invariant preserves_inv ⟨?_, ?_⟩).keeps
  · intro i old
    exact absurd old (Nat.not_lt_zero i)
  · intro consumer member
    cases member

/-! ## Entries that are lost -/

/-- Strings that are integers, and values that are strings. -/
def plainConversions : Conversions where
  int := String.toInt?
  float := fun s => s.toInt?.map fun i => (i : ℚ)
  str
    | .str s => s
    | _ => ""

def bucketEntry : Payload :=
  .json (.dict [("el", .str "binance"), ("es", .str "bybit"), ("sym", .str "BTC"),
    ("ts", .int 1700000000), ("io", .float 1), ("n", .int 20)])

/-- A JSON list and a candle. -/
def listThenBucket (i : Nat) : Payload :=
  if i = 0 then .json (.list []) else bucketEntry

/-- A process ends before its flush, and another one starts. -/
def restartRun : List IngestionAct :=
  [.xadd, .start 1, .read 1 1, .receive 1, .crash 1, .start 2]

/-- One read of two entries, and a flush. -/
def mixedRun : List IngestionAct := [.xadd, .xadd, .start 1, .read 1 2, .receive 1]

/-- An entry that is well-formed and delivered, and nowhere any more. -/
def Lost (stream : Nat → Payload) (s : Ingestion) (i : Nat) : Bool :=
  i < s.delivered ∧ (stream i).wellFormed plainConversions ∧ i ∉ s.committed ∧
    ∀ consumer ∈ s.consumers.rows, i ∉ consumer.buffer ∧ i ∉ consumer.reply

theorem not_keepsEntries {stream : Nat → Payload} {ok : Ingestion → IngestionAct → Prop}
    {acts : List IngestionAct} {i : Nat} (admitted : ∀ a ∈ acts, ∀ s, ok s a)
    (lost : ((exec (step plainConversions stream) .initial acts).map fun s => Lost stream s i) =
      some true) : ¬AlwaysKeepsEntries plainConversions stream ok := by
  intro always
  obtain ⟨s, executed, found⟩ := Option.map_eq_some_iff.mp lost
  obtain ⟨delivered, wellFormed, uncommitted, gone⟩ := of_decide_eq_true found
  have run : Run (step plainConversions stream) ok .initial s :=
    Run.of_exec_of_forall admitted executed
  rcases always s run i delivered wellFormed with done | ⟨consumer, member, held⟩
  · exact uncommitted done
  · exact held.elim (gone consumer member).1 (gone consumer member).2

theorem alwaysKeepsEntries_broken :
    (¬AlwaysKeepsEntries plainConversions (fun _ => bucketEntry) fun _ _ => True) ∧
      ¬AlwaysKeepsEntries plainConversions listThenBucket fun _ act => act.IsCrash = false := by
  have restart : ((exec (step plainConversions fun _ => bucketEntry) .initial restartRun).map
      fun s => Lost (fun _ => bucketEntry) s 0) = some true := by decide +kernel
  have mixed : ((exec (step plainConversions listThenBucket) .initial mixedRun).map
      fun s => Lost listThenBucket s 1) = some true := by decide +kernel
  exact ⟨not_keepsEntries (fun _ _ _ => trivial) restart,
    not_keepsEntries (fun a member _ => by revert a; decide) mixed⟩

end Ingestion

end Spread

end Avalant
