import Avalant.Ws.Replication

/-!
The table of the long-short channel at its clients.

The handler queues the snapshot after the channel has let go of its lock, and
the first snapshot is taken from the file without becoming the base of the next
diff. A tick that commits meanwhile leaves a client behind.
-/

namespace Avalant

open Replica Transition

/-- In every run of the channel, after a broadcast every client that has its reply holds the table
of the server. -/
def LongShortReplicated {V : Type} [DecidableEq V] (values : Values V)
    (ok : Channel V → ChannelAct V → Prop) : Prop :=
  ∀ s, Run (Channel.step (longShort values)) ok (longShort values).initial s →
    s.Replicated (longShort values)

/-- In every run in which the ticks that broadcast are settled, the clients hold the table of the
server after every broadcast. -/
theorem longShortReplicated_of_settled {V : Type} [DecidableEq V] (values : Values V) :
    LongShortReplicated values (Channel.SendsSettled (longShort values)) := by
  intro s run
  have synced := run.invariant Channel.synced_preserved (Channel.synced_initial _)
  exact synced.replicated

/-! ## Runs that go wrong -/

/-- Values that are all strings. -/
def plainValues : Values String where
  asString v := some v
  isMap _ := false
  isSlice _ := false
  template v := v
  template_eq _ _ same := Option.some.inj same

/-- A row of two venues. -/
def arbRow (symbol : String) : Row String := fun field =>
  if field = "symbol" then some symbol
  else if field = "long_exchange" then some "binance"
  else if field = "short_exchange" then some "bybit"
  else none

def arbFile (mtime : Int) (symbols : List String) : SourceFile String :=
  { mtime, doc := some { rows := symbols.map arbRow } }

/-- The keys that a live client has and a table has not, or the other way round. -/
def Channel.strays {V : Type} (feed : Feed V) (s : Channel V) (t : Store String (Row V)) :
    List String :=
  (s.clients.filter Client.isLive).flatMap fun c =>
    ((c.table feed).keys.filter fun k => k ∉ t) ++ (t.keys.filter fun k => k ∉ c.table feed)

theorem Channel.strays_eq_nil {V : Type} {feed : Feed V} {s : Channel V}
    {t : Store String (Row V)}
    (agrees : ∀ c ∈ s.clients, c.isLive = true → Agree feed.differs (c.table feed) t) :
    s.strays feed t = [] := by
  unfold Channel.strays
  rw [List.flatMap_eq_nil_iff]
  intro c member
  obtain ⟨known, live⟩ := List.mem_filter.mp member
  have same := (agrees c known live).mem_iff
  rw [List.append_eq_nil_iff, List.filter_eq_nil_iff, List.filter_eq_nil_iff]
  constructor
  · intro k held
    simpa using (same k).mp (AList.mem_keys.mpr held)
  · intro k held
    simpa using (same k).mpr (AList.mem_keys.mpr held)

/-- A client before the first tick, and a table that has lost a row by then. -/
def coldStart : List (ChannelAct String) :=
  [.write (some (arbFile 1 ["BTC", "ETH"])), .register, .snapshot 0 none, .reply 0,
    .write (some (arbFile 2 ["BTC"])), .tick 1 none, .commit 1]

/-- A tick between the snapshot of a second client and its reply. -/
def lateReply : List (ChannelAct String) :=
  [.write (some (arbFile 1 ["BTC"])), .register, .snapshot 0 none, .reply 0,
    .write (some (arbFile 2 ["BTC", "ETH"])), .tick 1 none, .commit 1, .register, .snapshot 1 none,
    .write (some (arbFile 3 ["BTC", "ETH", "SOL"])), .tick 2 none, .commit 2, .reply 1]

/-- The same second client, with its reply before the tick. -/
def promptReply : List (ChannelAct String) :=
  [.write (some (arbFile 1 ["BTC"])), .register, .snapshot 0 none, .reply 0,
    .write (some (arbFile 2 ["BTC", "ETH"])), .tick 1 none, .commit 1, .register, .snapshot 1 none,
    .reply 1, .write (some (arbFile 3 ["BTC", "SOL"])), .tick 2 none, .commit 2]

/-- When the reply is prompt, both clients end with the table, within the condition. -/
example : ((execGuarded (Channel.step (longShort plainValues))
      (Channel.SendsSettled (longShort plainValues)) (longShort plainValues).initial
      promptReply).map fun s =>
    (s.clients.map fun c => (c.table (longShort plainValues)).keys, s.lastByKey.keys)) =
    some ([["SOL|binance|bybit", "BTC|binance|bybit"], ["SOL|binance|bybit", "BTC|binance|bybit"]],
      ["SOL|binance|bybit", "BTC|binance|bybit"]) := by
  decide +kernel

/-- A cold start leaves a client with a row that is gone, and a late reply one without a new row. -/
theorem longShortReplicated_broken :
    ¬LongShortReplicated plainValues (fun _ _ => True) ∧
      (exec (Channel.step (longShort plainValues)) (longShort plainValues).initial coldStart).map
        (fun s => (s.lastBroadcastAt, s.strays (longShort plainValues) s.lastByKey)) =
          some (some 1, ["ETH|binance|bybit"]) ∧
      (exec (Channel.step (longShort plainValues)) (longShort plainValues).initial lateReply).map
        (fun s => (s.lastBroadcastAt, s.strays (longShort plainValues) s.lastByKey)) =
          some (some 2, ["SOL|binance|bybit"]) := by
  have cold : (exec (Channel.step (longShort plainValues)) (longShort plainValues).initial
      coldStart).map (fun s => (s.lastBroadcastAt, s.strays (longShort plainValues) s.lastByKey)) =
        some (some 1, ["ETH|binance|bybit"]) := by
    decide +kernel
  have late : (exec (Channel.step (longShort plainValues)) (longShort plainValues).initial
      lateReply).map (fun s => (s.lastBroadcastAt, s.strays (longShort plainValues) s.lastByKey)) =
        some (some 2, ["SOL|binance|bybit"]) := by
    decide +kernel
  refine ⟨fun replicated => ?_, cold, late⟩
  obtain ⟨s, ran, view⟩ := Option.map_eq_some_iff.mp cold
  obtain ⟨sent, stray⟩ := Prod.mk.inj view
  have agrees := replicated s (Run.of_exec ran) (by rw [sent]; rfl)
  rw [Channel.strays_eq_nil agrees] at stray
  cases stray

end Avalant
