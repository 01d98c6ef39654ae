import Avalant.Auth.CurrentUser
import Avalant.Lib.ReadThrough

/-!
`services/admin_settings.py`: the knobs of the admin panel, in a table that every
process reads through a cache of its own.

`set_value` commits the row and then drops the key from the cache of its own
process; the other processes go on with what they have.
-/

namespace Avalant

open Transition ReadThrough

/-! ## The table and its defaults -/

/-- `app_settings`: the value of each row. -/
abbrev AppSettings := String → Option Json

def keyHiddenSymbols : String := "hidden_symbols"
def keyDisabledExchanges : String := "disabled_exchanges"
def keyMaintenance : String := "maintenance_mode"
def keyDisabledWalletExchanges : String := "disabled_wallet_exchanges"
def keyDisabledChains : String := "disabled_chains"
def keyDisabledPerpdexes : String := "disabled_perpdexes"
def keyScreenerDisabled : String := "screener_disabled"
def keyPortfolioDisabled : String := "portfolio_disabled"
def keyTradeDisabledExchanges : String := "trade_disabled_exchanges"
def keyArbMinVolumeUsd : String := "arb_min_volume_usd"
def keyArbExcludeExchanges : String := "arb_exclude_exchanges"
def keyExpiryNoticeDays : String := "expiry_notice_days"
def keyExpiryNoticeIntervalHours : String := "expiry_notice_interval_hours"
def keyReferralMinPayoutUsd : String := "referral_min_payout_usd"
def keyMaintenanceTz : String := "maintenance_tz"
def keyBannerEnabled : String := "banner_enabled"
def keyBannerText : String := "banner_text"
def keyBannerMarquee : String := "banner_marquee"

/-- `_DEFAULTS`, less the keys whose default is `None`. -/
def settingDefaults : List (String × Json) :=
  [(keyHiddenSymbols, .arr []), (keyDisabledExchanges, .arr []), (keyMaintenance, .bool false),
    (keyDisabledWalletExchanges, .arr []), (keyDisabledChains, .arr []),
    (keyDisabledPerpdexes, .arr []), (keyScreenerDisabled, .bool false),
    (keyPortfolioDisabled, .bool false), (keyTradeDisabledExchanges, .arr []),
    (keyArbMinVolumeUsd, .int 50000), (keyArbExcludeExchanges, .arr [.str "kraken"]),
    (keyExpiryNoticeDays, .int 3), (keyExpiryNoticeIntervalHours, .int 24),
    (keyReferralMinPayoutUsd, .int 100), (keyMaintenanceTz, .str "Europe/Warsaw"),
    (keyBannerEnabled, .bool false), (keyBannerText, .str ""), (keyBannerMarquee, .bool false)]

/-- `_DEFAULTS.get(key)`. -/
def settingDefault (key : String) : Json :=
  ((settingDefaults.find? fun entry => entry.1 = key).map Prod.snd).getD .null

/-- `_load`. -/
def loadSetting (key : String) (table : AppSettings) : Json :=
  (table key).getD (settingDefault key)

/-- The `_cache` of a process, and its `_TTL_S`. -/
def settingsCache : Cache AppSettings String Json Time where
  query := loadSetting
  ttl := 15

/-- The processes, their calls of `get` and of `set_value`, and the table. -/
abbrev SettingsState := ReadThrough.State AppSettings Nat String Json Time

abbrev SettingsAct := ReadThrough.Act AppSettings Nat String Time

/-- The commit of `set_value`; `_cache.pop(key, None)` is a step of its own. -/
def setValue (s : SettingsState) (process : Nat) (key : String) (value : Json) : SettingsAct :=
  .write process (Function.update s.store key (some value)) fun k => decide (k = key)

/-! ## Integers -/

/-- `bool(v)`. -/
def Json.truthy : Json → Bool
  | .null => false
  | .bool b => b
  | .int n => decide (n ≠ 0)
  | .real q => decide (q ≠ 0)
  | .str s => decide (s ≠ "")
  | .arr items => !items.isEmpty
  | .obj fields => !fields.isEmpty

/-- `int(v)`, and what it makes of a text; `none` when it raises. -/
def Json.toInt (ofText : String → Option ℤ) : Json → Option ℤ
  | .bool b => some b.toNat
  | .int n => some n
  | .real q => some (Python.trunc q)
  | .str s => ofText s
  | .null | .arr _ | .obj _ => none

/-- `int(v or 0)`, or the default of the key when it raises, between two bounds. -/
def clampedInt (ofText : String → Option ℤ) (key : String) (least most : ℤ) (value : Json) : ℤ :=
  let v := if value.truthy then value else .int 0
  max least (min most ((v.toInt ofText).getD (((settingDefault key).toInt ofText).getD 0)))

def getExpiryNoticeDays (ofText : String → Option ℤ) (value : Json) : ℤ :=
  clampedInt ofText keyExpiryNoticeDays 0 60 value

def getExpiryNoticeIntervalHours (ofText : String → Option ℤ) (value : Json) : ℤ :=
  clampedInt ofText keyExpiryNoticeIntervalHours 1 168 value

theorem clampedInt_bounds (ofText : String → Option ℤ) (key : String) {least most : ℤ}
    (ordered : least ≤ most) (value : Json) :
    least ≤ clampedInt ofText key least most value ∧
      clampedInt ofText key least most value ≤ most :=
  ⟨le_max_left _ _, max_le ordered (min_le_left _ _)⟩

/-! ## How old a setting may be -/

/-- The table gave the key this value at some moment from `since` on. -/
def SettingHeld (s : SettingsState) (key : String) (value : Json) (since : Time) : Prop :=
  loadSetting key s.store = value ∨
    ∃ old ∈ s.past, loadSetting key old.1 = value ∧ since ≤ old.2

/-- However the processes read, write and drop, a value that `get` returns was in the table less
than the lifetime before the call. -/
theorem settings_bounded_staleness {clock : Time} {table : AppSettings} {s : SettingsState}
    (run : Run (State.step settingsCache) (fun _ _ => True) { clock := clock, store := table } s) :
    ∀ r ∈ s.returned, ∃ since, r.now - 15 < since ∧ SettingHeld s r.key r.value since := by
  have positive : 0 < settingsCache.ttl := by decide
  have sound := run.invariant (State.sound_preserved positive) (State.sound_initial clock table)
  intro r member
  obtain ⟨since, recent, -, fresh⟩ := sound.returned r member
  exact ⟨since, recent, fresh⟩

def noSettings : SettingsState := { clock := 0, store := fun _ => none }

/-- Another process doubles the notice days, and fourteen seconds later the first one is asked
again. -/
def staleNotice : List SettingsAct :=
  [.ask 0 keyExpiryNoticeDays, .look 0, .read 0, .put 0,
    setValue noSettings 1 keyExpiryNoticeDays (.int 6), .clear 0, .wait 14,
    .ask 0 keyExpiryNoticeDays, .look 0]

theorem settings_bounded_staleness_notice : ∃ s : SettingsState,
    exec (State.step settingsCache) noSettings staleNotice = some s ∧
      (s.returned.map fun r => (r.now, r.value.toInt fun _ => none)) =
        [(0, some 3), (14, some 3)] ∧
      ∀ r ∈ s.returned, ∃ since, r.now - 15 < since ∧ SettingHeld s r.key r.value since := by
  have ran : (exec (State.step settingsCache) noSettings staleNotice).map
      (fun s => s.returned.map fun r => (r.now, r.value.toInt fun _ => none)) =
        some [(0, some 3), (14, some 3)] := by
    decide +kernel
  obtain ⟨s, executed, view⟩ := Option.map_eq_some_iff.mp ran
  exact ⟨s, executed, view, settings_bounded_staleness (Run.of_exec executed)⟩

/-- A process whose `set_value` has dropped the key. -/
structure Dropped (s s' : SettingsState) (process : Nat) (key : String) : Prop where
  /-- A call of `get` that has read the old value is not about to put it. -/
  noOldRead : ∀ call ∈ s.calls, call.process = process → call.key = key →
    ∀ v readAt, call.phase = .answered v readAt → loadSetting key s.store = v
  drops : ∃ i clearing, s.clearings[i]? = some clearing ∧ clearing.process = process ∧
    clearing.keys key = true ∧ s.step settingsCache (.clear i) = some s'

/-- The process that wrote a setting serves what the table has, from then on until the key is
written again. -/
theorem settings_visible_to_writer {s s' s'' : SettingsState} {process : Nat} {key : String}
    (dropped : Dropped s s' process key)
    (run : Run (State.step settingsCache) (State.Keeps settingsCache key) s' s'') {now : Time}
    {value : Json} (served : s''.lookup settingsCache process key now = some value) :
    value = loadSetting key s''.store := by
  obtain ⟨i, clearing, here, rfl, keys, stepped⟩ := dropped.drops
  have current := State.upToDate_clear here keys stepped dropped.noOldRead
  exact ((run.invariant (State.upToDate_preserved _ _) current).lookup served).symm

/-- The process that has doubled the notice days, before and after it drops the key. -/
def noticeWritten : SettingsState :=
  { noSettings with
    store := Function.update noSettings.store keyExpiryNoticeDays (some (.int 6))
    past := [(noSettings.store, 0)]
    clearings := [⟨1, fun k => decide (k = keyExpiryNoticeDays)⟩] }

def noticeDropped : SettingsState :=
  { noticeWritten with
    cached := noticeWritten.cleared ⟨1, fun k => decide (k = keyExpiryNoticeDays)⟩
    clearings := [] }

theorem settings_visible_to_writer_notice :
    State.step settingsCache noSettings (setValue noSettings 1 keyExpiryNoticeDays (.int 6)) =
      some noticeWritten ∧
    Dropped noticeWritten noticeDropped 1 keyExpiryNoticeDays ∧
    ∃ s value, Run (State.step settingsCache) (State.Keeps settingsCache keyExpiryNoticeDays)
        noticeDropped s ∧
      s.lookup settingsCache 1 keyExpiryNoticeDays 0 = some value ∧
      value = loadSetting keyExpiryNoticeDays s.store := by
  have dropped : Dropped noticeWritten noticeDropped 1 keyExpiryNoticeDays :=
    ⟨fun call member => (List.not_mem_nil member).elim,
      0, ⟨1, fun k => decide (k = keyExpiryNoticeDays)⟩, rfl, rfl, by decide, rfl⟩
  have ran : ((exec (State.step settingsCache) noticeDropped
      [.ask 1 keyExpiryNoticeDays, .look 0, .read 0, .put 0]).map fun s =>
        (s.lookup settingsCache 1 keyExpiryNoticeDays 0).isSome) = some true := by
    decide +kernel
  obtain ⟨s, executed, found⟩ := Option.map_eq_some_iff.mp ran
  obtain ⟨value, served⟩ := Option.isSome_iff_exists.mp found
  have run : Run (State.step settingsCache) (State.Keeps settingsCache keyExpiryNoticeDays)
      noticeDropped s := by
    refine Run.of_exec_of_forall (fun a member s => ?_) executed
    simp only [List.mem_cons, List.not_mem_nil, or_false] at member
    rcases member with rfl | rfl | rfl | rfl <;> trivial
  exact ⟨rfl, dropped, s, value, run, served, settings_visible_to_writer dropped run served⟩

end Avalant
