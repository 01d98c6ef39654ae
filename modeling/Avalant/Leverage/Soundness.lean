import Avalant.Leverage.System

/-!
A hit means the setting is in force.

An entry outlives what makes it true in four ways: another account has the same
key, a call reaches the venue and leaves no entry, an entry is written after a
newer change, and a call that did nothing is recorded. `CacheClean` says of one
step that it does none of these; over runs of such steps every hit is right.
-/

namespace Avalant

open Relational Transition

variable (sha256 : String → String) (resolve : String → Option String)

/-- Wherever a run leads, an order that skips `set_leverage` finds the setting it asks for in
force. -/
def LeverageSound (ok : LevSys → LevAction → Prop) : Prop :=
  ∀ (venue : VenueSettings) (now : Time) (s : LevSys),
    Run (LevSys.step sha256 resolve) ok (LevSys.start venue now) s →
    ∀ k w symbol setting, w ∈ s.wallets → ok s (.ensure k w symbol setting) →
      s.hits sha256 w symbol setting = true → s.venue (w.target symbol) = setting

namespace LevSys

/-- The wallets with the key of `w` are those of its account. -/
def KeyIsAccount (s : LevSys) (w : LevWallet) : Prop :=
  ∀ w' ∈ s.wallets,
    (w'.exchange = w.exchange ∧ acctKey sha256 w'.creds = acctKey sha256 w.creds) ↔
      w'.account = w.account

instance (s : LevSys) (w : LevWallet) : Decidable (s.KeyIsAccount sha256 w) :=
  inferInstanceAs (Decidable (∀ _ ∈ _, _))

/-- Every call in flight for a symbol of an account that passes `p` asks for `setting`. -/
def CallsAgree (s : LevSys) (p : SetCall → Bool) (target : VenueAccount × String)
    (setting : LevSetting) : Prop :=
  ∀ call ∈ s.calls.rows, p call = true → call.target = target → call.setting = setting

instance (s : LevSys) (p : SetCall → Bool) (target : VenueAccount × String)
    (setting : LevSetting) : Decidable (s.CallsAgree p target setting) :=
  inferInstanceAs (Decidable (∀ _ ∈ _, _))

/-- A hit is by a key of one account, with no other change of the symbol on its way to the
cache; a call starts when no other one is about to set the symbol differently; the venue does
for a call exactly what it asks, before the call returns and not if it fails; and an event
tells the present setting. -/
def CacheClean (s : LevSys) : LevAction → Prop
  | .ensure _ w symbol setting =>
      if s.hits sha256 w symbol setting then
        s.KeyIsAccount sha256 w ∧ s.CallsAgree SetCall.applied (w.target symbol) setting
      else s.CallsAgree (fun _ => true) (w.target symbol) setting
  | .venueApplies k changes =>
      ∀ call ∈ s.calls.rows, call.id = k → changes = [(Python.upper call.symbol, call.setting)]
  | .setOk k => ∀ call ∈ s.calls.rows, call.id = k → call.applied = true
  | .setFail k => ∀ call ∈ s.calls.rows, call.id = k → call.applied = false
  | .event w symbol setting => s.venue (w.target symbol) = setting
  | _ => True

instance (s : LevSys) : (a : LevAction) → Decidable (s.CacheClean sha256 a)
  | .ensure _ w symbol setting =>
      inferInstanceAs (Decidable (if s.hits sha256 w symbol setting = true then _ else _))
  | .venueApplies _ _ => inferInstanceAs (Decidable (∀ _ ∈ _, _))
  | .setOk _ => inferInstanceAs (Decidable (∀ _ ∈ _, _))
  | .setFail _ => inferInstanceAs (Decidable (∀ _ ∈ _, _))
  | .event _ _ _ => inferInstanceAs (Decidable (_ = _))
  | .create _ _ | .update _ _ _ | .orderFailed _ _ | .wait _ => inferInstanceAs (Decidable True)

/-! ## Invariants -/

/-- What the calls in flight have in common with the venue. -/
structure CallsSound (s : LevSys) : Prop where
  wallet : ∀ call ∈ s.calls.rows, call.wallet ∈ s.wallets
  agree : ∀ call ∈ s.calls.rows, ∀ other ∈ s.calls.rows, call.target = other.target →
    call.setting = other.setting
  applied : ∀ call ∈ s.calls.rows, call.applied = true → s.venue call.target = call.setting

/-- All wallets of the account of `w` have its key. -/
def OneKey (s : LevSys) (w : LevWallet) : Prop :=
  ∀ w' ∈ s.wallets, w'.account = w.account → acctKey sha256 w'.creds = acctKey sha256 w.creds

/-- The setting is in force, or a call that has changed it is about to be recorded. -/
def Justified (s : LevSys) (target : VenueAccount × String) (setting : LevSetting) : Prop :=
  s.venue target = setting ∨
    ∃ call ∈ s.calls.rows, call.applied = true ∧ call.target = target

/-- Every entry was written for some wallet, and holds for it as long as its account has no
other key. -/
def CacheSound (s : LevSys) : Prop :=
  ∀ key entry, s.cache key = some entry → ∃ w ∈ s.wallets, ∃ symbol, w.key sha256 symbol = key ∧
    (s.OneKey sha256 w → s.Justified (w.target symbol) entry.setting)

end LevSys

variable {sha256 resolve} {s s' : LevSys}

theorem LevWallet.key_inj {w w' : LevWallet} {symbol symbol' : String}
    (same : w.key sha256 symbol = w'.key sha256 symbol') :
    w.exchange = w'.exchange ∧ acctKey sha256 w.creds = acctKey sha256 w'.creds ∧
      Python.upper symbol = Python.upper symbol' := by
  simpa only [LevWallet.key, cacheKey, CacheKey.mk.injEq] using same

theorem LevWallet.key_congr {w w' : LevWallet} {symbol symbol' : String}
    (target : w.target symbol = w'.target symbol')
    (acct : acctKey sha256 w.creds = acctKey sha256 w'.creds) :
    w.key sha256 symbol = w'.key sha256 symbol' := by
  simp only [LevWallet.target, LevWallet.account, Prod.mk.injEq, VenueAccount.mk.injEq] at target
  simp only [LevWallet.key, cacheKey, CacheKey.mk.injEq]
  exact ⟨target.1.1, acct, target.2⟩

/-- The one change a clean call makes. -/
theorem VenueSettings.apply_singleton (venue : VenueSettings) (w : LevWallet) (symbol : String)
    (setting : LevSetting) (target : VenueAccount × String) :
    venue.apply w.account [(Python.upper symbol, setting)] target =
      if target = w.target symbol then setting else venue target := by
  rcases target with ⟨account, other⟩
  unfold VenueSettings.apply LevWallet.target
  by_cases sameAccount : account = w.account
  · by_cases sameSymbol : other = Python.upper symbol
    · simp [sameAccount, sameSymbol]
    · have unequal : (other == Python.upper symbol) = false := by simpa using sameSymbol
      simp [sameAccount, sameSymbol, List.lookup_cons, unequal]
  · simp [sameAccount]

/-! ## What a step does -/

/-- What an action changes, with the guards of the step function. -/
theorem LevSys.step_cases {a : LevAction} (stepped : s.step sha256 resolve a = some s') :
    match a with
    | .create body number => s' = { s with wallets := .created resolve body number :: s.wallets }
    | .update w body number => s' = { s with wallets := w.edited body number :: s.wallets }
    | .ensure k w symbol setting => w ∈ s.wallets ∧
        ((s.hits sha256 w symbol setting = true ∧ s' = s) ∨
          (s.hits sha256 w symbol setting = false ∧ s.calls.get? k = none ∧
            s' = { s with
              calls := s.calls.insert { id := k, wallet := w, symbol, setting } }))
    | .venueApplies k changes => ∃ call, s.calls.get? k = some call ∧
        s' = { s with
          venue := s.venue.apply call.wallet.account changes
          calls := s.calls.put { call with applied := true } }
    | .setOk k => ∃ call, s.calls.get? k = some call ∧
        s' = { s with
          cache := s.cache.record (call.wallet.key sha256 call.symbol) call.setting s.now
          calls := s.calls.erase k }
    | .setFail k => ∃ call, s.calls.get? k = some call ∧ s' = { s with calls := s.calls.erase k }
    | .orderFailed w symbol =>
        s' = { s with cache := s.cache.invalidate (w.key sha256 symbol) }
    | .event w symbol setting => w ∈ s.wallets ∧
        (s' = s ∨ s' = { s with
          cache := s.cache.record (w.key sha256 symbol) setting s.now })
    | .wait dt => s' = { s with now := s.now + dt } := by
  cases a with
  | create body number =>
      simp only [step, addWallet, Option.ite_none_right_eq_some, Option.some.injEq] at stepped
      exact stepped.2.symm
  | update w body number =>
      simp only [step, addWallet, Option.ite_none_right_eq_some, Option.some.injEq] at stepped
      exact stepped.2.2.symm
  | ensure k w symbol setting =>
      simp only [step, Option.ite_none_left_eq_some, not_or, not_not, Bool.not_eq_true,
        Option.isSome_eq_false_iff, Option.isNone_iff_eq_none] at stepped
      obtain ⟨⟨stored, free⟩, stepped⟩ := stepped
      refine ⟨stored, ?_⟩
      split at stepped
      case isTrue hit =>
        cases stepped
        exact Or.inl ⟨hit, rfl⟩
      case isFalse miss =>
        cases stepped
        exact Or.inr ⟨by simpa using miss, free, rfl⟩
  | venueApplies k changes =>
      obtain ⟨call, found, rfl⟩ := Option.map_eq_some_iff.mp stepped
      exact ⟨call, found, rfl⟩
  | setOk k =>
      obtain ⟨call, found, rfl⟩ := Option.map_eq_some_iff.mp stepped
      exact ⟨call, found, rfl⟩
  | setFail k =>
      obtain ⟨call, found, rfl⟩ := Option.map_eq_some_iff.mp stepped
      exact ⟨call, found, rfl⟩
  | orderFailed w symbol =>
      simp only [step, Option.ite_none_right_eq_some, Option.some.injEq] at stepped
      exact stepped.2.symm
  | event w symbol setting =>
      simp only [step, Option.ite_none_left_eq_some, not_not] at stepped
      obtain ⟨stored, stepped⟩ := stepped
      refine ⟨stored, ?_⟩
      split at stepped
      · cases stepped
        exact Or.inr rfl
      · cases stepped
        exact Or.inl rfl
  | wait dt =>
      simp only [step, Option.ite_none_right_eq_some, Option.some.injEq] at stepped
      exact stepped.2.symm

/-! ## The calls -/

namespace LevSys

/-- A step that starts no call, leaves the venue alone and forgets no wallet. -/
theorem CallsSound.of_subset (sound : s.CallsSound) (venue : s'.venue = s.venue)
    (wallets : s.wallets ⊆ s'.wallets) (calls : s'.calls.rows ⊆ s.calls.rows) : s'.CallsSound where
  wallet call member := wallets (sound.wallet call (calls member))
  agree call member other member' := sound.agree call (calls member) other (calls member')
  applied call member := by
    rw [venue]
    exact sound.applied call (calls member)

/-- A new call that agrees with those in flight. -/
theorem CallsSound.start {k : Nat} {w : LevWallet} {symbol : String} {setting : LevSetting}
    (sound : s.CallsSound) (stored : w ∈ s.wallets) (free : s.calls.get? k = none)
    (agreed : s.CallsAgree (fun _ => true) (w.target symbol) setting) :
    ({ s with calls := s.calls.insert { id := k, wallet := w, symbol, setting } }).CallsSound := by
  have rows : ∀ call ∈ (s.calls.insert { id := k, wallet := w, symbol, setting }).rows,
      call ∈ s.calls.rows ∨ call = { id := k, wallet := w, symbol, setting } :=
    fun _ => (Table.mem_rows_insert free).mp
  refine ⟨fun call member => ?_, fun call member other member' same => ?_,
    fun call member applied => ?_⟩
  · rcases rows call member with old | rfl
    · exact sound.wallet call old
    · exact stored
  · rcases rows call member with old | rfl
    · rcases rows other member' with old' | rfl
      · exact sound.agree call old other old' same
      · exact agreed call old rfl same
    · rcases rows other member' with old' | rfl
      · exact (agreed other old' rfl same.symm).symm
      · rfl
  · rcases rows call member with old | rfl
    · exact sound.applied call old applied
    · cases applied

/-- The venue does what one call asks: the calls that wait for the same symbol ask for the
same setting, the others wait for symbols that keep theirs. -/
theorem CallsSound.applies {call : SetCall} (sound : s.CallsSound)
    (member : call ∈ s.calls.rows) :
    ({ s with
      venue := s.venue.apply call.wallet.account [(Python.upper call.symbol, call.setting)]
      calls := s.calls.put { call with applied := true } }).CallsSound := by
  have former : ∀ row ∈ (s.calls.put { call with applied := true }).rows,
      ∃ old ∈ s.calls.rows, row.wallet = old.wallet ∧ row.target = old.target ∧
        row.setting = old.setting := by
    intro row member'
    rcases Table.mem_rows_put.mp member' with rfl | ⟨old, -⟩
    · exact ⟨call, member, rfl, rfl, rfl⟩
    · exact ⟨row, old, rfl, rfl, rfl⟩
  refine ⟨fun row member' => ?_, fun row member' other member'' same => ?_,
    fun row member' applied => ?_⟩
  · obtain ⟨old, present, wallet, -, -⟩ := former row member'
    rw [wallet]
    exact sound.wallet old present
  · obtain ⟨old, present, -, target, setting⟩ := former row member'
    obtain ⟨old', present', -, target', setting'⟩ := former other member''
    rw [setting, setting']
    exact sound.agree old present old' present' (target.symm.trans (same.trans target'))
  · change s.venue.apply call.wallet.account [(Python.upper call.symbol, call.setting)] row.target = _
    rw [VenueSettings.apply_singleton]
    split
    case isTrue sameTarget =>
      obtain ⟨old, present, -, target, setting⟩ := former row member'
      rw [setting]
      exact sound.agree call member old present (sameTarget.symm.trans target)
    case isFalse other =>
      rcases Table.mem_rows_put.mp member' with rfl | ⟨present, -⟩
      · exact absurd rfl other
      · exact sound.applied row present applied

theorem CallsSound.step {a : LevAction} (sound : s.CallsSound)
    (clean : s.CacheClean sha256 a) (stepped : s.step sha256 resolve a = some s') :
    s'.CallsSound := by
  have done := step_cases stepped
  cases a with
  | create body number =>
      dsimp only at done
      subst done
      exact sound.of_subset rfl (List.subset_cons_self _ _) (List.Subset.refl _)
  | update w body number =>
      dsimp only at done
      subst done
      exact sound.of_subset rfl (List.subset_cons_self _ _) (List.Subset.refl _)
  | ensure k w symbol setting =>
      obtain ⟨stored, ⟨-, rfl⟩ | ⟨miss, free, rfl⟩⟩ := done
      · exact sound
      · simp only [CacheClean, miss, Bool.false_eq_true, if_false] at clean
        exact sound.start stored free clean
  | venueApplies k changes =>
      obtain ⟨call, found, rfl⟩ := done
      have member := Table.mem_of_get? found
      cases clean call member (Table.key_of_get? found)
      exact sound.applies member
  | setOk k =>
      obtain ⟨call, -, rfl⟩ := done
      exact sound.of_subset rfl (List.Subset.refl _) fun _ kept => (Table.mem_rows_erase.mp kept).1
  | setFail k =>
      obtain ⟨call, -, rfl⟩ := done
      exact sound.of_subset rfl (List.Subset.refl _) fun _ kept => (Table.mem_rows_erase.mp kept).1
  | orderFailed w symbol =>
      dsimp only at done
      subst done
      exact sound.of_subset rfl (List.Subset.refl _) (List.Subset.refl _)
  | event w symbol setting =>
      obtain ⟨-, rfl | rfl⟩ := done
      · exact sound
      · exact sound.of_subset rfl (List.Subset.refl _) (List.Subset.refl _)
  | wait dt =>
      dsimp only at done
      subst done
      exact sound.of_subset rfl (List.Subset.refl _) (List.Subset.refl _)

/-! ## The entries -/

theorem OneKey.mono {w : LevWallet} (wallets : s.wallets ⊆ s'.wallets)
    (one : s'.OneKey sha256 w) : s.OneKey sha256 w :=
  fun w' member => one w' (wallets member)

/-- Each entry after a step is an old one whose justification the step keeps, or is written
for a wallet with the setting in force. -/
theorem CacheSound.of_entries (sound : s.CacheSound sha256) (wallets : s.wallets ⊆ s'.wallets)
    (entries : ∀ key entry, s'.cache key = some entry →
      (s.cache key = some entry ∧ ∀ w symbol, w.key sha256 symbol = key → s.OneKey sha256 w →
        s.Justified (w.target symbol) entry.setting →
        s'.Justified (w.target symbol) entry.setting) ∨
      (∃ w ∈ s'.wallets, ∃ symbol, w.key sha256 symbol = key ∧
        s'.venue (w.target symbol) = entry.setting)) : s'.CacheSound sha256 := by
  intro key entry stored
  rcases entries key entry stored with ⟨old, keeps⟩ | ⟨w, member, symbol, same, inForce⟩
  · obtain ⟨w, member, symbol, same, justified⟩ := sound key entry old
    refine ⟨w, wallets member, symbol, same, fun one => ?_⟩
    exact keeps w symbol same (one.mono wallets) (justified (one.mono wallets))
  · exact ⟨w, member, symbol, same, fun _ => Or.inl inForce⟩

/-- A step that writes no entry and keeps every justification. -/
theorem CacheSound.of_cache (sound : s.CacheSound sha256) (wallets : s.wallets ⊆ s'.wallets)
    (cache : ∀ key entry, s'.cache key = some entry → s.cache key = some entry)
    (keeps : ∀ target setting, s.Justified target setting → s'.Justified target setting) :
    s'.CacheSound sha256 :=
  sound.of_entries wallets fun key entry stored =>
    Or.inl ⟨cache key entry stored, fun _ _ _ _ => keeps _ _⟩

theorem CacheSound.step {a : LevAction} (sound : s.CacheSound sha256) (calls : s.CallsSound)
    (clean : s.CacheClean sha256 a) (stepped : s.step sha256 resolve a = some s') :
    s'.CacheSound sha256 := by
  have done := step_cases stepped
  cases a with
  | create body number =>
      dsimp only at done
      subst done
      exact sound.of_cache (List.subset_cons_self _ _) (fun _ _ => id) fun _ _ => id
  | update w body number =>
      dsimp only at done
      subst done
      exact sound.of_cache (List.subset_cons_self _ _) (fun _ _ => id) fun _ _ => id
  | ensure k w symbol setting =>
      obtain ⟨stored, ⟨-, rfl⟩ | ⟨miss, free, rfl⟩⟩ := done
      · exact sound
      · refine sound.of_cache (List.Subset.refl _) (fun _ _ => id) fun target setting justified => ?_
        rcases justified with inForce | ⟨call, member, applied⟩
        · exact Or.inl inForce
        · exact Or.inr ⟨call, (Table.mem_rows_insert free).mpr (Or.inl member), applied⟩
  | venueApplies k changes =>
      obtain ⟨call, found, rfl⟩ := done
      have member := Table.mem_of_get? found
      cases clean call member (Table.key_of_get? found)
      refine sound.of_cache (List.Subset.refl _) (fun _ _ => id) fun target setting justified => ?_
      -- the changed target waits for this call, the others keep what they had
      by_cases same : target = call.target
      · exact Or.inr ⟨_, Table.mem_rows_put.mpr (Or.inl rfl), rfl, same.symm⟩
      rcases justified with inForce | ⟨other, present, applied, sameTarget⟩
      · refine Or.inl ?_
        change s.venue.apply call.wallet.account [(Python.upper call.symbol, call.setting)] target = _
        rw [VenueSettings.apply_singleton]
        exact (if_neg same).trans inForce
      · have otherRow : key other ≠ key call := by
          intro sameKey
          have found' := Table.mem_rows_iff.mp present
          rw [sameKey, Table.mem_rows_iff.mp member, Option.some.injEq] at found'
          exact same (by rw [← sameTarget, found'])
        exact Or.inr ⟨other, Table.mem_rows_put.mpr (Or.inr ⟨present, otherRow⟩), applied, sameTarget⟩
  | setOk k =>
      obtain ⟨call, found, rfl⟩ := done
      have member := Table.mem_of_get? found
      have applied := clean call member (Table.key_of_get? found)
      refine sound.of_entries (List.Subset.refl _) fun key entry stored => ?_
      rcases StateCache.record_eq_some stored with ⟨rfl, rfl⟩ | ⟨otherKey, old⟩
      · exact Or.inr ⟨call.wallet, calls.wallet call member, call.symbol, rfl,
          calls.applied call member applied⟩
      refine Or.inl ⟨old, fun w symbol sameKey one justified => ?_⟩
      rcases justified with inForce | ⟨waiting, present, waits, sameTarget⟩
      · exact Or.inl inForce
      -- an entry that waited for this call has its key, and so is the one just written
      have otherCall : waiting.id ≠ k := by
        intro same
        have found' := Table.get?_eq_some_iff.mpr ⟨present, same⟩
        rw [found, Option.some.injEq] at found'
        subst found'
        have account : call.wallet.account = w.account := congrArg Prod.fst sameTarget
        have acct := one call.wallet (calls.wallet call member) account
        exact otherKey (sameKey.symm.trans (LevWallet.key_congr sameTarget.symm acct.symm))
      exact Or.inr ⟨waiting, Table.mem_rows_erase.mpr ⟨present, otherCall⟩, waits, sameTarget⟩
  | setFail k =>
      obtain ⟨call, found, rfl⟩ := done
      refine sound.of_cache (List.Subset.refl _) (fun _ _ => id) fun target setting justified => ?_
      rcases justified with inForce | ⟨waiting, present, waits, sameTarget⟩
      · exact Or.inl inForce
      have otherCall : waiting.id ≠ k := by
        intro same
        rw [clean waiting present same] at waits
        cases waits
      exact Or.inr ⟨waiting, Table.mem_rows_erase.mpr ⟨present, otherCall⟩, waits, sameTarget⟩
  | orderFailed w symbol =>
      dsimp only at done
      subst done
      exact sound.of_cache (List.Subset.refl _) (fun _ _ => StateCache.invalidate_eq_some) fun _ _ => id
  | event w symbol setting =>
      obtain ⟨member, rfl | rfl⟩ := done
      · exact sound
      refine sound.of_entries (List.Subset.refl _) fun key entry stored => ?_
      rcases StateCache.record_eq_some stored with ⟨rfl, rfl⟩ | ⟨-, old⟩
      · exact Or.inr ⟨w, member, symbol, rfl, clean⟩
      · exact Or.inl ⟨old, fun _ _ _ _ => id⟩
  | wait dt =>
      dsimp only at done
      subst done
      exact sound.of_cache (List.Subset.refl _) (fun _ _ => id) fun _ _ => id

/-! ## Over runs -/

theorem sound_of_run {venue : VenueSettings} {now : Time}
    (run : Run (LevSys.step sha256 resolve) (LevSys.CacheClean sha256) (start venue now) s) :
    s.CallsSound ∧ s.CacheSound sha256 := by
  have callsStep : Preserves (LevSys.step sha256 resolve) (LevSys.CacheClean sha256) CallsSound :=
    fun _ _ _ sound clean stepped => sound.step clean stepped
  refine run.invariant (callsStep.and fun _ _ _ calls sound clean stepped =>
    sound.step calls clean stepped) ⟨⟨?_, ?_, ?_⟩, ?_⟩
  · intro call member
    cases member
  · intro call member
    cases member
  · intro call member
    cases member
  · intro key entry stored
    cases stored

end LevSys

/-- In every run of clean steps, an order that finds its setting in the cache has it in force. -/
theorem leverageSound_of_cacheClean (sha256 : String → String)
    (resolve : String → Option String) :
    LeverageSound sha256 resolve (LevSys.CacheClean sha256) := by
  intro venue now s run k w symbol setting _ clean hit
  simp only [LevSys.CacheClean, hit, if_true] at clean
  obtain ⟨keyed, agreed⟩ := clean
  obtain ⟨calls, cache⟩ := LevSys.sound_of_run run
  obtain ⟨entry, stored, rfl, -⟩ := StateCache.hits_iff.mp hit
  obtain ⟨writer, written, symbol', sameKey, justified⟩ := cache _ entry stored
  -- the entry was written for a wallet of the same account, whose only key is this one
  obtain ⟨exchange, acct, upper⟩ := LevWallet.key_inj sameKey
  have account : writer.account = w.account := (keyed writer written).mp ⟨exchange, acct⟩
  have one : s.OneKey sha256 writer := fun w' member' same =>
    ((keyed w' member').mpr (same.trans account)).2.trans acct.symm
  have target : writer.target symbol' = w.target symbol := Prod.ext account upper
  rw [target] at justified
  rcases justified one with inForce | ⟨call, present, applied, sameTarget⟩
  · exact inForce
  · rw [← sameTarget, calls.applied call present applied]
    exact agreed call present applied sameTarget

/-- Two accounts with an api key each: the second order of the first one is a hit. -/
example :
    let body (apiKey : String) : WalletCreate :=
      { walletType := .exchange, typeValue := "binance", apiKey := some apiKey, apiSecret := some "" }
    let first : LevWallet := ⟨.exchange, "binance", { apiKey := some "k1", apiSecret := some "" }, 1⟩
    let ten : LevSetting := ⟨10, "isolated"⟩
    (execGuarded (LevSys.step id fun _ => none) (LevSys.CacheClean id)
      (LevSys.start (fun _ => ⟨20, "cross"⟩) 0)
      [.create (body "k1") 1, .create (body "k2") 2, .ensure 0 first "btc" ten,
        .venueApplies 0 [("BTC", ten)], .setOk 0, .event first "BTC" ten,
        .ensure 1 first "BTC" ten]).any (fun s => s.hits id first "BTC" ten) = true := by
  decide +kernel

/-! ## Two accounts, one key -/

/-- Two wallets of such a venue have one key, whoever they belong to. -/
theorem LevWallet.key_of_keyless {body body' : WalletCreate} (number number' : Nat)
    (symbol : String) (perpdex : body.walletType = .perpdex) (perpdex' : body'.walletType = .perpdex)
    (keyless : body.typeValue ∈ keylessVenues) (same : body'.typeValue = body.typeValue) :
    (created resolve body' number').key sha256 symbol =
      (created resolve body number).key sha256 symbol := by
  have acct : acctKey sha256 (body'.rawCreds resolve) = acctKey sha256 (body.rawCreds resolve) :=
    (acctKey_of_keyless perpdex' (same ▸ keyless)).trans (acctKey_of_keyless perpdex keyless).symm
  simp only [key, created, exchange, cacheKey, acct, same]

/-- A wallet on a venue that trades with an address and a private key. -/
def hyperliquidBody (address privateKey : String) : WalletCreate where
  walletType := .perpdex
  typeValue := "hyperliquid"
  address := some address
  privateKey := some privateKey

/-- The wallet it makes. -/
def hyperliquidWallet (address privateKey : String) (number : Nat) : LevWallet :=
  ⟨.perpdex, "hyperliquid", { address := some address, apiSecret := some privateKey }, number⟩

theorem LevWallet.created_hyperliquid {address privateKey : String} (number : Nat)
    (addressKept : strippedField (some address) = some address)
    (keyKept : strippedField (some privateKey) = some privateKey) :
    created resolve (hyperliquidBody address privateKey) number =
      hyperliquidWallet address privateKey number := by
  have lower : Python.lower "hyperliquid" = "hyperliquid" := by decide +kernel
  simp [created, hyperliquidBody, hyperliquidWallet, WalletCreate.rawCreds,
    WalletCreate.buildPerpdexCreds, lower, addressKept, keyKept]

def sharedKeyFirst : LevWallet := hyperliquidWallet "0xa1" "k1" 1

def sharedKeySecond : LevWallet := hyperliquidWallet "0xb2" "k2" 2

theorem sharedKeyFirst_created (resolve : String → Option String) :
    LevWallet.created resolve (hyperliquidBody "0xa1" "k1") 1 = sharedKeyFirst :=
  LevWallet.created_hyperliquid 1 (by decide +kernel) (by decide +kernel)

theorem sharedKeySecond_created (resolve : String → Option String) :
    LevWallet.created resolve (hyperliquidBody "0xb2" "k2") 2 = sharedKeySecond :=
  LevWallet.created_hyperliquid 2 (by decide +kernel) (by decide +kernel)

def tenIsolated : LevSetting := ⟨10, "isolated"⟩

/-- The first account is set to 10x isolated, and the call is recorded. -/
def sharedKeyRun : List LevAction :=
  [.create (hyperliquidBody "0xa1" "k1") 1, .create (hyperliquidBody "0xb2" "k2") 2,
    .ensure 0 sharedKeyFirst "BTC" tenIsolated, .venueApplies 0 [("BTC", tenIsolated)], .setOk 0]

/-- The call it makes. -/
def sharedKeyCall : SetCall := ⟨0, sharedKeyFirst, "BTC", tenIsolated, false⟩

/-- Where that run ends. -/
def sharedKeyState (sha256 : String → String) (venue : VenueSettings) : LevSys where
  wallets := [sharedKeySecond, sharedKeyFirst]
  venue := venue.apply sharedKeyFirst.account [("BTC", tenIsolated)]
  cache := StateCache.record (fun _ => none) (sharedKeyFirst.key sha256 "BTC") tenIsolated 0
  calls := ((Table.empty.insert sharedKeyCall).put { sharedKeyCall with applied := true }).erase 0
  now := 0

theorem exec_sharedKeyRun (sha256 : String → String) (resolve : String → Option String)
    (venue : VenueSettings) :
    exec (LevSys.step sha256 resolve) (LevSys.start venue 0) sharedKeyRun =
      some (sharedKeyState sha256 venue) := by
  have different : sharedKeyFirst.creds ≠ sharedKeySecond.creds := by decide +kernel
  simp [exec, sharedKeyRun, LevSys.step, LevSys.addWallet, LevSys.Consistent, LevSys.start,
    sharedKeyFirst_created, sharedKeySecond_created, different, LevSys.hits, StateCache.hits,
    sharedKeyCall, sharedKeyState]

/-- The second account, at 20x cross all along, is taken for 10x isolated. -/
theorem leverageSound_broken_by_shared_key :
    ¬ ∃ sha256 resolve, LeverageSound sha256 resolve fun _ _ => True := by
  intro setting
  rcases setting with ⟨sha256, resolve, sound⟩
  have run := Run.of_exec (exec_sharedKeyRun sha256 resolve fun _ => ⟨20, "cross"⟩)
  have stored : sharedKeySecond ∈ (sharedKeyState sha256 fun _ => ⟨20, "cross"⟩).wallets :=
    List.mem_cons_self
  have oneKey : sharedKeySecond.key sha256 "BTC" = sharedKeyFirst.key sha256 "BTC" := by
    rw [← sharedKeyFirst_created resolve, ← sharedKeySecond_created resolve]
    exact LevWallet.key_of_keyless 1 2 "BTC" rfl rfl List.mem_cons_self rfl
  have fresh : (0 : Time) - 0 < defaultTtlS := by decide +kernel
  have hit : (sharedKeyState sha256 fun _ => ⟨20, "cross"⟩).hits sha256 sharedKeySecond "BTC"
      tenIsolated = true :=
    StateCache.hits_iff.mpr ⟨⟨tenIsolated, 0⟩, if_pos oneKey, rfl, fresh⟩
  have inForce := sound _ 0 _ run 1 sharedKeySecond "BTC" tenIsolated stored trivial hit
  have otherAccount : sharedKeySecond.account ≠ sharedKeyFirst.account := by decide +kernel
  have untouched : (sharedKeyState sha256 fun _ => ⟨20, "cross"⟩).venue
      (sharedKeySecond.target "BTC") = ⟨20, "cross"⟩ := by
    dsimp only [sharedKeyState, VenueSettings.apply, LevWallet.target]
    rw [if_neg otherAccount]
  have differs : (⟨20, "cross"⟩ : LevSetting) ≠ tenIsolated := by decide +kernel
  exact differs (untouched.symm.trans inForce)

end Avalant
