import Avalant.Lib.Aggregate
import Avalant.Wallets.Service

/-!
The two numbers of wallets, by every statement of every request.
-/

namespace Avalant

open Relational Transition

namespace Wallets

variable {userId : Nat} {limits : WalletLimits} {db db' : WalletDb} {others : List WalletTask}
  {task : WalletTask}

/-! ## What a write does to a number -/

theorem key_set (id : Nat) (set : WalletSet) (row : StoredWallet) :
    key (if row.id = id then set.apply row else row) = key row := by
  split
  · rfl
  · rfl

/-- A write adds at most one row to a number, and none unless it brings its row in. -/
theorem countP_set (db : WalletDb) (id : Nat) (set : WalletSet) (p : StoredWallet → Bool) :
    (db.set id set).wallets.rows.countP p ≤ db.wallets.rows.countP p ∨
      (db.set id set).wallets.rows.countP p ≤ db.wallets.rows.countP p + 1 ∧
        ∃ row ∈ db.wallets.rows, row.id = id ∧ p row = false ∧ p (set.apply row) = true := by
  by_cases brings : ∃ row ∈ db.wallets.rows, row.id = id ∧ p row = false ∧ p (set.apply row) = true
  · refine Or.inr ⟨?_, brings⟩
    refine Table.countP_map_le_succ db.wallets _ (key_set id set) (k := id) (fun row other => ?_) p
    exact if_neg other
  · refine Or.inl (Table.countP_map_le db.wallets _ (key_set id set) fun row member counted => ?_)
    split at counted
    case isTrue here =>
      cases before : p row with
      | true => rfl
      | false => exact absurd ⟨row, member, here, before, counted⟩ brings
    case isFalse => exact counted

/-- A write that brings no row into a number. -/
theorem countP_set_le {id : Nat} {set : WalletSet} {p : StoredWallet → Bool}
    (lower : ∀ row, p (set.apply row) = true → p row = true) :
    (db.set id set).wallets.rows.countP p ≤ db.wallets.rows.countP p := by
  refine Table.countP_map_le db.wallets _ (key_set id set) fun row member counted => ?_
  split at counted
  · exact lower row counted
  · exact counted

/-- Neither number has grown. -/
def Lower (userId : Nat) (db db' : WalletDb) : Prop :=
  portfolioCount db' userId ≤ portfolioCount db userId ∧
    ∀ venue, exchangeKeysForVenue db' userId venue ≤ exchangeKeysForVenue db userId venue

theorem Lower.refl (userId : Nat) (db : WalletDb) : Lower userId db db :=
  ⟨Nat.le_refl _, fun _ => Nat.le_refl _⟩

theorem Lower.trans {db'' : WalletDb} (first : Lower userId db db') (second : Lower userId db' db'') :
    Lower userId db db'' :=
  ⟨Nat.le_trans second.1 first.1, fun venue => Nat.le_trans (second.2 venue) (first.2 venue)⟩

theorem Lower.keepsCaps (lower : Lower userId db db') : KeepsCaps userId limits db db' := by
  obtain ⟨portfolio, keys⟩ := lower
  refine ⟨fun _ within => ?_, fun venue _ within => ?_⟩
  · exact le_trans (Int.ofNat_le.mpr portfolio) within
  · exact le_trans (Int.ofNat_le.mpr (keys venue)) within

/-- A write that only archives, or only takes a wallet out of the portfolio. -/
def Lowers (set : WalletSet) : Prop :=
  (set.isArchived = none ∨ set.isArchived = some true) ∧
    (set.purpose = none ∨ set.purpose = some .screener)

theorem Lowers.lower {set : WalletSet} (lowers : Lowers set) (db : WalletDb) (id : Nat) :
    Lower userId db (db.set id set) := by
  obtain ⟨archives, leaves⟩ := lowers
  have active : ∀ row, (set.apply row).isArchived = false → row.isArchived = false := by
    intro row after
    unfold WalletSet.apply at after
    rcases archives with none | archived
    · rw [none] at after
      exact after
    · rw [archived] at after
      cases after
  have counted : ∀ row, inPortfolio (set.apply row).purpose = true → inPortfolio row.purpose = true := by
    intro row after
    unfold WalletSet.apply at after
    rcases leaves with none | screener
    · rw [none] at after
      exact after
    · rw [screener] at after
      cases after
  refine ⟨countP_set_le fun row after => ?_, fun venue => countP_set_le fun row after => ?_⟩
  · simp only [countsInPortfolio, Bool.decide_and, Bool.and_eq_true, decide_eq_true_eq,
      Bool.not_eq_true'] at after ⊢
    exact ⟨after.1, active row after.2.1, counted row after.2.2⟩
  · simp only [isKeyFor, Bool.decide_and, Bool.and_eq_true, decide_eq_true_eq,
      Bool.not_eq_true'] at after ⊢
    exact ⟨after.1, active row after.2.1, after.2.2.1, after.2.2.2⟩

theorem lowers_archived (loaded : StoredWallet) : Lowers (.diff loaded (archived loaded)) := by
  refine ⟨?_, Or.inl (if_pos rfl)⟩
  unfold WalletSet.diff archived Python.dirty
  dsimp only
  split
  · exact Or.inl rfl
  · exact Or.inr rfl

theorem lowers_enforced {loaded : StoredWallet} (active : loaded.isArchived = false) :
    Lowers (.diff loaded (enforced loaded)) := by
  unfold WalletSet.diff enforced Python.dirty
  split
  case isTrue both =>
    rw [both]
    exact ⟨Or.inl rfl, Or.inr rfl⟩
  case isFalse =>
    rw [active]
    exact ⟨Or.inr rfl, Or.inl (if_pos rfl)⟩

/-- `enforce_for_user` writes its surplus rows. -/
theorem lower_enforced {surplus : List StoredWallet} (active : ∀ w ∈ surplus, w.isArchived = false)
    (db : WalletDb) :
    Lower userId db (surplus.foldl (fun db w => db.set w.id (.diff w (enforced w))) db) := by
  induction surplus generalizing db with
  | nil => exact Lower.refl userId db
  | cons w surplus ih =>
      rw [List.foldl_cons]
      have first : Lower userId db (db.set w.id (.diff w (enforced w))) :=
        (lowers_enforced (active w List.mem_cons_self)).lower db w.id
      exact first.trans (ih (fun w' member => active w' (List.mem_cons_of_mem _ member)) _)

theorem active_of_surplus {w : StoredWallet} (member : w ∈ surplusWallets userId limits db) :
    w.isArchived = false := by
  unfold surplusWallets at member
  dsimp only at member
  split at member
  · cases member
  · have selected := List.mem_mergeSort.mp (List.mem_of_mem_take member)
    obtain ⟨-, counted⟩ := List.mem_filter.mp selected
    simp only [countsInPortfolio, Bool.decide_and, Bool.and_eq_true, decide_eq_true_eq,
      Bool.not_eq_true'] at counted
    exact counted.2.1

/-! ## What a request has been promised -/

/-- A creation that has counted still has its room, and what is to be archived is active. -/
structure Promised (userId : Nat) (limits : WalletLimits) (db : WalletDb) (task : WalletTask) :
    Prop where
  portfolio : reservesPortfolio task = true → isUnlimited limits.portfolioLimit = false →
    (portfolioCount db userId : ℤ) < limits.portfolioLimit
  keys : ∀ venue, reservesKey venue task = true →
    isUnlimited limits.exchangeKeysPerVenue = false →
      (exchangeKeysForVenue db userId venue : ℤ) < limits.exchangeKeysPerVenue
  surplus : ∀ surplus, task = .enforceWrite surplus → ∀ w ∈ surplus, w.isArchived = false

/-- Two requests do not hold the row of the user. -/
def LockedOnce (task task' : WalletTask) : Prop :=
  ¬(task.locks = true ∧ task'.locks = true)

theorem locks_of_reservesPortfolio (reserves : reservesPortfolio task = true) :
    task.locks = true := by
  cases task with
  | createVenue => rfl
  | createInsert => rfl
  | _ => cases reserves

theorem locks_of_reservesKey {venue : String} (reserves : reservesKey venue task = true) :
    task.locks = true := by
  cases task with
  | createInsert => rfl
  | _ => cases reserves

theorem Promised.lower (promised : Promised userId limits db task) (lower : Lower userId db db') :
    Promised userId limits db' task := by
  refine ⟨fun reserves limited => ?_, fun venue reserves limited => ?_, promised.surplus⟩
  · exact lt_of_le_of_lt (Int.ofNat_le.mpr lower.1) (promised.portfolio reserves limited)
  · exact lt_of_le_of_lt (Int.ofNat_le.mpr (lower.2 venue)) (promised.keys venue reserves limited)

/-- A request without the lock has not been promised any room. -/
theorem Promised.unlocked (promised : Promised userId limits db task) (unlocked : task.locks = false)
    (db' : WalletDb) : Promised userId limits db' task := by
  refine ⟨fun reserves => ?_, fun venue reserves => ?_, promised.surplus⟩
  · rw [locks_of_reservesPortfolio reserves] at unlocked
    cases unlocked
  · rw [locks_of_reservesKey reserves] at unlocked
    cases unlocked

/-- A task that has been promised nothing. -/
theorem promised_of_not_locks (unlocked : task.locks = false)
    (other : ∀ surplus, task ≠ .enforceWrite surplus) : Promised userId limits db task := by
  refine ⟨fun reserves => ?_, fun venue reserves => ?_, fun surplus same => absurd same (other surplus)⟩
  · rw [locks_of_reservesPortfolio reserves] at unlocked
    cases unlocked
  · rw [locks_of_reservesKey reserves] at unlocked
    cases unlocked

theorem lockedOnce_of_not_locks (unlocked : task.locks = false) (task' : WalletTask) :
    LockedOnce task task' ∧ LockedOnce task' task := by
  refine ⟨fun both => ?_, fun both => ?_⟩
  · rw [both.1] at unlocked
    cases unlocked
  · rw [both.2] at unlocked
    cases unlocked

/-! ## A write that there is room for -/

/-- One more row is within a limit that leaves room for it and for what others have been promised. -/
theorem within_of_room {count count' reserved : Nat} {limit : ℤ}
    (grown : count' ≤ count + 1) (room : (count + reserved : ℤ) < limit) :
    (count' + reserved : ℤ) ≤ limit := by
  omega

theorem RoomFor.portfolio {id : Nat} {set : WalletSet}
    (room : RoomFor userId limits db others id set)
    (limited : isUnlimited limits.portfolioLimit = false) :
    portfolioCount (db.set id set) userId ≤ portfolioCount db userId ∨
      (portfolioCount (db.set id set) userId + others.countP reservesPortfolio : ℤ) ≤
        limits.portfolioLimit := by
  refine (countP_set db id set (countsInPortfolio userId)).imp_right fun grown => ?_
  obtain ⟨grown, row, member, here, before, after⟩ := grown
  exact within_of_room grown ((room row member here).1 before after limited)

theorem RoomFor.keys {id : Nat} {set : WalletSet} (room : RoomFor userId limits db others id set)
    (limited : isUnlimited limits.exchangeKeysPerVenue = false) (venue : String) :
    exchangeKeysForVenue (db.set id set) userId venue ≤ exchangeKeysForVenue db userId venue ∨
      (exchangeKeysForVenue (db.set id set) userId venue + others.countP (reservesKey venue) : ℤ) ≤
        limits.exchangeKeysPerVenue := by
  refine (countP_set db id set (isKeyFor userId venue)).imp_right fun grown => ?_
  obtain ⟨grown, row, member, here, before, after⟩ := grown
  exact within_of_room grown ((room row member here).2 venue before after limited)

theorem RoomFor.keepsCaps {id : Nat} {set : WalletSet}
    (room : RoomFor userId limits db others id set) :
    KeepsCaps userId limits db (db.set id set) := by
  refine ⟨fun limited within => ?_, fun venue limited within => ?_⟩
  · rcases room.portfolio limited with lower | fits
    · exact le_trans (Int.ofNat_le.mpr lower) within
    · omega
  · rcases room.keys limited venue with lower | fits
    · exact le_trans (Int.ofNat_le.mpr lower) within
    · omega

/-- What a creation has been promised is left to it. -/
theorem RoomFor.promised {id : Nat} {set : WalletSet}
    (room : RoomFor userId limits db others id set) {other : WalletTask} (member : other ∈ others)
    (promised : Promised userId limits db other) : Promised userId limits (db.set id set) other := by
  refine ⟨fun reserves limited => ?_, fun venue reserves limited => ?_, promised.surplus⟩
  · have own := promised.portfolio reserves limited
    have counted : 0 < others.countP reservesPortfolio :=
      List.countP_pos_iff.mpr ⟨other, member, reserves⟩
    rcases room.portfolio limited with lower | fits
    · exact lt_of_le_of_lt (Int.ofNat_le.mpr lower) own
    · omega
  · have own := promised.keys venue reserves limited
    have counted : 0 < others.countP (reservesKey venue) :=
      List.countP_pos_iff.mpr ⟨other, member, reserves⟩
    rcases room.keys limited venue with lower | fits
    · exact lt_of_le_of_lt (Int.ofNat_le.mpr lower) own
    · omega

/-! ## A creation -/

theorem insert_keepsCaps {w : NewWallet} (promised : Promised userId limits db (.createInsert w))
    (now : ℤ) : KeepsCaps userId limits db (insertWallet userId db w now) := by
  refine ⟨fun limited within => ?_, fun venue limited within => ?_⟩
  · cases counts : inPortfolio w.purpose with
    | true =>
        have room := promised.portfolio counts limited
        have grown : portfolioCount (insertWallet userId db w now) userId ≤
            portfolioCount db userId + 1 := Table.countP_insert_le _ _ _
        omega
    | false =>
        have same : portfolioCount (insertWallet userId db w now) userId =
            portfolioCount db userId := by
          refine Table.countP_insert_of_not _ ?_
          simp only [countsInPortfolio, counts, Bool.decide_and]
          simp
        rw [same]
        exact within
  · cases counts : reservesKey venue (.createInsert w) with
    | true =>
        have room := promised.keys venue counts limited
        have grown : exchangeKeysForVenue (insertWallet userId db w now) userId venue ≤
            exchangeKeysForVenue db userId venue + 1 := Table.countP_insert_le _ _ _
        omega
    | false =>
        have same : exchangeKeysForVenue (insertWallet userId db w now) userId venue =
            exchangeKeysForVenue db userId venue := by
          refine Table.countP_insert_of_not _ ?_
          simp only [reservesKey] at counts
          simpa [isKeyFor] using counts
        rw [same]
        exact within

/-! ## One statement -/

/-- What a statement does: it leaves the wallets, takes from the numbers, inserts what a creation
has been promised, or writes what there is room for. -/
inductive Effect (userId : Nat) (limits : WalletLimits) (db : WalletDb) (others : List WalletTask) :
    WalletTask → WalletDb → Prop
  | lower {task : WalletTask} {db' : WalletDb} (lower : Lower userId db db') :
      Effect userId limits db others task db'
  | insert (w : NewWallet) (now : ℤ) :
      Effect userId limits db others (.createInsert w) (insertWallet userId db w now)
  | write {task : WalletTask} (id : Nat) (set : WalletSet)
      (room : RoomFor userId limits db others id set) :
      Effect userId limits db others task (db.set id set)

variable {input : WalletInput} {rest : Option WalletTask}

theorem effect_of_next (roomy : Roomy userId limits db others input task)
    (promised : Promised userId limits db task)
    (moved : (walletProgram userId limits).next db others input task = some (db', rest)) :
    Effect userId limits db others task db' := by
  have stay : ∀ {later : Option WalletTask}, some (db, later) = some (db', rest) →
      Effect userId limits db others task db' := by
    intro later same
    obtain ⟨rfl, -⟩ := Prod.mk.inj (Option.some.inj same)
    exact .lower (Lower.refl userId db)
  cases input with
  | fail => exact stay moved
  | statement now tradeSupported =>
      cases task with
      | createLock w =>
          dsimp only [walletProgram, nextStatement] at moved
          split at moved
          · cases moved
          · exact stay moved
      | createInsert w =>
          obtain ⟨rfl, -⟩ := Prod.mk.inj (Option.some.inj moved)
          exact .insert w now
      | archiveWrite loaded =>
          obtain ⟨rfl, -⟩ := Prod.mk.inj (Option.some.inj moved)
          exact .lower ((lowers_archived loaded).lower db loaded.id)
      | unarchiveWrite loaded =>
          obtain ⟨rfl, -⟩ := Prod.mk.inj (Option.some.inj moved)
          exact .write _ _ roomy
      | updateWrite loaded purpose =>
          obtain ⟨rfl, -⟩ := Prod.mk.inj (Option.some.inj moved)
          exact .write _ _ roomy
      | enforceWrite surplus =>
          obtain ⟨rfl, -⟩ := Prod.mk.inj (Option.some.inj moved)
          exact .lower (lower_enforced (promised.surplus surplus rfl) db)
      | createPortfolio => exact stay moved
      | createVenue => exact stay moved
      | archiveRead => exact stay moved
      | unarchiveRead => exact stay moved
      | unarchiveCheck => exact stay moved
      | updateRead => exact stay moved
      | updateCheck => exact stay moved
      | enforceRead => exact stay moved

theorem Effect.keepsCaps (effect : Effect userId limits db others task db')
    (promised : Promised userId limits db task) : KeepsCaps userId limits db db' := by
  cases effect with
  | lower lower => exact lower.keepsCaps
  | insert w now => exact insert_keepsCaps promised now
  | write id set room => exact room.keepsCaps

/-- The others keep what they have been promised. -/
theorem Effect.promised (effect : Effect userId limits db others task db') {other : WalletTask}
    (member : other ∈ others) (promised : Promised userId limits db other)
    (once : LockedOnce task other) : Promised userId limits db' other := by
  cases effect with
  | lower lower => exact promised.lower lower
  | insert w now =>
      have unlocked : other.locks = false := by
        cases locks : other.locks with
        | false => rfl
        | true => exact absurd ⟨rfl, locks⟩ once
      exact promised.unlocked unlocked _
  | write id set room => exact room.promised member promised

/-! ## The tasks that remain -/

theorem not_full {purpose : WalletPurpose} (free : portfolioFull userId limits db purpose = false)
    (counts : inPortfolio purpose = true) (limited : isUnlimited limits.portfolioLimit = false) :
    (portfolioCount db userId : ℤ) < limits.portfolioLimit := by
  unfold portfolioFull at free
  rw [counts, limited] at free
  simpa using free

theorem not_venueFull {w : NewWallet} {venue : String} (free : venueFull userId limits db w = false)
    (reserves : reservesKey venue (.createInsert w) = true)
    (limited : isUnlimited limits.exchangeKeysPerVenue = false) :
    (exchangeKeysForVenue db userId venue : ℤ) < limits.exchangeKeysPerVenue := by
  simp only [reservesKey, Bool.decide_and, Bool.and_eq_true, decide_eq_true_eq] at reserves
  obtain ⟨exchange, rfl⟩ := reserves
  unfold venueFull at free
  rw [exchange, limited] at free
  simpa using free

/-- A task that holds the lock goes on to one that holds it. -/
theorem LockedOnce.goOn {task' other : WalletTask} (once : LockedOnce task other)
    (held : task.locks = true) : LockedOnce task' other ∧ LockedOnce other task' :=
  ⟨fun both => once ⟨held, both.2⟩, fun both => once ⟨held, both.1⟩⟩

/-- A task that remains, with what it has been promised. -/
def GoesOn (userId : Nat) (limits : WalletLimits) (db : WalletDb) (others : List WalletTask)
    (task : WalletTask) : Prop :=
  Promised userId limits db task ∧ ∀ other ∈ others, LockedOnce task other ∧ LockedOnce other task

theorem goesOn_of_not_locks (unlocked : task.locks = false)
    (other : ∀ surplus, task ≠ .enforceWrite surplus) : GoesOn userId limits db others task :=
  ⟨promised_of_not_locks unlocked other, fun t _ => lockedOnce_of_not_locks unlocked t⟩

/-- A creation takes the lock when nobody has it. -/
theorem goesOn_createPortfolio (w : NewWallet) (free : others.any WalletTask.locks = false) :
    GoesOn userId limits db others (.createPortfolio w) := by
  refine ⟨⟨fun reserves => ?_, fun venue reserves => ?_, fun surplus same => ?_⟩, fun t member => ?_⟩
  · cases reserves
  · cases reserves
  · cases same
  · have unlocked : t.locks = false := by
      simpa using List.any_eq_false.mp free t member
    exact (lockedOnce_of_not_locks unlocked _).symm

theorem goesOn_createVenue {w : NewWallet} (free : portfolioFull userId limits db w.purpose = false)
    (once : ∀ other ∈ others, LockedOnce (.createPortfolio w) other) :
    GoesOn userId limits db others (.createVenue w) := by
  refine ⟨⟨not_full free, fun venue reserves => ?_, fun surplus same => ?_⟩, fun t member => ?_⟩
  · cases reserves
  · cases same
  · exact (once t member).goOn rfl

theorem goesOn_createInsert {w : NewWallet} (free : venueFull userId limits db w = false)
    (promised : Promised userId limits db (.createVenue w))
    (once : ∀ other ∈ others, LockedOnce (.createVenue w) other) :
    GoesOn userId limits db others (.createInsert w) := by
  refine ⟨⟨promised.portfolio, fun venue => not_venueFull free, fun surplus same => ?_⟩,
    fun t member => ?_⟩
  · cases same
  · exact (once t member).goOn rfl

theorem goesOn_enforceWrite :
    GoesOn userId limits db others (.enforceWrite (surplusWallets userId limits db)) := by
  refine ⟨⟨fun reserves => ?_, fun venue reserves => ?_, fun surplus same w member => ?_⟩,
    fun t _ => lockedOnce_of_not_locks rfl t⟩
  · cases reserves
  · cases reserves
  · obtain rfl := WalletTask.enforceWrite.inj same
    exact active_of_surplus member

theorem goesOn_of_next {task' : WalletTask} (promised : Promised userId limits db task)
    (once : ∀ other ∈ others, LockedOnce task other)
    (moved : (walletProgram userId limits).next db others input task = some (db', some task')) :
    GoesOn userId limits db' others task' := by
  cases input with
  | fail => cases moved
  | statement now tradeSupported =>
      cases task with
      | createLock w =>
          dsimp only [walletProgram, nextStatement] at moved
          split at moved
          · cases moved
          case isFalse free =>
            obtain ⟨rfl, same⟩ := Prod.mk.inj (Option.some.inj moved)
            obtain rfl := Option.some.inj same
            exact goesOn_createPortfolio w (Bool.eq_false_iff.mpr free)
      | createPortfolio w =>
          obtain ⟨rfl, same⟩ := Prod.mk.inj (Option.some.inj moved)
          split at same
          · cases same
          case isFalse free =>
            obtain rfl := Option.some.inj same
            exact goesOn_createVenue (Bool.eq_false_iff.mpr free) once
      | createVenue w =>
          obtain ⟨rfl, same⟩ := Prod.mk.inj (Option.some.inj moved)
          split at same
          · cases same
          case isFalse free =>
            obtain rfl := Option.some.inj same
            exact goesOn_createInsert (Bool.eq_false_iff.mpr free) promised once
      | archiveRead id =>
          obtain ⟨rfl, same⟩ := Prod.mk.inj (Option.some.inj moved)
          obtain ⟨loaded, -, rfl⟩ := Option.map_eq_some_iff.mp same
          exact goesOn_of_not_locks rfl fun _ same => by cases same
      | unarchiveRead id =>
          obtain ⟨rfl, same⟩ := Prod.mk.inj (Option.some.inj moved)
          obtain ⟨loaded, -, rfl⟩ := Option.map_eq_some_iff.mp same
          exact goesOn_of_not_locks rfl fun _ same => by cases same
      | unarchiveCheck loaded =>
          obtain ⟨rfl, same⟩ := Prod.mk.inj (Option.some.inj moved)
          split at same
          · cases same
          · obtain rfl := Option.some.inj same
            exact goesOn_of_not_locks rfl fun _ same => by cases same
      | updateRead id purpose =>
          obtain ⟨rfl, same⟩ := Prod.mk.inj (Option.some.inj moved)
          obtain ⟨loaded, -, same⟩ := Option.bind_eq_some_iff.mp same
          obtain ⟨purpose', -, rfl⟩ := Option.map_eq_some_iff.mp same
          exact goesOn_of_not_locks rfl fun _ same => by cases same
      | updateCheck loaded purpose =>
          obtain ⟨rfl, same⟩ := Prod.mk.inj (Option.some.inj moved)
          split at same
          · cases same
          · obtain rfl := Option.some.inj same
            exact goesOn_of_not_locks rfl fun _ same => by cases same
      | enforceRead =>
          obtain ⟨rfl, same⟩ := Prod.mk.inj (Option.some.inj moved)
          obtain rfl := Option.some.inj same
          exact goesOn_enforceWrite
      | createInsert => cases moved
      | archiveWrite => cases moved
      | unarchiveWrite => cases moved
      | updateWrite => cases moved
      | enforceWrite => cases moved

/-! ## Runs -/

theorem wallets_starts : Program.Starts (walletProgram userId limits) (fun _ => True)
    (Promised userId limits) LockedOnce := by
  intro db request task others _ _ started
  obtain rfl := Option.some.inj started
  have goesOn : GoesOn userId limits db others (firstTask request) := by
    cases request with
    | create => exact goesOn_of_not_locks rfl fun _ same => by cases same
    | archive => exact goesOn_of_not_locks rfl fun _ same => by cases same
    | unarchive => exact goesOn_of_not_locks rfl fun _ same => by cases same
    | update => exact goesOn_of_not_locks rfl fun _ same => by cases same
    | enforce => exact goesOn_of_not_locks rfl fun _ same => by cases same
  exact goesOn

theorem wallets_keeps : Program.Keeps (walletProgram userId limits) (Roomy userId limits)
    (fun _ => True) (Promised userId limits) LockedOnce := by
  intro db others input task db' rest roomy _ promised inFlight moved
  have effect := effect_of_next roomy promised moved
  refine ⟨trivial, fun other member => ?_, fun task' remains => ?_⟩
  · exact effect.promised member (inFlight other member).1 (inFlight other member).2.1
  · subst remains
    exact goesOn_of_next promised (fun other member => (inFlight other member).2.1) moved

theorem alwaysKeepsCaps_roomy (userId : Nat) (limits : WalletLimits) :
    AlwaysKeepsCaps userId limits (Roomy userId limits) := by
  intro db s run event s' admitted stepped
  have sound := Program.run_satisfies wallets_starts wallets_keeps run
    (Pool.satisfies_start trivial)
  rcases Program.step_store admitted stepped with same | statement
  · rw [same]
    exact (Lower.refl userId s.store).keepsCaps
  · obtain ⟨txn, member, k, input, rest, roomy, moved⟩ := statement
    have promised := sound.tasks txn member
    exact (effect_of_next roomy promised moved).keepsCaps promised

/-! ## A key too many, and a wallet too many -/

/-- A binance key of user 1. -/
def binanceKey (id : Nat) (purpose : WalletPurpose) (isArchived : Bool) : StoredWallet where
  id
  userId := 1
  walletType := .exchange
  typeValue := "binance"
  purpose
  isArchived
  createdAt := id

/-- Two keys, one of them archived. -/
def oneArchived : WalletDb where
  wallets := Table.empty.insertAll [binanceKey 0 .portfolio false, binanceKey 1 .portfolio true]
  seq := 2

/-- Two keys, one of them for trading only. -/
def oneScreener : WalletDb where
  wallets := Table.empty.insertAll [binanceKey 0 .portfolio false, binanceKey 1 .screener false]
  seq := 2

abbrev WalletEvent := Event WalletRequest WalletInput

def statements (n : Nat) : List WalletEvent :=
  List.replicate n (.advance 0 (.statement 0 true))

/-- The portfolio wallets, and the binance keys, after some statements of a request. -/
def numbers (limits : WalletLimits) (db : WalletDb) (request : WalletRequest) (n : Nat) :
    Option (Nat × Nat) :=
  (exec (walletProgram 1 limits).step { store := db } (.begin_ 0 request :: statements n)).map
    fun s => (portfolioCount s.store 1, exchangeKeysForVenue s.store 1 "binance")

/-- A statement of a request takes a number above its limit. -/
theorem not_keepsCaps {limits : WalletLimits} {db : WalletDb} {request : WalletRequest} {n : Nat}
    {before after : Nat × Nat} (ran : numbers limits db request n = some before)
    (last : numbers limits db request (n + 1) = some after)
    (exceeded : (isUnlimited limits.portfolioLimit = false ∧ before.1 ≤ limits.portfolioLimit ∧
        limits.portfolioLimit < after.1) ∨
      (isUnlimited limits.exchangeKeysPerVenue = false ∧ before.2 ≤ limits.exchangeKeysPerVenue ∧
        limits.exchangeKeysPerVenue < after.2)) :
    ¬AlwaysKeepsCaps 1 limits fun _ _ _ _ => True := by
  intro always
  obtain ⟨s, reached, rfl⟩ := Option.map_eq_some_iff.mp ran
  obtain ⟨s', executed, rfl⟩ := Option.map_eq_some_iff.mp last
  have split : (.begin_ 0 request :: statements (n + 1) : List WalletEvent) =
      (.begin_ 0 request :: statements n) ++ [.advance 0 (.statement 0 true)] := by
    unfold statements
    rw [List.replicate_succ', List.cons_append]
  rw [split, exec_append, reached, Option.bind_some] at executed
  obtain ⟨_, stepped, same⟩ := Option.bind_eq_some_iff.mp executed
  obtain rfl := Option.some.inj same
  have capped := always db s (Program.run_of_exec reached) _ _ (Program.guard_true _ _) stepped
  rcases exceeded with ⟨limited, within, above⟩ | ⟨limited, within, above⟩
  · exact absurd (capped.1 limited within) (not_le.mpr above)
  · exact absurd (capped.2 "binance" limited within) (not_le.mpr above)

/-- An unarchived key is a second one for its venue, and a trading key that becomes a portfolio
wallet as well is a second one in the portfolio. -/
theorem alwaysKeepsCaps_broken :
    (¬AlwaysKeepsCaps 1 ⟨10, 1⟩ fun _ _ _ _ => True) ∧
      ¬AlwaysKeepsCaps 1 ⟨1, -1⟩ fun _ _ _ _ => True := by
  have checked : numbers ⟨10, 1⟩ oneArchived (.unarchive 1) 2 = some (1, 1) := by decide +kernel
  have unarchived : numbers ⟨10, 1⟩ oneArchived (.unarchive 1) 3 = some (2, 2) := by
    decide +kernel
  have allowed : numbers ⟨1, -1⟩ oneScreener (.update 1 (some .both)) 2 = some (1, 2) := by
    decide +kernel
  have repurposed : numbers ⟨1, -1⟩ oneScreener (.update 1 (some .both)) 3 = some (2, 2) := by
    decide +kernel
  exact ⟨not_keepsCaps checked unarchived (Or.inr (by decide)),
    not_keepsCaps allowed repurposed (Or.inl (by decide))⟩

end Wallets

end Avalant
