import Avalant.Lib.Replica
import Avalant.Lib.Run
import Mathlib.Algebra.Order.Ring.Rat
import Mathlib.Tactic.Linarith

/-!
The merger of the fetcher, `_merge_loop` in `orderbook_ws_master.py`.

Each worker replaces its own file of books from time to time. The merger goes
round the files: it looks at the time of a file, opens it if that time is not the
one it knows, and keeps what it has read under the time that it looked at, though
the file may have been replaced in between. Then it merges what it keeps into
`books.json`. Every step of it interleaves with the writes of the workers.

The mirror in Redis, which is written from the same merged books, is left out.
-/

namespace Avalant

open Transition Replica

namespace Fetcher

def staleServeMaxS : ℚ := 30

/-- An entry of a file of books; an entry that is no object has no `ts`. -/
structure BookEntry where
  ts : Option ℚ
  data : String
  deriving DecidableEq

abbrev Books := Store String BookEntry

structure BooksFile where
  mtime : ℚ
  /-- None if it does not parse as an object. -/
  body : Option Books

/-- Where the merger is. -/
inductive MergePhase
  /-- Before the test of the loop. -/
  | top
  | looking (owned : List String)
  /-- It has looked at the time of the file, and opens it next. -/
  | opening (ex : String) (mt : ℚ) (owned : List String)
  | merging
  /-- Before `os.replace`. -/
  | replacing (merged : Books) (mergedAt : ℚ)
  /-- In `stop_evt.wait`. -/
  | waiting
  | ended
  deriving DecidableEq

structure Merger where
  now : ℚ := 0
  stopEvt : Bool := false
  /-- `books.<ex>.json`. -/
  files : String → Option BooksFile := fun _ => none
  perExData : Store String Books := ∅
  /-- The keys of `per_ex_data` in the order of the dictionary. -/
  perExOrder : List String := []
  perExMtime : String → Option ℚ := fun _ => none
  phase : MergePhase := .top
  /-- `books.json`. -/
  books : Option Books := none
  /-- For the statements: when the books of `books.json` were merged. -/
  mergedAt : ℚ := 0
  /-- For the statements: the files that the workers have written. -/
  written : String → List BooksFile := fun _ => []

inductive MergeAct
  | pass (seconds : ℚ)
  /-- The worker of the exchange replaces its file. -/
  | write (ex : String) (file : BooksFile)
  | remove (ex : String)
  | stop
  /-- Writing `books.json` fails. -/
  | fail
  /-- The merger goes on. -/
  | go

/-- `entry.get("ts", 0)` is not before the cutoff. -/
def BookEntry.fresh (entry : BookEntry) (cutoff : ℚ) : Bool := cutoff ≤ entry.ts.getD 0

namespace Merger

/-- The entries that are written into the merged books, a later one over an earlier. -/
def rows (m : Merger) (cutoff : ℚ) : List (String × BookEntry) :=
  m.perExOrder.flatMap fun ex => (m.perExData.lookup ex).toList.flatMap fun data =>
    (data.entries.filter fun e => e.2.fresh cutoff).map fun e => (e.1, e.2)

def merged (m : Merger) : Books := upsert ∅ (m.rows (m.now - staleServeMaxS))

/-- `per_ex_data[ex] = data; per_ex_mtime[ex] = mt`. -/
def keep (m : Merger) (ex : String) (data : Books) (mt : ℚ) : Merger :=
  { m with
    perExData := m.perExData.insert ex data
    perExOrder := if ex ∈ m.perExOrder then m.perExOrder else m.perExOrder ++ [ex]
    perExMtime := fun ex' => if ex' = ex then some mt else m.perExMtime ex' }

/-- The next step of `_merge_loop`. -/
def next (owned : List String) (m : Merger) : Option Merger :=
  match m.phase with
  | .top => some { m with phase := if m.stopEvt then .ended else .looking owned }
  | .looking [] => some { m with phase := .merging }
  | .looking (ex :: rest) =>
      match m.files ex with
      | none => some { m with phase := .looking rest }
      | some file =>
          if m.perExMtime ex = some file.mtime then some { m with phase := .looking rest }
          else some { m with phase := .opening ex file.mtime rest }
  | .opening ex mt rest =>
      match (m.files ex).bind BooksFile.body with
      | none => some { m with phase := .looking rest }
      | some data => some { m.keep ex data mt with phase := .looking rest }
  | .merging => some { m with phase := .replacing m.merged m.now }
  | .replacing merged mergedAt =>
      some { m with phase := .waiting, books := some merged, mergedAt := mergedAt }
  | .waiting => some { m with phase := .top }
  | .ended => none

def step (owned : List String) (m : Merger) : MergeAct → Option Merger
  | .pass seconds => if 0 ≤ seconds then some { m with now := m.now + seconds } else none
  | .write ex file =>
      some { m with
        files := fun ex' => if ex' = ex then some file else m.files ex'
        written := fun ex' => if ex' = ex then m.written ex ++ [file] else m.written ex' }
  | .remove ex => some { m with files := fun ex' => if ex' = ex then none else m.files ex' }
  | .stop => some { m with stopEvt := true }
  | .fail =>
      match m.phase with
      | .replacing _ _ => some { m with phase := .waiting }
      | _ => none
  | .go => m.next owned

/-! ## What the merger keeps -/

variable {owned : List String} {m m' : Merger}

/-- A file of a worker is later than those it wrote before. -/
def Later (m : Merger) : MergeAct → Prop
  | .write ex file => ∀ file' ∈ m.written ex, file'.mtime < file.mtime
  | _ => True

instance (m : Merger) : (a : MergeAct) → Decidable (Later m a)
  | .write ex file => inferInstanceAs (Decidable (∀ file' ∈ m.written ex, file'.mtime < file.mtime))
  | .pass _ | .remove _ | .stop | .fail | .go => inferInstanceAs (Decidable True)

/-- What is kept of an exchange is in its file, if the times agree. -/
structure Coherent (owned : List String) (m : Merger) : Prop where
  current : ∀ ex file, m.files ex = some file →
    file ∈ m.written ex ∧ ∀ file' ∈ m.written ex, file'.mtime ≤ file.mtime
  cached : ∀ ex mt, m.perExMtime ex = some mt →
    (∃ file ∈ m.written ex, file.mtime = mt) ∧
      ∀ file, m.files ex = some file → file.mtime = mt →
        ∃ data, file.body = some data ∧ m.perExData.lookup ex = some data
  ahead : ∀ rest, m.phase = .looking rest → ∀ ex ∈ rest, ex ∈ owned
  seen : ∀ ex mt rest, m.phase = .opening ex mt rest →
    (∃ file ∈ m.written ex, file.mtime = mt) ∧ ∀ ex' ∈ ex :: rest, ex' ∈ owned
  kept : ∀ ex data, m.perExData.lookup ex = some data →
    ex ∈ m.perExOrder ∧ ex ∈ owned ∧ ∃ file ∈ m.written ex, file.body = some data

/-- Opening the file of an exchange. -/
theorem Coherent.keep (coherent : Coherent owned m) {ex : String} {mt : ℚ} {rest : List String}
    (phase : m.phase = .opening ex mt rest) {file : BooksFile} {data : Books}
    (here : m.files ex = some file) (body : file.body = some data) :
    Coherent owned { m.keep ex data mt with phase := .looking rest } := by
  obtain ⟨seen, inside⟩ := coherent.seen ex mt rest phase
  refine ⟨coherent.current, fun ex' mt' known => ?_, fun rest' same ex' member => ?_,
    fun ex' mt' rest' no => (by cases no), fun ex' data' known => ?_⟩
  · replace known : (if ex' = ex then some mt else m.perExMtime ex') = some mt' := known
    by_cases mine : ex' = ex
    · subst mine
      rw [if_pos rfl] at known
      cases known
      refine ⟨seen, fun file' there _ => ⟨data, ?_, AList.lookup_insert _⟩⟩
      rw [show m.files ex' = some file' from there] at here
      cases here
      exact body
    · rw [if_neg mine] at known
      obtain ⟨old, same⟩ := coherent.cached ex' mt' known
      refine ⟨old, fun file' there time => ?_⟩
      obtain ⟨data', body', lookup⟩ := same file' there time
      exact ⟨data', body', (AList.lookup_insert_ne mine).trans lookup⟩
  · cases same
    exact inside ex' (List.mem_cons_of_mem ex member)
  · have listed : ∀ ex'', ex'' = ex ∨ ex'' ∈ m.perExOrder →
        ex'' ∈ if ex ∈ m.perExOrder then m.perExOrder else m.perExOrder ++ [ex] := by
      intro ex'' given
      split
      case isTrue member =>
        rcases given with rfl | old
        · exact member
        · exact old
      case isFalse =>
        rcases given with rfl | old
        · exact List.mem_append_right _ List.mem_cons_self
        · exact List.mem_append_left _ old
    by_cases mine : ex' = ex
    · subst mine
      have same := (AList.lookup_insert (m.perExData)).symm.trans known
      cases same
      exact ⟨listed ex' (.inl rfl), inside ex' List.mem_cons_self, file,
        (coherent.current ex' file here).1, body⟩
    · obtain ⟨old, there, from_⟩ :=
        coherent.kept ex' data' ((AList.lookup_insert_ne mine).symm.trans known)
      exact ⟨listed ex' (.inr old), there, from_⟩

theorem Coherent.next (coherent : Coherent owned m) (stepped : m.next owned = some m') :
    Coherent owned m' := by
  unfold Merger.next at stepped
  split at stepped
  case h_1 =>
    cases stepped
    refine ⟨coherent.current, coherent.cached, fun rest phase ex member => ?_,
      fun ex mt rest phase => ?_, coherent.kept⟩
    · replace phase : (if _ then _ else _) = MergePhase.looking rest := phase
      split at phase
      · cases phase
      · cases phase
        exact member
    · replace phase : (if _ then _ else _) = MergePhase.opening ex mt rest := phase
      split at phase <;> cases phase
  case h_2 =>
    cases stepped
    exact ⟨coherent.current, coherent.cached, fun _ no => (by cases no),
      fun _ _ _ no => (by cases no), coherent.kept⟩
  case h_3 ex rest phase =>
    have inside := coherent.ahead _ phase
    have skipped : Coherent owned { m with phase := .looking rest } := by
      refine ⟨coherent.current, coherent.cached, fun rest' same ex' member => ?_,
        fun _ _ _ no => (by cases no), coherent.kept⟩
      cases same
      exact inside ex' (List.mem_cons_of_mem ex member)
    split at stepped
    case h_1 =>
      cases stepped
      exact skipped
    case h_2 file here =>
      split at stepped
      case isTrue =>
        cases stepped
        exact skipped
      case isFalse =>
        cases stepped
        refine ⟨coherent.current, coherent.cached, fun _ no => (by cases no),
          fun ex' mt' rest' same => ?_, coherent.kept⟩
        cases same
        exact ⟨⟨file, (coherent.current ex file here).1, rfl⟩, inside⟩
  case h_4 ex mt rest phase =>
    split at stepped
    case h_1 =>
      cases stepped
      obtain ⟨-, inside⟩ := coherent.seen ex mt rest phase
      refine ⟨coherent.current, coherent.cached, fun rest' same ex' member => ?_,
        fun _ _ _ no => (by cases no), coherent.kept⟩
      cases same
      exact inside ex' (List.mem_cons_of_mem ex member)
    case h_2 data read =>
      cases stepped
      obtain ⟨file, here, body⟩ := Option.bind_eq_some_iff.mp read
      exact coherent.keep phase here body
  case h_5 | h_6 | h_7 =>
    cases stepped
    exact ⟨coherent.current, coherent.cached, fun _ no => (by cases no),
      fun _ _ _ no => (by cases no), coherent.kept⟩
  case h_8 => cases stepped

theorem Coherent.write (coherent : Coherent owned m) {ex : String} {file : BooksFile}
    (later : ∀ file' ∈ m.written ex, file'.mtime < file.mtime) :
    Coherent owned { m with
      files := fun ex' => if ex' = ex then some file else m.files ex'
      written := fun ex' => if ex' = ex then m.written ex ++ [file] else m.written ex' } := by
  have grown : ∀ ex' file', file' ∈ m.written ex' →
      file' ∈ if ex' = ex then m.written ex ++ [file] else m.written ex' := by
    intro ex' file' member
    split
    case isTrue same =>
      subst same
      exact List.mem_append_left _ member
    case isFalse => exact member
  refine ⟨fun ex' file' here => ?_, fun ex' mt known => ?_, coherent.ahead, fun ex' mt rest phase => ?_,
    fun ex' data known => ?_⟩
  · dsimp only at here ⊢
    by_cases mine : ex' = ex
    · rw [if_pos mine] at here
      cases here
      rw [if_pos mine]
      refine ⟨List.mem_append_right _ List.mem_cons_self, fun file' member => ?_⟩
      rcases List.mem_append.mp member with old | new
      · exact (later file' old).le
      · rw [List.mem_singleton.mp new]
    · rw [if_neg mine] at here ⊢
      exact coherent.current ex' file' here
  · obtain ⟨⟨old, written, time⟩, same⟩ := coherent.cached ex' mt known
    refine ⟨⟨old, grown ex' old written, time⟩, fun file' here stamp => ?_⟩
    dsimp only at here
    by_cases mine : ex' = ex
    · -- the new file is not of a time that was seen
      subst mine
      rw [if_pos rfl] at here
      cases here
      exact absurd (time.trans stamp.symm) (later old written).ne
    · rw [if_neg mine] at here
      exact same file' here stamp
  · obtain ⟨⟨old, written, time⟩, inside⟩ := coherent.seen ex' mt rest phase
    exact ⟨⟨old, grown ex' old written, time⟩, inside⟩
  · obtain ⟨listed, inside, old, written, body⟩ := coherent.kept ex' data known
    exact ⟨listed, inside, old, grown ex' old written, body⟩

theorem Coherent.preserved : Preserves (step owned) Later (Coherent owned) := by
  intro m a m' coherent later stepped
  cases a with
  | pass seconds =>
      replace stepped : (if _ then _ else _) = some m' := stepped
      split at stepped
      · cases stepped
        exact ⟨coherent.current, coherent.cached, coherent.ahead, coherent.seen, coherent.kept⟩
      · cases stepped
  | write ex file =>
      cases stepped
      exact coherent.write later
  | remove ex =>
      cases stepped
      have before : ∀ ex' file, (if ex' = ex then none else m.files ex') = some file →
          m.files ex' = some file := by
        intro ex' file here
        split at here
        · cases here
        · exact here
      exact ⟨fun ex' file here => coherent.current ex' file (before ex' file here),
        fun ex' mt known => ⟨(coherent.cached ex' mt known).1, fun file here =>
          (coherent.cached ex' mt known).2 file (before ex' file here)⟩,
        coherent.ahead, coherent.seen, coherent.kept⟩
  | stop =>
      cases stepped
      exact ⟨coherent.current, coherent.cached, coherent.ahead, coherent.seen, coherent.kept⟩
  | fail =>
      unfold Merger.step at stepped
      dsimp only at stepped
      split at stepped
      · cases stepped
        exact ⟨coherent.current, coherent.cached, fun _ no => (by cases no),
          fun _ _ _ no => (by cases no), coherent.kept⟩
      · cases stepped
  | go => exact coherent.next stepped

theorem Coherent.init : Coherent owned {} where
  current ex file here := by cases here
  cached ex mt known := by cases known
  ahead rest phase := by cases phase
  seen ex mt rest phase := by cases phase
  kept ex data known := by cases known

/-! ## What `books.json` has -/

theorem mem_rows {cutoff : ℚ} {key : String} {entry : BookEntry} :
    (key, entry) ∈ m.rows cutoff ↔ ∃ ex ∈ m.perExOrder, ∃ data,
      m.perExData.lookup ex = some data ∧ data.lookup key = some entry ∧ entry.fresh cutoff := by
  unfold rows
  constructor
  · intro member
    obtain ⟨ex, listed, inside⟩ := List.mem_flatMap.mp member
    obtain ⟨data, kept, inside⟩ := List.mem_flatMap.mp inside
    obtain ⟨e, selected, same⟩ := List.mem_map.mp inside
    obtain ⟨there, fresh⟩ := List.mem_filter.mp selected
    cases same
    exact ⟨ex, listed, data, Option.mem_toList.mp kept, AList.mem_lookup_iff.mpr there, fresh⟩
  · rintro ⟨ex, listed, data, kept, known, fresh⟩
    refine List.mem_flatMap.mpr ⟨ex, listed, List.mem_flatMap.mpr
      ⟨data, Option.mem_toList.mpr kept, List.mem_map.mpr ⟨⟨key, entry⟩, ?_, rfl⟩⟩⟩
    exact List.mem_filter.mpr ⟨AList.mem_lookup_iff.mp known, fresh⟩

theorem lookup_rows (cutoff : ℚ) (key : String) :
    (upsert ∅ (m.rows cutoff)).lookup key = lastOf (m.rows cutoff) key := by
  rw [lookup_upsert, AList.lookup_empty, Option.or_none]

/-- Every entry is from a file of an owned exchange, and was fresh when it was merged. -/
def FromFiles (owned : List String) (m : Merger) (books : Books) (mergedAt : ℚ) : Prop :=
  ∀ key entry, books.lookup key = some entry → entry.fresh (mergedAt - staleServeMaxS) ∧
    ∃ ex ∈ owned, ∃ file ∈ m.written ex, ∃ data, file.body = some data ∧
      data.lookup key = some entry

theorem Coherent.fromFiles (coherent : Coherent owned m) (cutoff : ℚ) :
    FromFiles owned m (upsert ∅ (m.rows (cutoff - staleServeMaxS))) cutoff := by
  intro key entry known
  rw [lookup_rows] at known
  obtain ⟨ex, -, data, kept, there, fresh⟩ := mem_rows.mp (mem_of_lastOf known)
  obtain ⟨-, inside, file, written, body⟩ := coherent.kept ex data kept
  exact ⟨fresh, ex, inside, file, written, data, body, there⟩

/-- The merged books, before and after they are written. -/
structure Served (owned : List String) (m : Merger) : Prop where
  pending : ∀ merged mergedAt, m.phase = .replacing merged mergedAt →
    mergedAt ≤ m.now ∧ FromFiles owned m merged mergedAt
  served : ∀ books, m.books = some books →
    m.mergedAt ≤ m.now ∧ FromFiles owned m books m.mergedAt

/-- A step that writes no books. -/
theorem Served.of_eq (served : Served owned m) (now : m.now ≤ m'.now)
    (written : ∀ ex, ∀ file ∈ m.written ex, file ∈ m'.written ex) (books : m'.books = m.books)
    (mergedAt : m'.mergedAt = m.mergedAt)
    (phase : ∀ merged at_, m'.phase = .replacing merged at_ → m.phase = .replacing merged at_) :
    Served owned m' := by
  have grown : ∀ {books : Books} {at_ : ℚ}, FromFiles owned m books at_ →
      FromFiles owned m' books at_ := by
    intro books at_ from_ key entry known
    obtain ⟨fresh, ex, inside, file, old, data⟩ := from_ key entry known
    exact ⟨fresh, ex, inside, file, written ex file old, data⟩
  refine ⟨fun merged at_ same => ?_, fun books' same => ?_⟩
  · obtain ⟨past, from_⟩ := served.pending merged at_ (phase merged at_ same)
    exact ⟨past.trans now, grown from_⟩
  · rw [books] at same
    rw [mergedAt]
    obtain ⟨past, from_⟩ := served.served books' same
    exact ⟨past.trans now, grown from_⟩

theorem Served.next (served : Served owned m) (coherent : Coherent owned m)
    (stepped : m.next owned = some m') : Served owned m' := by
  unfold Merger.next at stepped
  split at stepped
  case h_1 =>
    cases stepped
    refine served.of_eq (le_refl _) (fun _ _ => id) rfl rfl fun _ _ phase => ?_
    replace phase : (if _ then _ else _) = MergePhase.replacing _ _ := phase
    split at phase <;> cases phase
  case h_2 | h_7 =>
    cases stepped
    exact served.of_eq (le_refl _) (fun _ _ => id) rfl rfl fun _ _ no => by cases no
  case h_3 ex rest phase =>
    split at stepped
    case h_1 =>
      cases stepped
      exact served.of_eq (le_refl _) (fun _ _ => id) rfl rfl fun _ _ no => by cases no
    case h_2 =>
      split at stepped
      all_goals
        cases stepped
        exact served.of_eq (le_refl _) (fun _ _ => id) rfl rfl fun _ _ no => by cases no
  case h_4 =>
    split at stepped
    all_goals
      cases stepped
      exact served.of_eq (le_refl _) (fun _ _ => id) rfl rfl fun _ _ no => by cases no
  case h_5 =>
    cases stepped
    refine ⟨fun merged at_ same => ?_, served.served⟩
    cases same
    exact ⟨le_refl _, coherent.fromFiles m.now⟩
  case h_6 merged at_ phase =>
    cases stepped
    refine ⟨fun _ _ no => (by cases no), fun books same => ?_⟩
    cases same
    exact served.pending merged at_ phase
  case h_8 => cases stepped

theorem Served.step (coherent : Coherent owned m) (served : Served owned m) {a : MergeAct}
    (stepped : m.step owned a = some m') : Served owned m' := by
  cases a with
  | pass seconds =>
      replace stepped : (if _ then _ else _) = some m' := stepped
      split at stepped
      case isTrue forward =>
        cases stepped
        exact served.of_eq (le_add_of_nonneg_right forward) (fun _ _ => id) rfl rfl
          fun _ _ => id
      case isFalse => cases stepped
  | write ex file =>
      cases stepped
      refine served.of_eq (le_refl _) (fun ex' file' old => ?_) rfl rfl fun _ _ => id
      dsimp only
      split
      case isTrue same =>
        subst same
        exact List.mem_append_left _ old
      case isFalse => exact old
  | remove ex =>
      cases stepped
      exact served.of_eq (le_refl _) (fun _ _ => id) rfl rfl fun _ _ => id
  | stop =>
      cases stepped
      exact served.of_eq (le_refl _) (fun _ _ => id) rfl rfl fun _ _ => id
  | fail =>
      unfold Merger.step at stepped
      dsimp only at stepped
      split at stepped
      · cases stepped
        exact served.of_eq (le_refl _) (fun _ _ => id) rfl rfl fun _ _ no => by cases no
      · cases stepped
  | go => exact served.next coherent stepped

theorem Served.init : Served owned {} where
  pending merged mergedAt phase := by cases phase
  served books same := by cases same

/-- Whatever the workers write and wherever the merger is, `books.json` has entries of their files
only, and none that was more than half a minute old when it was merged. -/
theorem merged_books_sound (run : Run (step owned) Later {} m) {books : Books}
    (served : m.books = some books) :
    m.mergedAt ≤ m.now ∧ FromFiles owned m books m.mergedAt :=
  ((run.invariant (Coherent.preserved.and fun _ _ _ coherent served _ stepped =>
    served.step coherent stepped) ⟨Coherent.init, Served.init⟩).2).served books served

/-- The file is replaced between the look at its time and the read. -/
def replacedWhileOpening : List MergeAct :=
  [.write "okx" ⟨1, some (AList.singleton "okx:BTC" ⟨some 0, "a"⟩)⟩, .go, .go,
    .write "okx" ⟨2, some (AList.singleton "okx:BTC" ⟨some 5, "b"⟩)⟩, .go, .go, .go, .go, .go]

theorem merged_books_sound_replaced : ∃ (m : Merger) (books : Books),
    execGuarded (step ["okx"]) Later {} replacedWhileOpening = some m ∧ m.books = some books ∧
      books.lookup "okx:BTC" = some ⟨some 5, "b"⟩ ∧ FromFiles ["okx"] m books m.mergedAt := by
  have ran : (execGuarded (step ["okx"]) Later {} replacedWhileOpening).map
      (fun m => m.books.map fun books => books.lookup "okx:BTC") =
        some (some (some ⟨some 5, "b"⟩)) := by
    decide +kernel
  obtain ⟨m, executed, view⟩ := Option.map_eq_some_iff.mp ran
  obtain ⟨books, served, known⟩ := Option.map_eq_some_iff.mp view
  exact ⟨m, books, executed, served, known,
    (merged_books_sound (Run.of_execGuarded executed) served).2⟩

/-! ## A round without writes -/

/-- Nobody touches the files, and writing `books.json` does not fail. -/
def Calm (_ : Merger) : MergeAct → Prop
  | .pass _ | .stop | .go => True
  | .write _ _ | .remove _ | .fail => False

instance (m : Merger) : (a : MergeAct) → Decidable (Calm m a)
  | .write _ _ | .remove _ | .fail => inferInstanceAs (Decidable False)
  | .pass _ | .stop | .go => inferInstanceAs (Decidable True)

theorem Calm.later {a : MergeAct} (calm : Calm m a) : Later m a := by
  cases a with
  | write ex file => exact calm.elim
  | pass | remove | stop | fail | go => trivial

/-- What is kept of the exchange is what its file holds. -/
def Caught (m : Merger) (ex : String) : Prop :=
  ∀ file data, m.files ex = some file → file.body = some data → m.perExData.lookup ex = some data

/-- How far the round is. -/
def Progress (owned : List String) (m : Merger) : Prop :=
  match m.phase with
  | .top | .ended => True
  | .looking rest => ∃ done, owned = done ++ rest ∧ ∀ ex ∈ done, m.Caught ex
  | .opening ex _ rest => ∃ done, owned = done ++ ex :: rest ∧ ∀ ex ∈ done, m.Caught ex
  | .merging => ∀ ex ∈ owned, m.Caught ex
  | .replacing merged at_ => (∀ ex ∈ owned, m.Caught ex) ∧ at_ ≤ m.now ∧
      merged = upsert ∅ (m.rows (at_ - staleServeMaxS))
  | .waiting => (∀ ex ∈ owned, m.Caught ex) ∧ m.mergedAt ≤ m.now ∧
      m.books = some (upsert ∅ (m.rows (m.mergedAt - staleServeMaxS)))

/-- One more exchange is caught up with. -/
theorem caught_concat {ex : String} {rest done : List String} (split : owned = done ++ ex :: rest)
    (caught : ∀ ex ∈ done, m.Caught ex) (here : m.Caught ex) :
    ∃ done, owned = done ++ rest ∧ ∀ ex ∈ done, m.Caught ex := by
  refine ⟨done ++ [ex], by rw [split, List.append_assoc]; rfl, fun ex' member => ?_⟩
  rcases List.mem_append.mp member with old | new
  · exact caught ex' old
  · rw [List.mem_singleton.mp new]
    exact here

theorem Caught.keep {ex ex' : String} {mt : ℚ} {file : BooksFile} {data : Books}
    (here : m.files ex = some file) (body : file.body = some data)
    (caught : ex' = ex ∨ m.Caught ex') : (m.keep ex data mt).Caught ex' := by
  intro file' data' there body'
  by_cases mine : ex' = ex
  · subst mine
    rw [show m.files ex' = some file' from there] at here
    cases here
    rw [body'] at body
    cases body
    exact AList.lookup_insert _
  · exact (AList.lookup_insert_ne mine).trans (caught.resolve_left mine file' data' there body')

theorem Progress.next (coherent : Coherent owned m) (progress : Progress owned m)
    (stepped : m.next owned = some m') : Progress owned m' := by
  unfold Progress at progress
  unfold Merger.next at stepped
  split at stepped
  case h_1 =>
    cases stepped
    unfold Progress
    cases m.stopEvt with
    | true => trivial
    | false => exact ⟨[], rfl, fun ex no => by cases no⟩
  case h_2 phase =>
    rw [phase] at progress
    cases stepped
    obtain ⟨done, split, caught⟩ := progress
    rw [List.append_nil] at split
    rw [← split] at caught
    exact caught
  case h_3 ex rest phase =>
    rw [phase] at progress
    obtain ⟨done, parts, caught⟩ := progress
    split at stepped
    case h_1 missing =>
      cases stepped
      refine caught_concat parts caught fun file data here => ?_
      rw [show m.files ex = some file from here] at missing
      cases missing
    case h_2 file here =>
      split at stepped
      case isTrue known =>
        cases stepped
        refine caught_concat parts caught fun file' data there body => ?_
        rw [show m.files ex = some file' from there] at here
        cases here
        obtain ⟨data', body', kept⟩ := (coherent.cached ex _ known).2 file there rfl
        rw [body] at body'
        cases body'
        exact kept
      case isFalse =>
        cases stepped
        exact ⟨done, parts, caught⟩
  case h_4 ex mt rest phase =>
    rw [phase] at progress
    obtain ⟨done, parts, caught⟩ := progress
    split at stepped
    case h_1 missing =>
      cases stepped
      refine caught_concat parts caught fun file data here body => ?_
      rw [show m.files ex = some file from here, Option.bind_some, body] at missing
      cases missing
    case h_2 data read =>
      cases stepped
      obtain ⟨file, here, body⟩ := Option.bind_eq_some_iff.mp read
      have kept : ∀ ex', ex' = ex ∨ m.Caught ex' → (m.keep ex data mt).Caught ex' :=
        fun _ => Caught.keep here body
      exact caught_concat parts (fun ex' old => kept ex' (.inr (caught ex' old)))
        (kept ex (.inl rfl))
  case h_5 phase =>
    rw [phase] at progress
    cases stepped
    exact ⟨progress, le_refl _, rfl⟩
  case h_6 merged at_ phase =>
    rw [phase] at progress
    cases stepped
    obtain ⟨caught, past, same⟩ := progress
    exact ⟨caught, past, congrArg some same⟩
  case h_7 =>
    cases stepped
    trivial
  case h_8 => cases stepped

theorem Progress.step (coherent : Coherent owned m) (progress : Progress owned m) {a : MergeAct}
    (calm : Calm m a) (stepped : m.step owned a = some m') : Progress owned m' := by
  cases a with
  | pass seconds =>
      replace stepped : (if _ then _ else _) = some m' := stepped
      split at stepped
      case isTrue forward =>
        cases stepped
        unfold Progress at progress ⊢
        dsimp only
        cases phase : m.phase with
        | top | ended => trivial
        | looking | opening | merging =>
            rw [phase] at progress
            exact progress
        | replacing | waiting =>
            rw [phase] at progress
            exact ⟨progress.1, progress.2.1.trans (le_add_of_nonneg_right forward), progress.2.2⟩
      case isFalse => cases stepped
  | stop =>
      cases stepped
      exact progress
  | go => exact Progress.next coherent progress stepped
  | write | remove | fail => exact calm.elim

theorem files_calm {a : MergeAct} (calm : Calm m a) (stepped : m.step owned a = some m') :
    m'.files = m.files := by
  cases a with
  | pass seconds =>
      replace stepped : (if _ then _ else _) = some m' := stepped
      split at stepped <;> cases stepped
      rfl
  | stop =>
      cases stepped
      rfl
  | go =>
      replace stepped : m.next owned = some m' := stepped
      unfold Merger.next at stepped
      split at stepped
      case h_3 =>
        split at stepped
        case h_1 =>
          cases stepped
          rfl
        case h_2 =>
          split at stepped <;> cases stepped <;> rfl
      case h_4 =>
        split at stepped <;> cases stepped <;> rfl
      case h_8 => cases stepped
      all_goals
        cases stepped
        rfl
  | write | remove | fail => exact calm.elim

theorem lastOf_eq_some {K R : Type*} [DecidableEq K] {rows : List (K × R)} {k : K} {r : R}
    (member : (k, r) ∈ rows) (only : ∀ r', (k, r') ∈ rows → r' = r) : lastOf rows k = some r := by
  cases last : lastOf rows k with
  | none =>
      have none := List.find?_eq_none.mp (Option.map_eq_none_iff.mp last)
      exact absurd (decide_eq_true rfl) (none (k, r) (List.mem_reverse.mpr member))
  | some r' => rw [only r' (mem_of_lastOf last)]

/-- Once nobody writes, a whole round puts into `books.json` what the file of an exchange says of the
keys that are in no other file, whatever was kept before. -/
theorem merged_books_converge {before : Merger} (run : Run (step owned) Later {} before)
    (top : before.phase = .top) (calm : Run (step owned) Calm before m) (rounded : m.phase = .waiting)
    {ex : String} (inside : ex ∈ owned) {file : BooksFile} (here : before.files ex = some file)
    {data : Books} (body : file.body = some data) {key : String}
    (own : ∀ ex' ∈ owned, ex' ≠ ex →
      ∀ file' ∈ m.written ex', ∀ data', file'.body = some data' → key ∉ data') :
    ∃ books, m.books = some books ∧
      (∀ entry, data.lookup key = some entry → entry.fresh (m.now - staleServeMaxS) →
        books.lookup key = some entry) ∧
      (key ∉ data → key ∉ books) := by
  have coherent := run.invariant Coherent.preserved Coherent.init
  have progress : Progress owned m ∧ m.files = before.files := by
    refine calm.stable (I := Coherent owned) (P := fun m => Progress owned m ∧ m.files = before.files)
      (fun _ _ _ coherent calm stepped => Coherent.preserved coherent calm.later stepped)
      (fun _ _ _ coherent both calm stepped => ⟨both.1.step coherent calm stepped,
        (files_calm calm stepped).trans both.2⟩) coherent ⟨?_, rfl⟩
    unfold Progress
    rw [top]
    trivial
  obtain ⟨progress, files⟩ := progress
  have coherent' := (calm.mono fun _ _ => Calm.later).invariant Coherent.preserved coherent
  unfold Progress at progress
  rw [rounded] at progress
  obtain ⟨caught, past, books⟩ := progress
  have kept : m.perExData.lookup ex = some data :=
    caught ex inside file data (by rw [files]; exact here) body
  -- what is kept of the key is kept of this exchange
  have mine : ∀ {cutoff : ℚ} {entry : BookEntry}, (key, entry) ∈ m.rows cutoff →
      data.lookup key = some entry := by
    intro cutoff entry member
    obtain ⟨ex', -, data', kept', known, -⟩ := mem_rows.mp member
    by_cases same : ex' = ex
    · subst same
      rw [kept] at kept'
      cases kept'
      exact known
    · obtain ⟨-, owns, file', written, body'⟩ := coherent'.kept ex' data' kept'
      exact absurd (AList.lookup_isSome.mp (Option.isSome_of_eq_some known))
        (own ex' owns same file' written data' body')
  refine ⟨_, books, fun entry known fresh => ?_, fun absent there => ?_⟩
  · rw [lookup_rows]
    refine lastOf_eq_some (mem_rows.mpr ⟨ex, (coherent'.kept ex data kept).1, data, kept, known, ?_⟩)
      fun entry' member => ?_
    · exact decide_eq_true ((sub_le_sub_right past _).trans (of_decide_eq_true fresh))
    · have same := mine member
      rw [known] at same
      exact (Option.some.inj same).symm
  · obtain ⟨entry, known⟩ := Option.isSome_iff_exists.mp (AList.lookup_isSome.mpr there)
    rw [lookup_rows] at known
    exact absent (AList.lookup_isSome.mp (Option.isSome_of_eq_some (mine (mem_of_lastOf known))))

/-- A round. -/
def round : List MergeAct := [.pass 10, .go, .go, .go, .go, .go, .go]

theorem merged_books_converge_round : ∃ (before m : Merger) (books : Books),
    execGuarded (step ["okx"]) Later {} replacedWhileOpening = some before ∧
      execGuarded (step ["okx"]) Calm before round = some m ∧ m.books = some books ∧
      books.lookup "okx:BTC" = some ⟨some 5, "b"⟩ := by
  have ran : (execGuarded (step ["okx"]) Later {} replacedWhileOpening).bind (fun before =>
      (execGuarded (step ["okx"]) Calm before round).map fun m =>
        (before.phase, m.phase, m.now, ((before.files "okx").bind BooksFile.body).map fun data =>
          data.lookup "okx:BTC")) = some (.top, .waiting, 10, some (some ⟨some 5, "b"⟩)) := by
    decide +kernel
  obtain ⟨before, first, rest⟩ := Option.bind_eq_some_iff.mp ran
  obtain ⟨m, second, view⟩ := Option.map_eq_some_iff.mp rest
  obtain ⟨top, view⟩ := Prod.mk.inj view
  obtain ⟨rounded, view⟩ := Prod.mk.inj view
  obtain ⟨now, view⟩ := Prod.mk.inj view
  obtain ⟨data, read, known⟩ := Option.map_eq_some_iff.mp view
  obtain ⟨file, here, body⟩ := Option.bind_eq_some_iff.mp read
  obtain ⟨books, served, entries, -⟩ := merged_books_converge (Run.of_execGuarded first) top
    (Run.of_execGuarded second) rounded List.mem_cons_self here body
    fun ex' inside other => absurd (List.mem_singleton.mp inside) other
  refine ⟨before, m, books, first, second, served, entries _ known ?_⟩
  rw [now]
  decide +kernel

end Merger

end Fetcher

end Avalant
