import Avalant.Lib.Run
import Mathlib.Algebra.Order.Field.Rat
import Mathlib.Algebra.Order.Ring.Unbundled.Rat
import Mathlib.Data.Rat.Floor
import Mathlib.Tactic.Linarith

/-!
`login_throttle`, for one login that is not empty: its keys in Redis beside the tuple in memory.

In Redis the failures and the block are two keys with their own expiries. The tuple in memory is
overwritten as a whole, so a failure that begins a new count there drops the block. The counts are
the same all along, and so are the blocks, as long as no failure begins a new count during a block.

Answers are whole seconds: Redis rounds the time that remains, and memory cuts it. Their callers take
0 for no block, so the last second of a block lets a login through.
-/

namespace Avalant

namespace LoginThrottle

open Transition

def failTtlS : ℚ := 1800
def cooldownBaseS : ℕ := 30
def cooldownCapS : ℕ := 3600
def freeFails : ℕ := 3

/-- `_cooldown_for`. -/
def cooldownFor (failures : ℕ) : ℕ :=
  if failures ≤ freeFails then 0
  else min (cooldownBaseS * 2 ^ (failures - freeFails - 1)) cooldownCapS

theorem cooldownFor_mono {n m : ℕ} (le : n ≤ m) : cooldownFor n ≤ cooldownFor m := by
  unfold cooldownFor
  by_cases free : n ≤ freeFails
  · rw [if_pos free]
    exact Nat.zero_le _
  · have counted : ¬m ≤ freeFails := by omega
    rw [if_neg free, if_neg counted]
    have power : 2 ^ (n - freeFails - 1) ≤ 2 ^ (m - freeFails - 1) :=
      Nat.pow_le_pow_right (by decide) (by omega)
    exact min_le_min_right _ (Nat.mul_le_mul_left _ power)

theorem cooldownFor_eq_zero_iff {n : ℕ} : cooldownFor n = 0 ↔ n ≤ freeFails := by
  unfold cooldownFor
  split
  case isTrue free => simp [free]
  case isFalse counted =>
    have base : 0 < cooldownBaseS * 2 ^ (n - freeFails - 1) :=
      Nat.mul_pos (by decide) (Nat.pow_pos (by decide))
    have cap : 0 < cooldownCapS := by decide
    omega

/-! ## Redis -/

/-- A value that expires. -/
structure Expiring (α : Type) where
  value : α
  expiresAt : ℚ
deriving DecidableEq

/-- A value unless it has expired. -/
def live {α : Type} (now : ℚ) (entry : Option (Expiring α)) : Option (Expiring α) :=
  entry.filter fun e => now < e.expiresAt

/-- The `login_fail` and the `login_block` key. -/
structure RedisKeys where
  fail : Option (Expiring ℕ) := none
  block : Option (Expiring ℕ) := none
deriving DecidableEq

namespace RedisKeys

/-- `TTL` of the block: the seconds that remain, rounded, and -2 without the key. -/
def ttl (keys : RedisKeys) (now : ℚ) : ℤ :=
  (live now keys.block).elim (-2) fun e => (e.expiresAt - now + 1 / 2).floor

def check (keys : RedisKeys) (now : ℚ) : Option ℤ :=
  if 0 < keys.ttl now then some (keys.ttl now) else none

/-- What `INCR` answers. -/
def failures (keys : RedisKeys) (now : ℚ) : ℕ :=
  (live now keys.fail).elim 0 Expiring.value + 1

def registerFailure (keys : RedisKeys) (now : ℚ) : RedisKeys × ℕ :=
  let n := keys.failures now
  let cooldown := cooldownFor n
  ({ fail := some ⟨n, now + failTtlS⟩
     block := if 0 < cooldown then some ⟨n, now + cooldown⟩ else keys.block }, cooldown)

def clear : RedisKeys := {}

end RedisKeys

/-! ## Memory -/

/-- `(fail_count, fail_ttl_expires_at, block_until_ts)`. -/
structure Rec where
  failCount : ℕ
  failTtlExpiresAt : ℚ
  blockUntil : ℚ
deriving DecidableEq

/-- The entry of `_fallback`. -/
structure Memory where
  entry : Option Rec := none
deriving DecidableEq

namespace Memory

/-- `check`: `int(block_until - now)` of a block that is in force. -/
def check (memory : Memory) (now : ℚ) : Option ℤ :=
  memory.entry.bind fun r => if now < r.blockUntil then some (r.blockUntil - now).floor else none

def failures (memory : Memory) (now : ℚ) : ℕ :=
  match memory.entry with
  | some r => if now < r.failTtlExpiresAt then r.failCount + 1 else 1
  | none => 1

def registerFailure (memory : Memory) (now : ℚ) : Memory × ℕ :=
  let n := memory.failures now
  let cooldown := cooldownFor n
  (⟨some ⟨n, now + failTtlS, if cooldown ≠ 0 then now + cooldown else 0⟩⟩, cooldown)

def clear : Memory := {}

end Memory

/-- `if retry_after:`, by which the callers refuse a login. -/
def refuses (retryAfter : Option ℤ) : Bool :=
  retryAfter.any fun seconds => seconds ≠ 0

/-! ## Both on the same calls -/

structure State where
  now : ℚ := 0
  redis : RedisKeys := {}
  memory : Memory := {}
  /-- The ends of the cooldowns that were announced since the last `clear`. -/
  announced : List ℚ := []
deriving DecidableEq

inductive Act where
  | tick (now : ℚ)
  | check
  | registerFailure
  | clear

def announce (now : ℚ) (cooldown : ℕ) : List ℚ :=
  if 0 < cooldown then [now + cooldown] else []

def step (s : State) : Act → Option State
  | .tick now => if s.now ≤ now then some { s with now := now } else none
  | .check => some s
  | .registerFailure =>
      let redis := s.redis.registerFailure s.now
      let memory := s.memory.registerFailure s.now
      some { s with
        redis := redis.1
        memory := memory.1
        announced := s.announced ++ announce s.now redis.2 ++ announce s.now memory.2 }
  | .clear => some { s with redis := RedisKeys.clear, memory := Memory.clear, announced := [] }

/-- The seconds to wait are the same up to rounding. -/
def SameSeconds (s : State) : Prop :=
  (s.memory.check s.now).getD 0 ≤ (s.redis.check s.now).getD 0 ∧
    (s.redis.check s.now).getD 0 ≤ (s.memory.check s.now).getD 0 + 1

/-- The answers to the next call are the same, and an announced cooldown is kept to its end. -/
structure NeverForgives (s : State) : Prop where
  seconds : SameSeconds s
  answer : refuses (s.redis.check s.now) = refuses (s.memory.check s.now)
  cooldown : (s.redis.registerFailure s.now).2 = (s.memory.registerFailure s.now).2
  blocked : ∀ deadline ∈ s.announced, s.now < deadline →
    refuses (s.redis.check s.now) = true ∧ refuses (s.memory.check s.now) = true

/-- A block is in force that ends within a second. -/
def LastSecond (s : State) : Prop :=
  ∃ e ∈ live s.now s.redis.block, e.expiresAt < s.now + 1

/-- No failure is registered when the count has expired and a block is in force. -/
def CountOutlivesBlock (s : State) : Act → Prop
  | .registerFailure => live s.now s.redis.fail = none → live s.now s.redis.block = none
  | _ => True

instance (s : State) (act : Act) : Decidable (CountOutlivesBlock s act) := by
  unfold CountOutlivesBlock
  split <;> infer_instance

/-! ## The invariant -/

/-- The count of a tuple. -/
def Memory.fail (memory : Memory) : Option (Expiring ℕ) :=
  memory.entry.map fun r => ⟨r.failCount, r.failTtlExpiresAt⟩

/-- The block of a tuple. -/
def Memory.block (memory : Memory) : Option (Expiring ℕ) :=
  memory.entry.map fun r => ⟨r.failCount, r.blockUntil⟩

structure Inv (s : State) : Prop where
  now_nonneg : 0 ≤ s.now
  fail : live s.now s.redis.fail = live s.now s.memory.fail
  block : live s.now s.redis.block = live s.now s.memory.block
  /-- A block ends at its cooldown after the last failure, which the count remembers. -/
  ends : ∀ f ∈ live s.now s.redis.fail, f.expiresAt - failTtlS ≤ s.now ∧
    ∀ e ∈ live s.now s.redis.block, e.expiresAt ≤ f.expiresAt - failTtlS + cooldownFor f.value
  kept : ∀ deadline ∈ s.announced, s.now < deadline →
    ∃ e ∈ live s.now s.redis.block, deadline ≤ e.expiresAt

theorem mem_live {α : Type} {now : ℚ} {entry : Option (Expiring α)} {e : Expiring α} :
    e ∈ live now entry ↔ e ∈ entry ∧ now < e.expiresAt := by
  unfold live
  rw [Option.mem_filter_iff, decide_eq_true_eq]

theorem live_live {α : Type} {now later : ℚ} (le : now ≤ later) (entry : Option (Expiring α)) :
    live later (live now entry) = live later entry := by
  ext e
  rw [← Option.mem_def, ← Option.mem_def, mem_live, mem_live, mem_live]
  constructor
  · rintro ⟨⟨stored, -⟩, alive⟩
    exact ⟨stored, alive⟩
  · rintro ⟨stored, alive⟩
    exact ⟨⟨stored, le.trans_lt alive⟩, alive⟩

theorem live_of_lt {α : Type} {now : ℚ} {e : Expiring α} (alive : now < e.expiresAt) :
    live now (some e) = some e :=
  Option.filter_some_pos (by simpa using alive)

theorem live_of_le {α : Type} {now : ℚ} {e : Expiring α} (dead : e.expiresAt ≤ now) :
    live now (some e) = none :=
  Option.filter_some_neg (by simpa using dead)

theorem redis_check (keys : RedisKeys) (now : ℚ) :
    (keys.check now).getD 0 =
        (live now keys.block).elim 0 (fun e => (e.expiresAt - now + 1 / 2).floor) ∧
      (refuses (keys.check now) = true ↔ ∃ e ∈ live now keys.block, now + 1 / 2 ≤ e.expiresAt) := by
  unfold RedisKeys.check
  cases found : live now keys.block with
  | none =>
      have known : keys.ttl now = -2 := by
        unfold RedisKeys.ttl
        rw [found]
        rfl
      rw [known]
      simp [refuses]
  | some e =>
      have known : keys.ttl now = (e.expiresAt - now + 1 / 2).floor := by
        unfold RedisKeys.ttl
        rw [found]
        rfl
      rw [known]
      have alive : now < e.expiresAt := (mem_live.mp found).2
      have long : 0 < (e.expiresAt - now + 1 / 2).floor ↔ now + 1 / 2 ≤ e.expiresAt := by
        have whole : 1 ≤ (e.expiresAt - now + 1 / 2).floor ↔ 1 ≤ e.expiresAt - now + 1 / 2 := by
          exact_mod_cast Rat.le_floor_iff (x := 1)
        constructor
        · intro positive
          linarith [whole.mp positive]
        · intro left
          exact whole.mpr (by linarith)
      have nonneg : 0 ≤ (e.expiresAt - now + 1 / 2).floor :=
        Rat.le_floor_iff.mpr (by push_cast; linarith)
      by_cases positive : 0 < (e.expiresAt - now + 1 / 2).floor
      · rw [if_pos positive]
        exact ⟨rfl, fun _ => ⟨e, rfl, long.mp positive⟩, fun _ => decide_eq_true positive.ne'⟩
      · rw [if_neg positive]
        refine ⟨(le_antisymm (not_lt.mp positive) nonneg).symm, fun refused => ?_, ?_⟩
        · cases refused
        · rintro ⟨e', own, lasts⟩
          cases own
          exact absurd (long.mpr lasts) positive

theorem memory_check (memory : Memory) (now : ℚ) :
    (memory.check now).getD 0 =
        (live now memory.block).elim 0 (fun e => (e.expiresAt - now).floor) ∧
      (refuses (memory.check now) = true ↔ ∃ e ∈ live now memory.block, now + 1 ≤ e.expiresAt) := by
  unfold Memory.check Memory.block
  cases memory.entry with
  | none => simp [refuses, live]
  | some r =>
      rw [Option.bind_some, Option.map_some]
      by_cases blocked : now < r.blockUntil
      · rw [if_pos blocked, live_of_lt blocked]
        refine ⟨rfl, ?_⟩
        have long : (r.blockUntil - now).floor ≠ 0 ↔ now + 1 ≤ r.blockUntil := by
          have nonneg : 0 ≤ (r.blockUntil - now).floor :=
            Rat.le_floor_iff.mpr (by push_cast; linarith)
          have whole : 1 ≤ (r.blockUntil - now).floor ↔ 1 ≤ r.blockUntil - now := by
            exact_mod_cast Rat.le_floor_iff (x := 1)
          constructor
          · intro nonzero
            linarith [whole.mp (by omega)]
          · intro left
            have positive := whole.mpr (by linarith)
            omega
        simp [refuses, long]
      · rw [if_neg blocked, live_of_le (not_lt.mp blocked)]
        simp [refuses]

theorem memory_failures (memory : Memory) (now : ℚ) :
    memory.failures now = (live now memory.fail).elim 0 Expiring.value + 1 := by
  unfold Memory.failures Memory.fail
  cases memory.entry with
  | none => rfl
  | some r =>
      rw [Option.map_some]
      dsimp only
      split
      case isTrue counted =>
        rw [live_of_lt counted]
        rfl
      case isFalse ended =>
        rw [live_of_le (not_lt.mp ended)]
        rfl

variable {s s' : State}

theorem Inv.failures (inv : Inv s) : s.redis.failures s.now = s.memory.failures s.now := by
  unfold RedisKeys.failures
  rw [memory_failures, inv.fail]

/-- Rounding and cutting the same time. -/
theorem Inv.sameSeconds (inv : Inv s) : SameSeconds s := by
  unfold SameSeconds
  rw [(redis_check s.redis s.now).1, (memory_check s.memory s.now).1, ← inv.block]
  cases live s.now s.redis.block with
  | none => exact ⟨le_rfl, Int.one_nonneg⟩
  | some e =>
      refine ⟨Rat.floor_monotone (by linarith), ?_⟩
      have below := Rat.lt_floor_add_one (e.expiresAt - s.now)
      push_cast at below
      have cut : (e.expiresAt - s.now + 1 / 2).floor < (e.expiresAt - s.now).floor + 1 + 1 :=
        Rat.floor_lt_iff.mpr (by push_cast; linarith)
      exact Int.lt_add_one_iff.mp cut

theorem Inv.neverForgives (inv : Inv s) (early : ¬LastSecond s) : NeverForgives s := by
  have second : ∀ e ∈ live s.now s.redis.block, s.now + 1 ≤ e.expiresAt := fun e blocking =>
    not_lt.mp fun ends => early ⟨e, blocking, ends⟩
  have redis : ∀ e ∈ live s.now s.redis.block, refuses (s.redis.check s.now) = true :=
    fun e blocking => (redis_check _ _).2.mpr ⟨e, blocking, by linarith [second e blocking]⟩
  have memory : ∀ e ∈ live s.now s.redis.block, refuses (s.memory.check s.now) = true := by
    intro e blocking
    refine (memory_check _ _).2.mpr ⟨e, ?_, second e blocking⟩
    rw [← inv.block]
    exact blocking
  refine ⟨inv.sameSeconds, ?_, congrArg cooldownFor inv.failures, fun deadline member before => ?_⟩
  · cases blocked : live s.now s.redis.block with
    | some e => rw [redis e blocked, memory e blocked]
    | none =>
        have open_ : refuses (s.redis.check s.now) = false := by
          refine Bool.eq_false_iff.mpr fun refused => ?_
          obtain ⟨e, blocking, -⟩ := (redis_check _ _).2.mp refused
          rw [blocked] at blocking
          cases blocking
        have open' : refuses (s.memory.check s.now) = false := by
          refine Bool.eq_false_iff.mpr fun refused => ?_
          obtain ⟨e, blocking, -⟩ := (memory_check _ _).2.mp refused
          rw [← inv.block, blocked] at blocking
          cases blocking
        rw [open_, open']
  · obtain ⟨e, blocking, -⟩ := inv.kept deadline member before
    exact ⟨redis e blocking, memory e blocking⟩

theorem initial_inv : Inv {} where
  now_nonneg := le_rfl
  fail := rfl
  block := rfl
  ends := by
    intro f member
    cases member
  kept := by
    intro deadline member
    cases member

theorem Inv.tick (inv : Inv s) {now : ℚ} (later : s.now ≤ now) : Inv { s with now := now } where
  now_nonneg := inv.now_nonneg.trans later
  fail := by
    dsimp only
    rw [← live_live later, inv.fail, live_live later]
  block := by
    dsimp only
    rw [← live_live later, inv.block, live_live later]
  ends := by
    intro f member
    obtain ⟨stored, alive⟩ := mem_live.mp member
    obtain ⟨began, due⟩ := inv.ends f (mem_live.mpr ⟨stored, later.trans_lt alive⟩)
    refine ⟨began.trans later, fun e blocking => ?_⟩
    obtain ⟨set, lasting⟩ := mem_live.mp blocking
    exact due e (mem_live.mpr ⟨set, later.trans_lt lasting⟩)
  kept := by
    intro deadline member before
    obtain ⟨e, blocking, lasts⟩ := inv.kept deadline member (later.trans_lt before)
    exact ⟨e, mem_live.mpr ⟨(mem_live.mp blocking).1, before.trans_le lasts⟩, lasts⟩

theorem Inv.clear (inv : Inv s) :
    Inv { s with redis := RedisKeys.clear, memory := Memory.clear, announced := [] } where
  now_nonneg := inv.now_nonneg
  fail := rfl
  block := rfl
  ends := by
    intro f member
    cases member
  kept := by
    intro deadline member
    cases member

/-- Where a failure goes on with a count, the block in force is one of the count; where it begins a
count, none is in force. Either way a block ends by the cooldown of the failure. -/
theorem Inv.block_ends (inv : Inv s) (counts : CountOutlivesBlock s .registerFailure)
    {e : Expiring ℕ} (blocking : e ∈ live s.now s.redis.block) :
    3 < s.redis.failures s.now ∧ e.expiresAt ≤ s.now + cooldownFor (s.redis.failures s.now) := by
  have alive := (mem_live.mp blocking).2
  unfold RedisKeys.failures
  cases counted : live s.now s.redis.fail with
  | none =>
      have none_blocking := counts counted
      rw [none_blocking] at blocking
      cases blocking
  | some f =>
      obtain ⟨began, due⟩ := inv.ends f counted
      have ends := due e blocking
      change 3 < f.value + 1 ∧ e.expiresAt ≤ s.now + cooldownFor (f.value + 1)
      have longer : (cooldownFor f.value : ℚ) ≤ cooldownFor (f.value + 1) := by
        exact_mod_cast cooldownFor_mono (Nat.le_succ f.value)
      refine ⟨?_, by linarith⟩
      by_contra few
      have free : cooldownFor f.value = 0 :=
        cooldownFor_eq_zero_iff.mpr (show f.value ≤ 3 by omega)
      rw [free] at ends
      push_cast at ends
      linarith

/-- The block in force after a failure. -/
def blockAfter (s : State) : Option (Expiring ℕ) :=
  if 0 < cooldownFor (s.redis.failures s.now) then
    some ⟨s.redis.failures s.now, s.now + cooldownFor (s.redis.failures s.now)⟩
  else none

theorem lt_add_cooldown (now : ℚ) {cooldown : ℕ} (long : 0 < cooldown) : now < now + cooldown :=
  lt_add_of_pos_right _ (by exact_mod_cast long)

theorem Inv.redis_block_after (inv : Inv s) (counts : CountOutlivesBlock s .registerFailure) :
    live s.now (s.redis.registerFailure s.now).1.block = blockAfter s := by
  unfold RedisKeys.registerFailure blockAfter
  dsimp only
  split
  case isTrue long => exact live_of_lt (lt_add_cooldown _ long)
  case isFalse free =>
    refine Option.eq_none_iff_forall_not_mem.mpr fun e blocking => ?_
    have counted := (inv.block_ends counts blocking).1
    have few := cooldownFor_eq_zero_iff.mp (Nat.eq_zero_of_not_pos free)
    exact absurd few (Nat.not_le.mpr counted)

theorem Inv.memory_block_after (inv : Inv s) :
    live s.now (s.memory.registerFailure s.now).1.block = blockAfter s := by
  unfold Memory.registerFailure Memory.block blockAfter
  dsimp only
  rw [← inv.failures, Option.map_some]
  by_cases long : 0 < cooldownFor (s.redis.failures s.now)
  · rw [if_pos long, if_pos long.ne']
    exact live_of_lt (lt_add_cooldown _ long)
  · rw [if_neg long, if_neg (not_not.mpr (Nat.eq_zero_of_not_pos long))]
    exact live_of_le inv.now_nonneg

/-- The count after a failure. -/
theorem fail_after (n : ℕ) (now : ℚ) :
    live now (some ⟨n, now + failTtlS⟩) = some (⟨n, now + failTtlS⟩ : Expiring ℕ) :=
  live_of_lt (lt_add_of_pos_right _ (by decide))

theorem mem_announce {now deadline : ℚ} {cooldown : ℕ} (member : deadline ∈ announce now cooldown) :
    0 < cooldown ∧ deadline = now + cooldown := by
  unfold announce at member
  split at member
  case isTrue long => exact ⟨long, List.mem_singleton.mp member⟩
  case isFalse => cases member

/-- A cooldown announced before or by a failure ends by the block that is in force after it. -/
theorem Inv.announced_after (inv : Inv s) (counts : CountOutlivesBlock s .registerFailure)
    {deadline : ℚ} (before : s.now < deadline)
    (member : deadline ∈ s.announced ++ announce s.now (s.redis.registerFailure s.now).2 ++
      announce s.now (s.memory.registerFailure s.now).2) :
    0 < cooldownFor (s.redis.failures s.now) ∧
      deadline ≤ s.now + cooldownFor (s.redis.failures s.now) := by
  rcases List.mem_append.mp member with earlier | own
  · rcases List.mem_append.mp earlier with earlier | own
    · obtain ⟨e, blocking, lasts⟩ := inv.kept deadline earlier before
      obtain ⟨counted, ends⟩ := inv.block_ends counts blocking
      refine ⟨Nat.pos_of_ne_zero fun free => ?_, lasts.trans ends⟩
      exact absurd (cooldownFor_eq_zero_iff.mp free) (Nat.not_le.mpr counted)
    · obtain ⟨long, due⟩ := mem_announce own
      exact ⟨long, due.le⟩
  · obtain ⟨long, due⟩ := mem_announce own
    have same : (s.memory.registerFailure s.now).2 = cooldownFor (s.redis.failures s.now) :=
      congrArg cooldownFor inv.failures.symm
    rw [same] at long due
    exact ⟨long, due.le⟩

theorem Inv.registerFailure (inv : Inv s) (counts : CountOutlivesBlock s .registerFailure) :
    Inv { s with
      redis := (s.redis.registerFailure s.now).1
      memory := (s.memory.registerFailure s.now).1
      announced := s.announced ++ announce s.now (s.redis.registerFailure s.now).2 ++
        announce s.now (s.memory.registerFailure s.now).2 } where
  now_nonneg := inv.now_nonneg
  fail := by
    change live s.now (some ⟨s.redis.failures s.now, _⟩) =
      live s.now (some ⟨s.memory.failures s.now, _⟩)
    rw [inv.failures]
  block := (inv.redis_block_after counts).trans inv.memory_block_after.symm
  ends := by
    intro f counted
    have counted := (fail_after (s.redis.failures s.now) s.now).symm.trans counted
    cases counted
    refine ⟨by simp, fun e blocking => ?_⟩
    have blocking := (inv.redis_block_after counts).symm.trans blocking
    unfold blockAfter at blocking
    split at blocking
    case isTrue =>
      cases blocking
      simp
    case isFalse => cases blocking
  kept := by
    intro deadline member before
    obtain ⟨long, due⟩ := inv.announced_after counts before member
    refine ⟨⟨s.redis.failures s.now, s.now + cooldownFor (s.redis.failures s.now)⟩, ?_, due⟩
    exact (inv.redis_block_after counts).trans (if_pos long)

theorem preserves_inv : Preserves step CountOutlivesBlock Inv := by
  intro s act s' inv counts stepped
  cases act with
  | tick now =>
      unfold step at stepped
      dsimp only at stepped
      split at stepped
      case isTrue later =>
        cases stepped
        exact inv.tick later
      case isFalse => cases stepped
  | check =>
      cases stepped
      exact inv
  | registerFailure =>
      cases stepped
      exact inv.registerFailure counts
  | clear =>
      cases stepped
      exact inv.clear

/-- Where no failure begins a new count during a block, the two backends agree and no cooldown is cut
short, but for the last second of a block. -/
theorem neverForgives_of_run (run : Run step CountOutlivesBlock {} s) (early : ¬LastSecond s) :
    NeverForgives s :=
  (run.invariant preserves_inv initial_inv).neverForgives early

/-- In the last second of a block the answers differ by their rounding: memory lets the login
through, and Redis does in the second half. -/
theorem lastSecond_of_run (run : Run step CountOutlivesBlock {} s) {e : Expiring ℕ}
    (blocking : e ∈ live s.now s.redis.block) (ends : e.expiresAt < s.now + 1) :
    SameSeconds s ∧ (s.redis.registerFailure s.now).2 = (s.memory.registerFailure s.now).2 ∧
      refuses (s.memory.check s.now) = false ∧
      (refuses (s.redis.check s.now) = true ↔ s.now + 1 / 2 ≤ e.expiresAt) := by
  have inv := run.invariant preserves_inv initial_inv
  refine ⟨inv.sameSeconds, congrArg cooldownFor inv.failures, ?_, ?_⟩
  · refine Bool.eq_false_iff.mpr fun refused => ?_
    obtain ⟨e', blocking', lasts⟩ := (memory_check _ _).2.mp refused
    rw [← inv.block, Option.mem_def.mp blocking] at blocking'
    obtain rfl := Option.some.inj blocking'
    linarith
  · rw [(redis_check _ _).2, Option.mem_def.mp blocking]
    simp

/-- The condition is exact: a failure that begins a count during a block that Redis still answers
for sets the backends apart. -/
theorem disagree_of_new_count (inv : Inv s) (expired : live s.now s.redis.fail = none)
    {e : Expiring ℕ} (blocking : e ∈ live s.now s.redis.block) (lasts : s.now + 1 / 2 ≤ e.expiresAt)
    (stepped : step s .registerFailure = some s') : ¬NeverForgives s' := by
  intro agree
  cases stepped
  have first : s.redis.failures s.now = 1 := by
    unfold RedisKeys.failures
    rw [expired]
    rfl
  have stays : (s.redis.registerFailure s.now).1.block = s.redis.block := by
    unfold RedisKeys.registerFailure
    dsimp only
    rw [first]
    exact if_neg (by decide)
  have dropped : live s.now (s.memory.registerFailure s.now).1.block = none := by
    unfold Memory.registerFailure Memory.block
    dsimp only
    rw [← inv.failures, first]
    exact live_of_le inv.now_nonneg
  have refused : refuses ((s.redis.registerFailure s.now).1.check s.now) = true := by
    refine (redis_check _ _).2.mpr ⟨e, ?_, lasts⟩
    rw [stays]
    exact blocking
  have both : refuses ((s.memory.registerFailure s.now).1.check s.now) = true :=
    agree.answer.symm.trans refused
  obtain ⟨e', blocking', -⟩ := (memory_check _ _).2.mp both
  rw [dropped] at blocking'
  cases blocking'

/-! ## Runs -/

/-- A block of 120 s, a failure in it, and the block that follows. -/
def oneCount : List Act :=
  [.tick 1000] ++ List.replicate 6 .registerFailure ++ [.tick 1100, .check, .registerFailure, .check]

theorem neverForgives_of_oneCount :
    ∃ s, s.redis.check s.now = some 240 ∧ s.memory.check s.now = some 240 ∧ NeverForgives s := by
  have blocked : (execGuarded step CountOutlivesBlock {} oneCount).map
      (fun s => (s.redis.check s.now, s.memory.check s.now,
        (live s.now s.redis.block).all fun e => decide (s.now + 1 ≤ e.expiresAt))) =
      some (some 240, some 240, true) := by decide +kernel
  obtain ⟨s, executed, checks⟩ := Option.map_eq_some_iff.mp blocked
  obtain ⟨redis, rest⟩ := Prod.mk.inj checks
  obtain ⟨memory, long⟩ := Prod.mk.inj rest
  have early : ¬LastSecond s := by
    rintro ⟨e, blocking, ends⟩
    rw [Option.mem_def.mp blocking] at long
    exact absurd ends (not_lt.mpr (of_decide_eq_true long))
  exact ⟨s, redis, memory, neverForgives_of_run (Run.of_execGuarded executed) early⟩

/-- Ten failures, the last of which announces 1920 s, and one more when the count has expired. -/
def newCount : List Act :=
  [.tick 1000] ++ List.replicate 10 .registerFailure ++ [.tick 2850, .registerFailure]

/-- Eleven failures, the last of which announces an hour, and four more when the count has expired:
the fourth sets a block of 30 s in Redis as well. -/
def shorterBlock : List Act :=
  [.tick 1000] ++ List.replicate 11 .registerFailure ++ [.tick 2850] ++
    List.replicate 4 .registerFailure ++ [.tick 2900]

/-- The answers of `check` at the end of a run. -/
def answers (acts : List Act) : Option (Option ℤ × Option ℤ) :=
  (exec step {} acts).map fun s => (s.redis.check s.now, s.memory.check s.now)

theorem throttle_forgives :
    answers newCount = some (some 70, none) ∧ answers shorterBlock = some (none, none) ∧
      ∃ s, Run step (fun _ _ => True) {} s ∧ ¬NeverForgives s := by
  have apart : answers newCount = some (some 70, none) := by decide +kernel
  refine ⟨apart, by decide +kernel, ?_⟩
  obtain ⟨s, executed, checks⟩ := Option.map_eq_some_iff.mp apart
  refine ⟨s, Run.of_exec executed, fun agree => ?_⟩
  have seconds := agree.seconds.2
  rw [(Prod.mk.inj checks).1, (Prod.mk.inj checks).2] at seconds
  exact absurd seconds (by decide)

end LoginThrottle

end Avalant
