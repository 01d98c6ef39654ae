import Avalant.Subscriptions.Plans
import Avalant.Subscriptions.Quota

/-!
`services/plan_expiry_service.py`: every ten minutes, users whose paid plan is
over are moved to the free plan, and the wallets that are too many for it leave
the portfolio.

The plan that a user is moved to is read from the table; the limits come from
the plans `plan_service` has in its cache, so the two may differ.
-/

namespace Avalant

open Relational

namespace Subscriptions

open Wallets

/-! ## One write to each -/

section

variable {α κ σ γ : Type*} {f : σ → α → σ} (part : κ → σ → γ) (owner : α → κ)

/-- A part that no step owns stays as it is. -/
theorem part_foldl_of_forall {xs : List α} {k : κ}
    (frame : ∀ s x, k ≠ owner x → part k (f s x) = part k s)
    (others : ∀ x ∈ xs, k ≠ owner x) (s : σ) : part k (xs.foldl f s) = part k s := by
  induction xs generalizing s with
  | nil => rfl
  | cons x xs ih =>
      rw [List.foldl_cons, ih (fun y member => others y (List.mem_cons_of_mem x member)),
        frame s x (others x List.mem_cons_self)]

/-- The step that owns a part finds it as it was, and no later one changes it. -/
theorem part_foldl_of_mem {xs : List α} {x : α}
    (frame : ∀ s y, owner x ≠ owner y → part (owner x) (f s y) = part (owner x) s)
    (nodup : (xs.map owner).Nodup) (member : x ∈ xs) (s : σ) :
    ∃ s', part (owner x) s' = part (owner x) s ∧
      part (owner x) (xs.foldl f s) = part (owner x) (f s' x) := by
  induction xs generalizing s with
  | nil => cases member
  | cons y xs ih =>
      obtain ⟨fresh, nodup⟩ := List.nodup_cons.mp nodup
      rw [List.foldl_cons]
      rcases List.mem_cons.mp member with rfl | later
      · refine ⟨s, rfl, part_foldl_of_forall part owner frame (fun z inside same => fresh ?_) _⟩
        rw [same]
        exact List.mem_map_of_mem inside
      · obtain ⟨s', before, after⟩ := ih nodup later (f s y)
        have other : owner x ≠ owner y := fun same =>
          fresh (same ▸ List.mem_map_of_mem later)
        exact ⟨s', before.trans (frame s y other), after⟩

end

/-! ## The pass -/

instance : Keyed PlanUser := ⟨fun user => user.id⟩

structure ExpiryDb where
  users : Table PlanUser
  plans : List PlanRow
  wallets : WalletDb

/-- `plan_expires_at IS NOT NULL AND plan_expires_at < now AND is_admin = false`. -/
def isDue (now : Time) (user : PlanUser) : Bool :=
  (user.planExpiresAt.any fun expires => expires < now) && !user.isAdmin

/-- The first row of the query for the free plan, which has no `ORDER BY`. -/
def activeFreePlan (plans : List PlanRow) : Option PlanRow :=
  plans.find? fun plan => plan.isFree && plan.isActive

/-- Already on the free plan, with an expiry left over. -/
def onFreePlan (free : PlanRow) (user : PlanUser) : Bool :=
  user.planId = some free.id ∧ user.plan = free.slug

def isDowngraded (free : PlanRow) (now : Time) (user : PlanUser) : Bool :=
  isDue now user && !onFreePlan free user

def downgraded (free : PlanRow) (user : PlanUser) : PlanUser :=
  { user with plan := free.slug, planId := some free.id, planExpiresAt := none }

/-- What a pass makes of a user. -/
def expire (free : PlanRow) (now : Time) (user : PlanUser) : PlanUser :=
  if isDowngraded free now user then downgraded free user else user

theorem key_expire (free : PlanRow) (now : Time) (user : PlanUser) :
    key (expire free now user) = key user := by
  unfold expire
  split
  · rfl
  · rfl

/-- The call of `enforce_for_user` for one user, with its `except`. -/
def tryEnforce (cached : List PlanRow) (fails : Nat → Bool) (now : Time) (db : WalletDb)
    (user : PlanUser) : WalletDb :=
  if fails user.id then db
  else match effectiveLimits cached user now with
    | none => db
    | some limits => enforceForUser user.id limits.wallets db

/-- `_run_once`, and the number of users it has moved. -/
def runOnce (cached : List PlanRow) (fails : Nat → Bool) (now : Time) (db : ExpiryDb) :
    ExpiryDb × Nat :=
  match activeFreePlan db.plans with
  | none => (db, 0)
  | some free =>
      let moved := (db.users.where_ (isDowngraded free now)).map (downgraded free)
      ({ db with
          users := db.users.map (expire free now) (key_expire free now)
          wallets := moved.foldl (tryEnforce cached fails now) db.wallets }, moved.length)

section

variable {cached : List PlanRow} {fails : Nat → Bool} {now : Time} {db : ExpiryDb}
  {free : PlanRow} {user : PlanUser}

theorem runOnce_eq (found : activeFreePlan db.plans = some free) :
    runOnce cached fails now db =
      ({ db with
          users := db.users.map (expire free now) (key_expire free now)
          wallets := ((db.users.where_ (isDowngraded free now)).map (downgraded free)).foldl
            (tryEnforce cached fails now) db.wallets },
        ((db.users.where_ (isDowngraded free now)).map (downgraded free)).length) := by
  unfold runOnce
  rw [found]

/-- A user that has been moved has nothing left to expire. -/
theorem isDowngraded_expire (user : PlanUser) :
    isDowngraded free now (expire free now user) = false := by
  unfold expire
  split
  case isTrue => rfl
  case isFalse stays => exact Bool.eq_false_iff.mpr stays

theorem expire_of_stays (stays : isDowngraded free now user = false) :
    expire free now user = user :=
  if_neg (Bool.eq_false_iff.mp stays)

/-! ## The users -/

theorem users_runOnce (found : activeFreePlan db.plans = some free) (id : Nat) :
    (runOnce cached fails now db).1.users.get? id =
      (db.users.get? id).map (expire free now) := by
  rw [runOnce_eq found]
  exact Table.get?_map _ _ (key_expire free now) _

theorem map_of_stays {users : Table PlanUser}
    (stays : ∀ user ∈ users.rows, isDowngraded free now user = false) :
    users.map (expire free now) (key_expire free now) = users := by
  have same : users.rows.map (expire free now) = users.rows :=
    (List.map_congr_left fun user member => expire_of_stays (stays user member)).trans
      (List.map_id _)
  cases users
  simp only [Table.map, same]

theorem where_of_stays {users : Table PlanUser}
    (stays : ∀ user ∈ users.rows, isDowngraded free now user = false) :
    users.where_ (isDowngraded free now) = [] :=
  List.filter_eq_nil_iff.mpr fun user member => Bool.eq_false_iff.mp (stays user member)

/-- A second pass has nothing to do. -/
theorem runOnce_runOnce (cached' : List PlanRow) (fails' : Nat → Bool)
    (found : activeFreePlan db.plans = some free) :
    runOnce cached' fails' now (runOnce cached fails now db).1 =
      ((runOnce cached fails now db).1, 0) := by
  have again : activeFreePlan (runOnce cached fails now db).1.plans = some free := by
    rw [runOnce_eq found]
    exact found
  have stays : ∀ user ∈ (runOnce cached fails now db).1.users.rows,
      isDowngraded free now user = false := by
    intro user member
    rw [runOnce_eq found] at member
    obtain ⟨before, -, rfl⟩ := List.mem_map.mp member
    exact isDowngraded_expire before
  rw [runOnce_eq again, map_of_stays stays, where_of_stays stays]
  rfl

/-! ## The wallets -/

theorem rowsOf_tryEnforce {userId : Nat} (other : userId ≠ user.id) (wallets : WalletDb) :
    rowsOf (tryEnforce cached fails now wallets user) userId = rowsOf wallets userId := by
  unfold tryEnforce
  split
  · rfl
  · split
    · rfl
    · exact rowsOf_enforce other

theorem stillTrades_tryEnforce (wallets : WalletDb) (user : PlanUser) :
    StillTrades wallets (tryEnforce cached fails now wallets user) := by
  unfold tryEnforce
  split
  · exact StillTrades.refl wallets
  · split
    · exact StillTrades.refl wallets
    · exact stillTrades_enforce _ _ wallets

theorem stillTrades_foldl (users : List PlanUser) (wallets : WalletDb) :
    StillTrades wallets (users.foldl (tryEnforce cached fails now) wallets) := by
  induction users generalizing wallets with
  | nil => exact StillTrades.refl wallets
  | cons user users ih => exact (stillTrades_tryEnforce wallets user).trans (ih _)

/-- The ids of the users a pass moves are distinct. -/
theorem nodup_moved (free : PlanRow) (now : Time) (users : Table PlanUser) :
    (((users.where_ (isDowngraded free now)).map (downgraded free)).map
      PlanUser.id).Nodup := by
  rw [List.map_map]
  exact (users.select (isDowngraded free now)).nodup

theorem rowsOf_runOnce (found : activeFreePlan db.plans = some free) {userId : Nat}
    (stays : ∀ user, db.users.get? userId = some user → isDowngraded free now user = false) :
    rowsOf (runOnce cached fails now db).1.wallets userId = rowsOf db.wallets userId := by
  rw [runOnce_eq found]
  refine part_foldl_of_forall (fun userId wallets => rowsOf wallets userId) PlanUser.id
    (fun wallets user other => rowsOf_tryEnforce other wallets) ?_ _
  intro moved member same
  obtain ⟨user, inside, rfl⟩ := List.mem_map.mp member
  obtain ⟨stored, goes⟩ := Table.mem_where.mp inside
  have here : db.users.get? userId = some user := by
    rw [same]
    exact stored
  rw [stays user here] at goes
  cases goes

/-- A moved user's rows are those that `enforce_for_user` alone would leave. -/
theorem rowsOf_runOnce_moved (cached : List PlanRow) (fails : Nat → Bool)
    (found : activeFreePlan db.plans = some free)
    (stored : user ∈ db.users.rows) (goes : isDowngraded free now user = true) :
    ∃ wallets, rowsOf wallets user.id = rowsOf db.wallets user.id ∧
      rowsOf (runOnce cached fails now db).1.wallets user.id =
        rowsOf (tryEnforce cached fails now wallets (downgraded free user)) user.id := by
  rw [runOnce_eq found]
  have member : downgraded free user ∈
      (db.users.where_ (isDowngraded free now)).map (downgraded free) :=
    List.mem_map_of_mem (Table.mem_where.mpr ⟨Table.mem_rows_iff.mp stored, goes⟩)
  exact part_foldl_of_mem (fun userId wallets => rowsOf wallets userId) PlanUser.id
    (fun wallets user' other => rowsOf_tryEnforce other wallets)
    (nodup_moved free now db.users) member db.wallets

/-! ## What a pass does -/

theorem tryEnforce_eq {plan : PlanRow} (works : fails user.id = false) (due : isDue now user = true)
    (own : getUserPlan cached (downgraded free user) = some plan) :
    ∃ limits : WalletLimits,
      limits = ⟨plan.portfolioLimit, plan.exchangeKeysPerVenue⟩ ∧
      ∀ wallets, tryEnforce cached fails now wallets (downgraded free user) =
        enforceForUser user.id limits wallets := by
  have common : (downgraded free user).isAdmin = false := by
    have common := (Bool.and_eq_true_iff.mp due).2
    exact (Bool.not_eq_eq_eq_not.mp common).trans Bool.not_true
  obtain ⟨limits, effective, values⟩ := effectiveLimits_of_plan now own common rfl
  refine ⟨limits.wallets, values, fun wallets => ?_⟩
  have works' : ¬ fails (downgraded free user).id = true := Bool.eq_false_iff.mp works
  unfold tryEnforce
  rw [if_neg works', effective]
  rfl

/-- Which wallets are one too many is a matter of the user's rows. -/
theorem surplusCount_of_rowsOf {userId : Nat} {limits : WalletLimits} {wallets wallets' : WalletDb}
    (same : rowsOf wallets' userId = rowsOf wallets userId) :
    surplusCount userId limits wallets' = surplusCount userId limits wallets := by
  unfold surplusCount
  rw [portfolioWallets_of_rowsOf same]

/-- The wallets that a moved user keeps in the portfolio are the newest ones. -/
theorem portfolioWallets_runOnce {plan : PlanRow} (found : activeFreePlan db.plans = some free)
    (stored : user ∈ db.users.rows) (goes : isDowngraded free now user = true)
    (works : fails user.id = false)
    (own : getUserPlan cached (downgraded free user) = some plan) :
    ∃ limits : WalletLimits, limits = ⟨plan.portfolioLimit, plan.exchangeKeysPerVenue⟩ ∧
      (∀ w, w ∈ portfolioWallets (runOnce cached fails now db).1.wallets user.id ↔
        w ∈ (portfolioWallets db.wallets user.id).drop (surplusCount user.id limits db.wallets)) ∧
      (0 ≤ limits.portfolioLimit →
        (portfolioCount (runOnce cached fails now db).1.wallets user.id : ℤ) ≤
          limits.portfolioLimit) := by
  have due : isDue now user = true := (Bool.and_eq_true_iff.mp goes).1
  obtain ⟨limits, values, enforces⟩ := tryEnforce_eq works due own
  obtain ⟨wallets, before, after⟩ :=
    rowsOf_runOnce_moved cached fails found stored goes
  rw [enforces] at after
  have kept := portfolioWallets_of_rowsOf after
  refine ⟨limits, values, fun w => ?_, fun bounded => ?_⟩
  · rw [kept, mem_portfolioWallets_enforce, portfolioWallets_of_rowsOf before,
      surplusCount_of_rowsOf before]
  · rw [portfolioCount_eq, kept, ← portfolioCount_eq]
    exact portfolioCount_enforce_le bounded

end

/-- A pass takes the plan of exactly the users whose paid time is over. Each of
them that the quota check does not fail for keeps the newest wallets the free
plan has room for, nobody else's wallets change, no key stops trading, and doing
it again changes nothing. -/
theorem expired_plans_end {db : ExpiryDb} {free : PlanRow} (cached : List PlanRow)
    (fails : Nat → Bool) (now : Time) (found : activeFreePlan db.plans = some free) :
    (∀ id, (runOnce cached fails now db).1.users.get? id =
      (db.users.get? id).map (expire free now)) ∧
    (∀ user ∈ db.users.rows, isDowngraded free now user = true → fails user.id = false →
      ∀ plan, getUserPlan cached (downgraded free user) = some plan →
        (∀ w, w ∈ portfolioWallets (runOnce cached fails now db).1.wallets user.id ↔
          w ∈ (portfolioWallets db.wallets user.id).drop (surplusCount user.id
            ⟨plan.portfolioLimit, plan.exchangeKeysPerVenue⟩ db.wallets)) ∧
        (0 ≤ plan.portfolioLimit →
          (portfolioCount (runOnce cached fails now db).1.wallets user.id : ℤ) ≤
            plan.portfolioLimit)) ∧
    (∀ userId, (∀ user, db.users.get? userId = some user →
        isDowngraded free now user = false) →
      rowsOf (runOnce cached fails now db).1.wallets userId = rowsOf db.wallets userId) ∧
    StillTrades db.wallets (runOnce cached fails now db).1.wallets ∧
    ∀ cached' fails', runOnce cached' fails' now (runOnce cached fails now db).1 =
      ((runOnce cached fails now db).1, 0) := by
  refine ⟨users_runOnce found, fun user stored goes works plan own => ?_,
    fun userId stays => rowsOf_runOnce found stays, ?_,
    fun cached' fails' => runOnce_runOnce cached' fails' found⟩
  · obtain ⟨limits, rfl, newest, bounded⟩ := portfolioWallets_runOnce found stored goes works own
    exact ⟨newest, bounded⟩
  · rw [runOnce_eq found]
    exact stillTrades_foldl _ _

/-- Two users, one of whom has three wallets and a plan that ended. -/
def sampleExpiryDb : ExpiryDb where
  users := ⟨[{ id := 1, planId := some 2, plan := "pro", planExpiresAt := some 50 },
    { id := 2, planId := some 2, plan := "pro", planExpiresAt := some 150 }], by decide⟩
  plans := [{ id := 1, slug := "free", isFree := true, portfolioLimit := 1 },
    { id := 2, slug := "pro", portfolioLimit := 10 }]
  wallets :=
    { wallets := ⟨(List.range 3).map fun n =>
        { id := n, userId := 1, walletType := .chain, typeValue := "evm", purpose := .both
          isArchived := false, createdAt := n }, by decide⟩
      seq := 3 }

theorem expired_plans_end_sample :
    (portfolioCount (runOnce sampleExpiryDb.plans (fun _ => false) 100 sampleExpiryDb).1.wallets 1
      : ℤ) ≤ 1 ∧
    (runOnce sampleExpiryDb.plans (fun _ => false) 100 sampleExpiryDb).1.users.get? 2 =
      some { id := 2, planId := some 2, plan := "pro", planExpiresAt := some 150 } := by
  obtain ⟨users, moved, -⟩ := expired_plans_end sampleExpiryDb.plans (fun _ => false) 100
    (show activeFreePlan sampleExpiryDb.plans = some _ from rfl)
  refine ⟨?_, (users 2).trans (by decide +kernel)⟩
  exact (moved { id := 1, planId := some 2, plan := "pro", planExpiresAt := some 50 }
    (by decide +kernel) (by decide +kernel) rfl _ rfl).2 (by decide)

end Subscriptions

end Avalant
