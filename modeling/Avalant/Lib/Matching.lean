import Mathlib.Data.List.Basic
import Mathlib.Data.List.Infix
import Mathlib.Data.List.Pairwise

/-!
Candidates chosen greedily, each made of some items.

A candidate is chosen unless one of its items is taken, and an item counts as taken once a chosen
candidate has an item with the same key. The candidates come in stages, each of which proposes some
by what is taken when it starts. Where the keys tell the items apart, an item is taken only by its
own candidate; in general that is so exactly if the candidates chosen by the items themselves hold
every item whose key one of theirs has.
-/

namespace Matching

variable {α γ κ : Type*} [DecidableEq κ]

/-- The candidates a stage proposes, in order, by what is taken. -/
abbrev Stage (α γ : Type*) := (α → Bool) → List γ

section Definitions

variable (items : γ → List α) (key : α → κ)

/-- A chosen candidate has an item with the key of this one. -/
def taken (chosen : List γ) (a : α) : Bool :=
  chosen.any fun c => (items c).any fun b => key b = key a

def choose (chosen : List γ) (c : γ) : List γ :=
  if (items c).any (taken items key chosen) then chosen else chosen ++ [c]

/-- All candidates of a stage in turn. -/
def play (chosen : List γ) (stage : Stage α γ) : List γ :=
  (stage (taken items key chosen)).foldl (choose items key) chosen

def run (chosen : List γ) (stages : List (Stage α γ)) : List γ :=
  stages.foldl (play items key) chosen

/-- No item of one has the key of an item of the other. -/
def Apart (c d : γ) : Prop :=
  ∀ a ∈ items c, ∀ b ∈ items d, key a ≠ key b

/-- What is taken is an item of a chosen candidate. -/
def Kept (all : List α) (chosen : List γ) : Prop :=
  ∀ a ∈ all, taken items key chosen a = true → ∃ c ∈ chosen, a ∈ items c

/-- A chosen candidate has every item whose key one of its items has. -/
def Closed (all : List α) (chosen : List γ) : Prop :=
  ∀ c ∈ chosen, ∀ a ∈ items c, ∀ b ∈ all, key a = key b → b ∈ items c

/-- A stage that looks at no other items than these. -/
structure Within (all : List α) (stage : Stage α γ) : Prop where
  reads : ∀ t t', (∀ a ∈ all, t a = t' a) → stage t = stage t'
  items : ∀ t, ∀ c ∈ stage t, ∀ a ∈ items c, a ∈ all

/-- A stage that proposes the candidate whenever its items are free. -/
def Offers (stage : Stage α γ) (c : γ) : Prop :=
  ∀ t, (∀ a ∈ items c, t a = false) → c ∈ stage t

end Definitions

variable {items : γ → List α} {key : α → κ} {all : List α} {chosen made : List γ}
  {stages : List (Stage α γ)} {a : α} {c d : γ}

theorem taken_iff :
    taken items key chosen a = true ↔ ∃ c ∈ chosen, ∃ b ∈ items c, key b = key a := by
  simp [taken]

theorem taken_mono (more : chosen ⊆ made) (was : taken items key chosen a = true) :
    taken items key made a = true := by
  obtain ⟨c, member, own⟩ := taken_iff.mp was
  exact taken_iff.mpr ⟨c, more member, own⟩

theorem taken_of_mem (member : c ∈ chosen) (own : a ∈ items c) :
    taken items key chosen a = true :=
  taken_iff.mpr ⟨c, member, a, own, rfl⟩

/-! ## What a run keeps -/

theorem play_induction {P : List γ → Prop} (start : P chosen) (stage : Stage α γ)
    (step : ∀ made, ∀ c, (∃ t, c ∈ stage t) → P made → P (choose items key made c)) :
    P (play items key chosen stage) := by
  have fold : ∀ cs : List γ, (∀ c ∈ cs, ∃ t, c ∈ stage t) → ∀ made, P made →
      P (cs.foldl (choose items key) made) := by
    intro cs
    induction cs with
    | nil => exact fun _ _ holds => holds
    | cons c cs ih =>
        intro proposed made holds
        refine ih (fun d member => proposed d (List.mem_cons_of_mem _ member)) _ ?_
        exact step made c (proposed c List.mem_cons_self) holds
  exact fold _ (fun c member => ⟨_, member⟩) chosen start

/-- What every choice of a proposed candidate keeps. -/
theorem run_induction {P : List γ → Prop} (start : P chosen) (stages : List (Stage α γ))
    (step : ∀ made, ∀ c, (∃ stage ∈ stages, ∃ t, c ∈ stage t) → P made →
      P (choose items key made c)) :
    P (run items key chosen stages) := by
  induction stages generalizing chosen with
  | nil => exact start
  | cons stage stages ih =>
      refine ih (play_induction start stage fun made c proposed holds => ?_) ?_
      · exact step made c ⟨stage, List.mem_cons_self, proposed⟩ holds
      · rintro made c ⟨later, member, proposed⟩ holds
        exact step made c ⟨later, List.mem_cons_of_mem _ member, proposed⟩ holds

theorem prefix_choose (chosen : List γ) (c : γ) : chosen <+: choose items key chosen c := by
  unfold choose
  split
  · exact List.prefix_rfl
  · exact List.prefix_append _ _

theorem prefix_foldl_choose (chosen cs : List γ) :
    chosen <+: cs.foldl (choose items key) chosen := by
  induction cs generalizing chosen with
  | nil => exact List.prefix_rfl
  | cons c cs ih => exact (prefix_choose chosen c).trans (ih _)

theorem prefix_play (chosen : List γ) (stage : Stage α γ) :
    chosen <+: play items key chosen stage :=
  prefix_foldl_choose chosen _

theorem prefix_run (chosen : List γ) (stages : List (Stage α γ)) :
    chosen <+: run items key chosen stages :=
  run_induction (P := fun made => chosen <+: made) List.prefix_rfl stages
    fun made c _ before => before.trans (prefix_choose made c)

/-- Every chosen candidate was proposed. -/
theorem proposed_of_mem_run (member : c ∈ run items key [] stages) :
    ∃ stage ∈ stages, ∃ t, c ∈ stage t := by
  have holds : ∀ d ∈ run items key [] stages, ∃ stage ∈ stages, ∃ t, d ∈ stage t := by
    refine run_induction (P := fun made => ∀ d ∈ made, ∃ stage ∈ stages, ∃ t, d ∈ stage t)
      (fun d none => absurd none List.not_mem_nil) stages fun made d proposed holds d' member => ?_
    unfold choose at member
    split at member
    · exact holds d' member
    · rcases List.mem_append.mp member with earlier | new
      · exact holds d' earlier
      · exact List.mem_singleton.mp new ▸ proposed
  exact holds c member

instance : Std.Symm (Apart items key) :=
  ⟨fun _ _ apart a mine b yours same => apart b yours a mine same.symm⟩

theorem pairwise_choose (apart : chosen.Pairwise (Apart items key)) (c : γ) :
    (choose items key chosen c).Pairwise (Apart items key) := by
  unfold choose
  split
  case isTrue => exact apart
  case isFalse free =>
    refine List.pairwise_append.mpr ⟨apart, List.pairwise_singleton _ _, ?_⟩
    intro d member c' new a own b other same
    rw [List.mem_singleton.mp new] at other
    exact free (List.any_eq_true.mpr ⟨b, other, taken_iff.mpr ⟨d, member, a, own, same⟩⟩)

/-- The chosen candidates share no key. -/
theorem pairwise_run (stages : List (Stage α γ)) :
    (run items key [] stages).Pairwise (Apart items key) :=
  run_induction List.Pairwise.nil stages fun _ c _ apart => pairwise_choose apart c

omit [DecidableEq κ] in
theorem eq_of_same_key (apart : chosen.Pairwise (Apart items key)) (one : c ∈ chosen)
    (other : d ∈ chosen) {b : α} (own : a ∈ items c) (yours : b ∈ items d)
    (same : key a = key b) : c = d := by
  by_contra different
  exact apart.forall one other different a own b yours same

/-! ## Other keys -/

section Congr

variable {κ' : Type*} [DecidableEq κ'] {key' : α → κ'}

/-- The same items are taken by both keys. -/
def Agree (items : γ → List α) (key : α → κ) (key' : α → κ') (all : List α) (made : List γ) : Prop :=
  ∀ a ∈ all, taken items key made a = taken items key' made a

theorem choose_congr (agree : Agree items key key' all chosen) (inside : ∀ a ∈ items c, a ∈ all) :
    choose items key' chosen c = choose items key chosen c := by
  have same : (items c).any (taken items key' chosen) = (items c).any (taken items key chosen) := by
    rw [Bool.eq_iff_iff, List.any_eq_true, List.any_eq_true]
    refine exists_congr fun a => and_congr_right fun own => ?_
    rw [agree a (inside a own)]
  unfold choose
  rw [same]

theorem foldl_choose_congr {cs : List γ} (inside : ∀ c ∈ cs, ∀ a ∈ items c, a ∈ all)
    (agree : ∀ made, made <+: cs.foldl (choose items key) chosen → Agree items key key' all made) :
    cs.foldl (choose items key') chosen = cs.foldl (choose items key) chosen := by
  induction cs generalizing chosen with
  | nil => rfl
  | cons c cs ih =>
      have head : choose items key' chosen c = choose items key chosen c :=
        choose_congr (agree chosen (prefix_foldl_choose chosen (c :: cs)))
          (inside c List.mem_cons_self)
      rw [List.foldl_cons, List.foldl_cons, head]
      exact ih (fun d member => inside d (List.mem_cons_of_mem _ member)) agree

/-- Two keys give one run while the same items are taken by both. -/
theorem run_congr (within : ∀ stage ∈ stages, Within items all stage)
    (agree : ∀ made, made <+: run items key chosen stages → Agree items key key' all made) :
    run items key' chosen stages = run items key chosen stages := by
  induction stages generalizing chosen with
  | nil => rfl
  | cons stage stages ih =>
      have first := within stage List.mem_cons_self
      have after : play items key chosen stage <+: run items key chosen (stage :: stages) :=
        prefix_run (play items key chosen stage) stages
      have proposals : stage (taken items key' chosen) = stage (taken items key chosen) :=
        first.reads _ _ fun a member =>
          (agree chosen (prefix_run chosen (stage :: stages)) a member).symm
      have head : play items key' chosen stage = play items key chosen stage := by
        unfold play
        rw [proposals]
        exact foldl_choose_congr (first.items _) fun made before => agree made (before.trans after)
      change run items key' (play items key' chosen stage) stages = _
      rw [head]
      exact ih (fun later member => within later (List.mem_cons_of_mem _ member)) agree

end Congr

/-! ## Keys that tell the items apart -/

theorem Kept.of_prefix (kept : Kept items key all chosen)
    (apart : chosen.Pairwise (Apart items key)) (before : made <+: chosen) :
    Kept items key all made := by
  intro a member was
  obtain ⟨d, earlier, b, other, same⟩ := taken_iff.mp was
  obtain ⟨c, chosen', own⟩ := kept a member (taken_mono before.subset was)
  have one := eq_of_same_key apart chosen' (before.subset earlier) own other same.symm
  exact ⟨d, earlier, one ▸ own⟩

theorem Closed.kept (closed : Closed items key all chosen) (more : made ⊆ chosen) :
    Kept items key all made := by
  intro a member was
  obtain ⟨c, earlier, b, own, same⟩ := taken_iff.mp was
  exact ⟨c, earlier, closed c (more earlier) b own a member same⟩

theorem Kept.closed (kept : Kept items key all chosen)
    (apart : chosen.Pairwise (Apart items key)) : Closed items key all chosen := by
  intro c member a own b known same
  obtain ⟨d, chosen', other⟩ := kept b known (taken_iff.mpr ⟨c, member, a, own, same⟩)
  exact eq_of_same_key apart member chosen' own other same ▸ other

section Items

variable [DecidableEq α]

theorem taken_id_iff : taken items id chosen a = true ↔ ∃ c ∈ chosen, a ∈ items c := by
  simp [taken]

theorem Kept.agree (kept : Kept items key all chosen) : Agree items key id all chosen := by
  intro a member
  rw [Bool.eq_iff_iff, taken_id_iff]
  exact ⟨kept a member, fun ⟨c, chosen', own⟩ => taken_of_mem chosen' own⟩

/-- Every item that is taken is of a chosen candidate exactly if the candidates that the items
themselves would choose are closed under the key. -/
theorem kept_run_iff (within : ∀ stage ∈ stages, Within items all stage) :
    Kept items key all (run items key [] stages) ↔
      Closed items key all (run items id [] stages) := by
  constructor
  · intro kept
    have apart : (run items key [] stages).Pairwise (Apart items key) := pairwise_run stages
    have same : run items id [] stages = run items key [] stages :=
      run_congr within fun made before => (kept.of_prefix apart before).agree
    rw [same]
    exact kept.closed apart
  · intro closed
    have same : run items key [] stages = run items id [] stages :=
      run_congr within fun made before a member =>
        ((closed.kept before.subset).agree a member).symm
    rw [same]
    exact closed.kept (List.Subset.refl _)

end Items

/-! ## What is left -/

variable (key chosen) in
theorem takes_of_mem {cs : List γ} (member : c ∈ cs) (some_item : items c ≠ []) :
    ∃ a ∈ items c, taken items key (cs.foldl (choose items key) chosen) a = true := by
  induction cs generalizing chosen with
  | nil => cases member
  | cons d cs ih =>
      rcases List.mem_cons.mp member with rfl | later
      · have after : choose items key chosen c ⊆
            cs.foldl (choose items key) (choose items key chosen c) :=
          (prefix_foldl_choose _ cs).subset
        by_cases free : (items c).any (taken items key chosen)
        · obtain ⟨a, own, was⟩ := List.any_eq_true.mp free
          exact ⟨a, own, taken_mono (fun _ h => after ((prefix_choose chosen c).subset h)) was⟩
        · obtain ⟨a, own⟩ := List.exists_mem_of_ne_nil _ some_item
          have chosen' : c ∈ choose items key chosen c := by
            simp [choose, free]
          exact ⟨a, own, taken_of_mem (after chosen') own⟩
      · exact ih _ later

variable (key chosen) in
/-- No candidate that a stage offers is left with all its items free. -/
theorem takes_of_offers {stage : Stage α γ} (member : stage ∈ stages) (offers : Offers items stage c)
    (some_item : items c ≠ []) :
    ∃ a ∈ items c, taken items key (run items key chosen stages) a = true := by
  induction stages generalizing chosen with
  | nil => cases member
  | cons first stages ih =>
      rcases List.mem_cons.mp member with rfl | later
      · have after : play items key chosen stage ⊆
            run items key (play items key chosen stage) stages :=
          (prefix_run _ stages).subset
        by_cases free : ∀ a ∈ items c, taken items key chosen a = false
        · obtain ⟨a, own, was⟩ := takes_of_mem key chosen (offers _ free) some_item
          exact ⟨a, own, taken_mono after was⟩
        · push Not at free
          obtain ⟨a, own, was⟩ := free
          rw [ne_eq, Bool.not_eq_false] at was
          exact ⟨a, own, taken_mono (fun _ h => after ((prefix_play chosen stage).subset h)) was⟩
      · exact ih _ later

end Matching
