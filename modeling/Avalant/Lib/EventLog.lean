import Mathlib.Logic.Basic

/-!
Logs that only grow, read by position.

`LastAt p log i e` says that `e`, at position `i`, is the last event of kind `p`. Between any two
events of a kind there may have to be one of another kind: `Separated`.
-/

namespace EventLog

variable {ε : Type*} {p q : ε → Prop} {log : List ε} {new : ε} {i j : Nat} {e e' : ε}

/-- The last event of a kind, and its position. -/
def LastAt (p : ε → Prop) (log : List ε) (i : Nat) (e : ε) : Prop :=
  log[i]? = some e ∧ p e ∧ ∀ (j : Nat) (e' : ε), i < j → log[j]? = some e' → ¬p e'

/-- Between two events of kind `q` there is one of kind `p`. -/
def Separated (p q : ε → Prop) (log : List ε) : Prop :=
  ∀ (i j : Nat) (e e' : ε), i < j → log[i]? = some e → log[j]? = some e' → q e → q e' →
    ∃ k e'', i < k ∧ k < j ∧ log[k]? = some e'' ∧ p e''

/-- Each event, against the log before it. -/
def Each (Q : List ε → ε → Prop) (log : List ε) : Prop :=
  ∀ (i : Nat) (e : ε), log[i]? = some e → Q (log.take i) e

theorem inRange (found : log[i]? = some e) : i < log.length :=
  (List.getElem?_eq_some_iff.mp found).1

theorem getElem?_concat (found : log[i]? = some e) : (log ++ [new])[i]? = some e := by
  rw [List.getElem?_append_left (inRange found)]
  exact found

/-- An event of the longer log is an event of the log or the new one. -/
theorem old_or_new (found : (log ++ [new])[i]? = some e) :
    log[i]? = some e ∨ i = log.length ∧ e = new := by
  by_cases old : i < log.length
  · rw [List.getElem?_append_left old] at found
    exact Or.inl found
  · rw [List.getElem?_append_right (Nat.not_lt.mp old)] at found
    obtain ⟨short, same⟩ := List.getElem?_eq_some_iff.mp found
    rw [List.length_singleton] at short
    have here : i = log.length := by omega
    subst here
    rw [List.getElem_singleton] at same
    exact Or.inr ⟨rfl, same.symm⟩

/-- An event of another kind. -/
theorem LastAt.concat_other (last : LastAt p log i e) (other : ¬p new) :
    LastAt p (log ++ [new]) i e := by
  obtain ⟨found, kind, later⟩ := last
  refine ⟨getElem?_concat found, kind, fun j e' after known => ?_⟩
  rcases old_or_new known with old | ⟨-, rfl⟩
  · exact later j e' after old
  · exact other

theorem LastAt.concat_self (kind : p new) : LastAt p (log ++ [new]) log.length new := by
  refine ⟨List.getElem?_concat_length, kind, fun j e' after known => ?_⟩
  have short := inRange known
  rw [List.length_append, List.length_singleton] at short
  omega

theorem each_nil {Q : List ε → ε → Prop} : Each Q [] := by
  intro i e found
  cases found

theorem Each.concat {Q : List ε → ε → Prop} (each : Each Q log) (now : Q log new) :
    Each Q (log ++ [new]) := by
  intro i e found
  rcases old_or_new found with old | ⟨rfl, rfl⟩
  · rw [List.take_append_of_le_length (Nat.le_of_lt (inRange old))]
    exact each i e old
  · rw [List.take_left]
    exact now

theorem separated_nil : Separated p q ([] : List ε) := by
  intro i j e e' _ found
  cases found

/-- An event that need not be separated. -/
theorem Separated.concat_other (separated : Separated p q log) (other : ¬q new) :
    Separated p q (log ++ [new]) := by
  intro i j e e' before first second kind kind'
  rcases old_or_new second with old | ⟨-, rfl⟩
  · rcases old_or_new first with older | ⟨here, -⟩
    · obtain ⟨k, e'', lower, upper, found, between⟩ :=
        separated i j e e' before older old kind kind'
      exact ⟨k, e'', lower, upper, getElem?_concat found, between⟩
    · have short := inRange old
      omega
  · exact absurd kind' other

/-- One more event, after one of the other kind. -/
theorem Separated.concat (separated : Separated p q log)
    (last : LastAt (fun e => p e ∨ q e) log i e) (own : p e) (alone : ∀ e, p e → ¬q e) :
    Separated p q (log ++ [new]) := by
  intro a b e₁ e₂ before first second kind₁ kind₂
  rcases old_or_new second with old | ⟨here, -⟩
  · rcases old_or_new first with older | ⟨there, -⟩
    · obtain ⟨k, e'', lower, upper, found, between⟩ :=
        separated a b e₁ e₂ before older old kind₁ kind₂
      exact ⟨k, e'', lower, upper, getElem?_concat found, between⟩
    · have short := inRange old
      omega
  · obtain ⟨found, -, later⟩ := last
    rcases old_or_new first with older | ⟨there, -⟩
    · have lower : a < i := by
        rcases Nat.lt_trichotomy a i with less | same | more
        · exact less
        · rw [same, found] at older
          obtain rfl := Option.some.inj older
          exact absurd kind₁ (alone e own)
        · exact absurd (Or.inr kind₁) (later a e₁ more older)
      exact ⟨i, e, lower, here ▸ inRange found, getElem?_concat found, own⟩
    · omega

end EventLog
