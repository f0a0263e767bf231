import Mathlib.Tactic

/-!
Histories: what was done, one step after the other.

What holds after a history is often told by its last step of some sort, as long as
nothing came after it that undid it.

* `Since`: something was done, and nothing since has undone it.
* `since_concat`: one step more.
-/

namespace ExprMachine

variable {α : Type}

/-- At some step of a history `P` held, and at no step after it `Q` did. Both are
told what came before the step. -/
def Since (P Q : List α → α → Prop) (steps : List α) : Prop :=
  ∃ before step later, steps = before ++ step :: later ∧ P before step ∧
    ∀ between next rest, later = between ++ next :: rest → ¬ Q (before ++ step :: between) next

/-- A step of a history with one step more is the last one, or one of those before. -/
lemma concat_eq_append_cons_iff {steps before later : List α} {last step : α} :
    steps ++ [last] = before ++ step :: later ↔
      (steps = before ∧ last = step ∧ later = []) ∨
        ∃ rest, later = rest ++ [last] ∧ steps = before ++ step :: rest := by
  constructor
  · intro h
    rcases later.eq_nil_or_concat' with rfl | ⟨rest, final, rfl⟩
    · obtain ⟨hbefore, hlast⟩ := List.append_inj' h rfl
      exact .inl ⟨hbefore, List.singleton_inj.mp hlast, rfl⟩
    · rw [← List.cons_append, ← List.append_assoc] at h
      obtain ⟨hsteps, hlast⟩ := List.append_inj' h rfl
      exact .inr ⟨rest, by rw [hlast], hsteps⟩
  · rintro (⟨rfl, rfl, rfl⟩ | ⟨rest, rfl, rfl⟩)
    · rfl
    · simp

variable {P Q : List α → α → Prop}

/-- Nothing has been done yet. -/
lemma not_since_nil : ¬ Since P Q [] := by
  rintro ⟨before, step, later, h, -⟩
  simp at h

/-- With one step more, it is done by this step, or it was done before and this step
does not undo it. -/
lemma since_concat {steps : List α} {last : α} :
    Since P Q (steps ++ [last]) ↔ P steps last ∨ (Since P Q steps ∧ ¬ Q steps last) := by
  constructor
  · rintro ⟨before, step, later, hsteps, hP, hQ⟩
    obtain ⟨rfl, rfl, rfl⟩ | ⟨rest, rfl, rfl⟩ := concat_eq_append_cons_iff.mp hsteps
    · exact .inl hP
    · refine .inr ⟨⟨before, step, rest, rfl, hP, fun between next more hrest => ?_⟩, ?_⟩
      · exact hQ between next (more ++ [last]) (by simp [hrest])
      · exact hQ rest last [] rfl
  · rintro (hP | ⟨⟨before, step, later, rfl, hP, hQ⟩, hlast⟩)
    · exact ⟨steps, last, [], rfl, hP, by simp⟩
    · refine ⟨before, step, later ++ [last], by simp, hP, fun between next rest hlater => ?_⟩
      obtain ⟨rfl, rfl, -⟩ | ⟨more, -, hmore⟩ := concat_eq_append_cons_iff.mp hlater
      · exact hlast
      · exact hQ between next more hmore

end ExprMachine
