/-
# Histories

What happened is listed with the oldest step first, so a history grows at its end.  Two ways to
tell something of a history occur again and again: that some step was of one kind and all that
came after it of another, and that every step fits in with those that came before it.
-/
import Mathlib.Data.List.Induction

namespace GroupCall

variable {α : Type} {history : List α} {last : α}

/-- Some step of a history was of one kind, and all that came after it were of another. -/
def Since (came stayed : α → Prop) (history : List α) : Prop :=
  ∃ before step after, history = before ++ step :: after ∧ came step ∧
    ∀ later ∈ after, stayed later

/-- Every step of a history fits in with those before it. -/
def Throughout (fits : List α → α → Prop) (history : List α) : Prop :=
  ∀ before step after, history = before ++ step :: after → fits before step

/-- A step of a history that ends in a given one is this one or comes before it. -/
theorem concat_eq_append_cons_iff {before after : List α} {step : α} :
    history ++ [last] = before ++ step :: after ↔
      (history = before ∧ last = step ∧ after = []) ∨
        ∃ rest, after = rest ++ [last] ∧ history = before ++ step :: rest := by
  constructor
  · intro heq
    obtain rfl | ⟨rest, later, rfl⟩ := List.eq_nil_or_concat after
    · obtain ⟨hbefore, hlast⟩ := List.append_inj' heq rfl
      exact Or.inl ⟨hbefore, List.singleton_inj.1 hlast, rfl⟩
    · rw [List.concat_eq_append, ← List.cons_append, ← List.append_assoc] at heq
      obtain ⟨hbefore, hlast⟩ := List.append_inj' heq rfl
      obtain rfl := List.singleton_inj.1 hlast
      exact Or.inr ⟨rest, List.concat_eq_append, hbefore⟩
  · rintro (⟨rfl, rfl, rfl⟩ | ⟨rest, rfl, rfl⟩)
    · rfl
    · rw [List.append_assoc, List.cons_append]

theorem not_since_nil {came stayed : α → Prop} : ¬ Since came stayed [] := by
  rintro ⟨before, step, after, h, -⟩
  simp at h

/-- With one more step, either this one is of the first kind, or one before was and this one is of
the second kind. -/
theorem since_concat {came stayed : α → Prop} :
    Since came stayed (history ++ [last]) ↔
      came last ∨ stayed last ∧ Since came stayed history := by
  constructor
  · rintro ⟨before, step, after, heq, hstep, hafter⟩
    obtain ⟨-, rfl, -⟩ | ⟨rest, rfl, hhistory⟩ := concat_eq_append_cons_iff.1 heq
    · exact Or.inl hstep
    · refine Or.inr ⟨hafter last (by simp), before, step, rest, hhistory, hstep, fun later hl => ?_⟩
      exact hafter later (by simp [hl])
  · rintro (hlast | ⟨hlast, before, step, after, rfl, hstep, hafter⟩)
    · exact ⟨history, last, [], rfl, hlast, by simp⟩
    · refine ⟨before, step, after ++ [last], by simp, hstep, fun later hlater => ?_⟩
      rcases List.mem_append.1 hlater with hlater | hlater
      · exact hafter later hlater
      · exact List.mem_singleton.1 hlater ▸ hlast

theorem throughout_nil (fits : List α → α → Prop) : Throughout fits [] := by
  intro before step after h
  simp at h

/-- One more step has to fit in with all that came before. -/
theorem throughout_concat {fits : List α → α → Prop} :
    Throughout fits (history ++ [last]) ↔ Throughout fits history ∧ fits history last := by
  constructor
  · intro h
    refine ⟨fun before step after heq => ?_, h history last [] rfl⟩
    exact h before step (after ++ [last]) (by simp [heq])
  · rintro ⟨h, hlast⟩ before step after heq
    obtain ⟨rfl, rfl, -⟩ | ⟨rest, -, hhistory⟩ := concat_eq_append_cons_iff.1 heq
    · exact hlast
    · exact h before step rest hhistory

end GroupCall
