import Mathlib.Data.List.Basic
import Mathlib.Data.List.Induction

/-!
# The last that counts

What is left of a history is often decided by the last of its steps that counts: behind it stand
only steps that are passed over. The one statement is how a history that has grown by a step is
read.
-/

namespace ClientGen

variable {α : Type} {aside : α → Prop} {a b : α} {before history : List α}

/-- A history goes on from an earlier one with a step, and then only with steps aside. -/
def LastAmong (aside : α → Prop) (a : α) (before history : List α) : Prop :=
  ∃ later, history = before ++ a :: later ∧ ∀ step ∈ later, aside step

theorem not_lastAmong_nil : ¬ LastAmong aside a before [] := by
  rintro ⟨later, same, -⟩
  exact List.append_ne_nil_of_right_ne_nil before (List.cons_ne_nil _ _) same.symm

/-- The step that was added is the last that counts, or it is aside and leaves the last one. -/
theorem lastAmong_append_iff :
    LastAmong aside a before (history ++ [b]) ↔
      b = a ∧ history = before ∨ aside b ∧ LastAmong aside a before history := by
  constructor
  · rintro ⟨later, same, passed⟩
    rcases List.eq_nil_or_concat' later with rfl | ⟨earlier, last, rfl⟩
    · obtain ⟨rfl, only⟩ := List.append_inj' same rfl
      exact .inl ⟨List.singleton_inj.mp only, rfl⟩
    · rw [← List.cons_append, ← List.append_assoc] at same
      obtain ⟨rfl, only⟩ := List.append_inj' same rfl
      obtain rfl := List.singleton_inj.mp only
      obtain ⟨others, own⟩ := List.forall_mem_append.mp passed
      exact .inr ⟨own b (List.mem_singleton_self b), earlier, rfl, others⟩
  · rintro (⟨rfl, rfl⟩ | ⟨own, later, rfl, others⟩)
    · exact ⟨[], rfl, nofun⟩
    · refine ⟨later ++ [b], by simp, ?_⟩
      exact List.forall_mem_append.mpr ⟨others, List.forall_mem_singleton.mpr own⟩

end ClientGen
