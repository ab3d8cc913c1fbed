import ClientGen.Proofs.PathSteps

/-!
# Lexical normal forms

What a path comes to when it is read from left to right without a look at any file: single dots are
dropped, and a step to the parent takes back the name before it. A normal form leads down as far as
the steps it comes from, so steps up can only undo names.
-/

namespace ClientGen

namespace Path

/-- Goes one component further, given those that are kept, the latest first. -/
def retrace (kept : List Component) (component : Component) : List Component :=
  match component, kept with
  | .current, kept => kept
  | .parent, .name _ :: above => above
  | component, kept => component :: kept

/-- Components without single dots and without names that are taken back. -/
def normalForm (components : List Component) : List Component :=
  (components.foldl retrace []).reverse

def normalized (path : Path) : List Component :=
  normalForm path.components

example : (Path.mk "../a/./b//../c.ts").normalized = [.parent, .name "a", .name "c.ts"] := by decide

theorem normalized_eq (path : Path) : path.normalized = normalForm path.moves := by
  have dropped : ∀ (components kept : List Component),
      (components.filter (· != .current)).foldl retrace kept = components.foldl retrace kept := by
    intro components
    induction components with
    | nil => intro kept; rfl
    | cons component rest ih =>
        intro kept
        by_cases dot : component = .current
        · rw [List.filter_cons_of_neg (by simp [dot]), ih, dot]
          rfl
        · rw [List.filter_cons_of_pos (by simp [dot]), List.foldl_cons, List.foldl_cons, ih]
  unfold normalized normalForm moves
  rw [dropped]

/-- How far a component leads down. -/
def descent : Component → Int
  | .name _ => 1
  | .parent => -1
  | .root => 0
  | .current => 0

/-- How far components lead down together. -/
def descents : List Component → Int
  | [] => 0
  | component :: rest => descent component + descents rest

theorem descents_append (components others : List Component) :
    descents (components ++ others) = descents components + descents others := by
  induction components with
  | nil => exact (Int.zero_add _).symm
  | cons component rest ih => rw [List.cons_append, descents, descents, ih, Int.add_assoc]

theorem descents_replicate_parent (n : Nat) :
    descents (List.replicate n Component.parent) = -n := by
  induction n with
  | zero => rfl
  | succ n ih =>
      rw [List.replicate_succ, descents, ih, descent]
      omega

theorem descents_retrace (kept : List Component) (component : Component) :
    descents (retrace kept component) = descent component + descents kept := by
  fun_cases retrace kept component with
  | case1 => simp [descent]
  | case2 =>
      simp only [descent, descents]
      omega
  | case3 => simp [descents]

/-- The normal form leads down as far as the components it comes from. -/
theorem descents_normalForm (components : List Component) :
    descents (normalForm components) = descents components := by
  have kept_sum : ∀ kept : List Component,
      descents (components.foldl retrace kept) = descents components + descents kept := by
    induction components with
    | nil => intro kept; simp [descents]
    | cons component rest ih =>
        intro kept
        rw [List.foldl_cons, ih, descents_retrace]
        simp only [descents]
        omega
  have reversed : ∀ l : List Component, descents l.reverse = descents l := by
    intro l
    induction l with
    | nil => rfl
    | cons component rest ih =>
        rw [List.reverse_cons, descents_append, ih]
        simp only [descents]
        omega
  unfold normalForm
  rw [reversed, kept_sum]
  simp [descents]

/-- As many steps up as there were names lead back to where the names were entered. -/
theorem foldl_retrace_names {names : List Component} (down : ∀ c ∈ names, ∃ name, c = .name name)
    (kept : List Component) :
    (names ++ List.replicate names.length Component.parent).foldl retrace kept = kept := by
  induction names generalizing kept with
  | nil => rfl
  | cons component rest ih =>
      obtain ⟨name, rfl⟩ := down component List.mem_cons_self
      have back := ih (fun c later => down c (List.mem_cons_of_mem _ later)) (.name name :: kept)
      rw [List.length_cons, List.replicate_succ', List.cons_append, ← List.append_assoc,
        List.foldl_cons, List.foldl_append]
      change List.foldl retrace (List.foldl retrace (.name name :: kept) _) [.parent] = kept
      rw [back]
      rfl

/-- Components lead down at most by their number, and that far only if all of them are names. -/
theorem descents_le_length (components : List Component) :
    descents components ≤ components.length ∧
      (descents components = components.length → ∀ c ∈ components, ∃ name, c = .name name) := by
  induction components with
  | nil => simp [descents]
  | cons component rest ih =>
      rw [descents, List.length_cons]
      cases component with
      | name name =>
          refine ⟨by simp only [descent]; omega, fun full c given => ?_⟩
          rcases List.mem_cons.mp given with rfl | later
          · exact ⟨name, rfl⟩
          · exact ih.2 (by simp only [descent] at full; omega) c later
      | root => exact ⟨by simp only [descent]; omega, by simp only [descent]; omega⟩
      | current => exact ⟨by simp only [descent]; omega, by simp only [descent]; omega⟩
      | parent => exact ⟨by simp only [descent]; omega, by simp only [descent]; omega⟩

/-- Going up by as many steps as were entered behind a beginning leads back to the beginning exactly
if they were all names, whatever follows. -/
theorem normalForm_undo_iff (shared undone onward : List Component) :
    normalForm (shared ++ undone ++ (List.replicate undone.length .parent ++ onward)) =
        normalForm (shared ++ onward) ↔
      ∀ c ∈ undone, ∃ name, c = .name name := by
  constructor
  · intro same
    have sums := congrArg descents same
    rw [descents_normalForm, descents_normalForm, descents_append, descents_append,
      descents_append, descents_append, descents_replicate_parent] at sums
    exact (descents_le_length undone).2 (by omega)
  · intro names
    unfold normalForm
    rw [List.append_assoc, ← List.append_assoc undone, List.foldl_append, List.foldl_append,
      foldl_retrace_names names, List.foldl_append]

end Path

end ClientGen
