import ClientGen.Output
import ClientGen.Proofs.LastAmong

/-!
# The text of an output

An output is edited in any order: it gets a slot, its tree is printed by any printer, or it gets a
specifier. Only printing makes a text and only a new slot drops one, so by itself printing does not
take away the text of an output without a tree. The main statement is that it need not: whatever
was done to an output, its text is what the last printing made of the tree that is still there.
-/

namespace ClientGen.Output

/-- Something that is done to an output. -/
inductive Edit where
  | setSlot (slot : Slot)
  | render (print : TypeScript.Module → String)
  | withSpecifier (specifier : String)

def edited (output : Output) : Edit → Output
  | .setSlot slot => output.setSlot slot
  | .render print => output.render print
  | .withSpecifier specifier => output.withSpecifier specifier

def after (output : Output) (edits : List Edit) : Output :=
  edits.foldl edited output

/-- An edit that is neither a printing nor a new slot. -/
def Edit.IsAside (edit : Edit) : Prop :=
  ∃ specifier, edit = .withSpecifier specifier

variable {output start : Output} {edits : List Edit} {print : TypeScript.Module → String}

theorem after_append (output : Output) (edits : List Edit) (edit : Edit) :
    output.after (edits ++ [edit]) = (output.after edits).edited edit := by
  rw [after, List.foldl_append]
  rfl

/-! ## One edit -/

theorem slot_render (print : TypeScript.Module → String) (output : Output) :
    (output.render print).slot = output.slot := by
  unfold render
  split <;> rfl

theorem code_render_of_module {module : TypeScript.Module}
    (held : output.slot.module? = some module) :
    (output.render print).code = some (print module) := by
  simp only [render, held]

theorem render_of_empty (empty : output.slot.module? = none) : output.render print = output := by
  simp only [render, empty]

theorem isRenderable_eq_false_iff : output.isRenderable = false ↔ output.slot.module? = none := by
  rw [isRenderable, Option.isSome_eq_false_iff, Option.isNone_iff_eq_none]

/-- What an output is and where it goes stays through every edit. -/
theorem identity_edited (output : Output) (edit : Edit) :
    (output.edited edit).kind = output.kind ∧ (output.edited edit).root = output.root ∧
      (output.edited edit).path = output.path := by
  cases edit with
  | render print =>
      change (output.render print).kind = _ ∧ (output.render print).root = _ ∧
        (output.render print).path = _
      unfold render
      split <;> exact ⟨rfl, rfl, rfl⟩
  | _ => exact ⟨rfl, rfl, rfl⟩

/-! ## All edits -/

/-- An output has a text exactly if it holds a tree and was printed since it got its slot. The text
is what the last printing made of this tree. -/
def HasLastText (start : Output) (edits : List Edit) : Prop :=
  ∀ text, (start.after edits).code = some text ↔ ∃ module print before,
    (start.after edits).slot.module? = some module ∧
      LastAmong Edit.IsAside (.render print) before edits ∧
      (start.after before).slot = (start.after edits).slot ∧ text = print module

/-- Every edit keeps what is said of the text. Where nothing is printed because there is no tree,
there was no text before either. -/
theorem HasLastText.append (known : start.HasLastText edits) (edit : Edit) :
    start.HasLastText (edits ++ [edit]) := by
  intro text
  simp only [after_append, lastAmong_append_iff]
  cases edit with
  | setSlot slot =>
      constructor
      · nofun
      · rintro ⟨module, print, before, -, ⟨⟨⟩, -⟩ | ⟨⟨specifier, ⟨⟩⟩, -⟩, -⟩
  | render print =>
      simp only [edited, slot_render]
      cases held : (start.after edits).slot.module? with
      | none =>
          rw [render_of_empty held, known text]
          simp [held]
      | some module =>
          rw [code_render_of_module held]
          constructor
          · rintro ⟨⟩
            exact ⟨module, print, edits, rfl, .inl ⟨rfl, rfl⟩, rfl, rfl⟩
          · rintro ⟨_, _, _, ⟨⟩, ⟨⟨⟩, rfl⟩ | ⟨⟨specifier, ⟨⟩⟩, -⟩, -, rfl⟩
            rfl
  | withSpecifier specifier =>
      have aside : Edit.IsAside (.withSpecifier specifier) := ⟨specifier, rfl⟩
      simp only [edited, withSpecifier]
      rw [known text]
      simp [aside]

theorem hasLastText_of_new (kind : OutputKind) (path : Path) (edits : List Edit) :
    (new kind path).HasLastText edits := by
  induction edits using List.reverseRecOn with
  | nil =>
      intro text
      constructor
      · nofun
      · rintro ⟨module, print, before, ⟨⟩, -⟩
  | append_singleton edits edit ih => exact ih.append edit

theorem identity_after (start : Output) (edits : List Edit) :
    (start.after edits).kind = start.kind ∧ (start.after edits).root = start.root ∧
      (start.after edits).path = start.path := by
  induction edits using List.reverseRecOn with
  | nil => exact ⟨rfl, rfl, rfl⟩
  | append_singleton edits edit ih =>
      rw [after_append]
      obtain ⟨kind, root, path⟩ := identity_edited (start.after edits) edit
      exact ⟨kind.trans ih.1, root.trans ih.2.1, path.trans ih.2.2⟩

/-- Whatever was done to an output since it was made, it has a text only together with the tree
that the last printing was of. Another printing answers that there is no tree exactly if there is
none, and then there is no text either. What the output is and where it goes stays as it was. -/
theorem hasLastText_after (kind : OutputKind) (path : Path) (edits : List Edit) :
    (new kind path).HasLastText edits ∧
      (((new kind path).after edits).isRenderable = false ↔
        ((new kind path).after edits).slot.module? = none) ∧
      (((new kind path).after edits).isRenderable = false →
        ∀ print, (((new kind path).after edits).render print).code = none) ∧
      ((new kind path).after edits).kind = kind ∧
      ((new kind path).after edits).root = path.parent ∧
      ((new kind path).after edits).path = path := by
  refine ⟨hasLastText_of_new kind path edits, isRenderable_eq_false_iff, fun refused print => ?_,
    identity_after (new kind path) edits⟩
  have empty := isRenderable_eq_false_iff.mp refused
  rw [render_of_empty empty]
  cases written : ((new kind path).after edits).code with
  | none => rfl
  | some text =>
      obtain ⟨module, _, _, held, -⟩ := (hasLastText_of_new kind path edits text).mp written
      rw [empty] at held
      cases held

end ClientGen.Output
