import ClientGen.Operation.Url
import ClientGen.Proofs.Numeral
import Mathlib.Data.List.Basic

/-!
# Placeholders of paths

Every name that stands between braces in a path is one of its placeholders. A URL template comes
from its path by filling placeholders one after the other, and by nothing else.
-/

namespace ClientGen

namespace Text

theorem split_eq_splitOn (sep : Char) (cs : List Char) : split sep cs = cs.splitOn sep := by
  induction cs with
  | nil => rfl
  | cons c rest ih =>
      rw [split, List.splitOn_cons_eq_if_modifyHead, ih]
      by_cases same : c = sep
      · rw [if_pos same, if_pos (beq_iff_eq.mpr same)]
      · rw [if_neg same, if_neg (mt beq_iff_eq.mp same)]
        obtain ⟨piece, pieces, cut⟩ :=
          List.exists_cons_of_ne_nil (List.splitOn_ne_nil sep rest)
        rw [cut]
        rfl

theorem exists_splitOn_append {sep : Char} {before : List Char} (without : sep ∉ before)
    (after : List Char) :
    ∃ rest others, (before ++ after).splitOn sep = (before ++ rest) :: others := by
  by_cases later : sep ∈ after
  · obtain ⟨rest, others, rfl, first⟩ := List.eq_append_cons_of_mem later
    refine ⟨rest, others.splitOn sep, ?_⟩
    rw [← List.append_assoc]
    apply List.splitOn_append_cons_self_of_not_mem
    exact List.not_mem_append without first
  · exact ⟨after, [], List.splitOn_eq_singleton (List.not_mem_append without later)⟩

theorem eq_of_dropStart? {beginning cs after : List Char}
    (found : dropStart? beginning cs = some after) : cs = beginning ++ after := by
  induction beginning generalizing cs with
  | nil =>
      cases found
      rfl
  | cons p ps ih =>
      cases cs with
      | nil => cases found
      | cons c rest =>
          rw [dropStart?] at found
          split at found
          · rename_i same
            rw [ih found, same, List.cons_append]
          · cases found

end Text

namespace Operation

/-! ## Placeholders -/

/-- A name without braces stands between braces in a path. -/
def InBraces (name path : String) : Prop :=
  '\x7b' ∉ name.toList ∧ '\x7d' ∉ name.toList ∧
    ∃ before after, path = before ++ braced name ++ after

theorem toList_braced (name : String) :
    (braced name).toList = '\x7b' :: (name.toList ++ ['\x7d']) := by
  rw [braced, String.toList_append, String.toList_append]
  rfl

theorem InBraces.mem_placeholders {name path : String} (inside : InBraces name path) :
    name ∈ placeholders path := by
  obtain ⟨opening, closing, before, after, rfl⟩ := inside
  have whole : (before ++ braced name ++ after).toList =
      before.toList ++ '\x7b' :: (name.toList ++ ['\x7d'] ++ after.toList) := by
    rw [String.toList_append, String.toList_append, toList_braced]
    simp
  -- The name has no brace that opens, so the piece that begins with it reaches the closing brace.
  have without : '\x7b' ∉ name.toList ++ ['\x7d'] := by simp [opening]
  obtain ⟨rest, others, pieces⟩ := Text.exists_splitOn_append without after.toList
  obtain ⟨first, earlier, start⟩ :=
    List.exists_cons_of_ne_nil (List.splitOn_ne_nil '\x7b' before.toList)
  rw [placeholders, Text.split_eq_splitOn, whole, List.splitOn_append_cons_self, pieces, start]
  apply List.mem_filterMap.mpr
  refine ⟨name.toList ++ ['\x7d'] ++ rest, by simp, ?_⟩
  rw [List.append_assoc, List.singleton_append, Text.splitOnce?_append closing]
  exact congrArg some String.ofList_toList

/-! ## Filling -/

/-- A text comes from another one by filling placeholders: names between braces are replaced by
holes. -/
inductive Filled (fills : String → String → Prop) (start : String) : String → Prop where
  | refl : Filled fills start start
  | tail {before after placeholder name : String} :
      Filled fills start (before ++ braced placeholder ++ after) → fills placeholder name →
      Filled fills start (before ++ ("$" ++ braced name) ++ after)

namespace Filled

variable {fills : String → String → Prop} {start : String}

/-- The search for a placeholder fills one occurrence after the other. What it passes over, because
it belongs to the occurrence before, is gone already. -/
theorem replaceFrom {placeholder name : String} (fit : fills placeholder name) (skip : Nat)
    (done : String) (cs : List Char)
    (reached : Filled fills start (done ++ String.ofList (cs.drop skip))) :
    Filled fills start (done ++ String.ofList
      (Text.replaceFrom (braced placeholder).toList ("$" ++ braced name).toList skip cs)) := by
  induction cs generalizing skip done with
  | nil =>
      rw [List.drop_nil] at reached
      cases skip <;> exact reached
  | cons c rest ih =>
      cases skip with
      | succ skip => exact ih skip done reached
      | zero =>
          rw [List.drop_zero] at reached
          rw [Text.replaceFrom]
          split
          · rename_i found
            -- The placeholder is filled at once; the search then skips what is left of it.
            obtain ⟨after, found⟩ := Option.isSome_iff_exists.mp found
            have cut := Text.eq_of_dropStart? found
            have behind : rest.drop ((braced placeholder).toList.length - 1) = after := by
              rw [toList_braced] at cut ⊢
              obtain ⟨-, rfl⟩ := List.cons.inj cut
              exact List.drop_left
            rw [String.ofList_append, String.ofList_toList, ← String.append_assoc]
            apply ih
            rw [behind]
            apply Filled.tail _ fit
            rw [cut, String.ofList_append, String.ofList_toList, ← String.append_assoc] at reached
            exact reached
          · rw [← List.singleton_append, String.ofList_append, ← String.append_assoc] at reached ⊢
            exact ih 0 _ reached

theorem replace {placeholder name text : String} (fit : fills placeholder name)
    (reached : Filled fills start text) :
    Filled fills start (Text.replace (braced placeholder) ("$" ++ braced name) text) := by
  have whole : Filled fills start ("" ++ String.ofList (text.toList.drop 0)) := by
    rw [List.drop_zero, String.ofList_toList, String.empty_append]
    exact reached
  have filled := replaceFrom fit 0 "" text.toList whole
  rw [String.empty_append] at filled
  exact filled

theorem foldl {names : List (String × String)}
    (fit : ∀ entry ∈ names, fills entry.1 entry.2) {text : String}
    (reached : Filled fills start text) :
    Filled fills start (names.foldl (fun url (placeholder, name) =>
      Text.replace (braced placeholder) ("$" ++ braced name) url) text) := by
  induction names generalizing text with
  | nil => exact reached
  | cons entry rest ih =>
      obtain ⟨first, others⟩ := List.forall_mem_cons.mp fit
      exact ih others (reached.replace first)

end Filled

/-- Every hole of a URL template stands for a placeholder and holds the name that fills it. -/
theorem filled_urlTemplate {fills : String → String → Prop} {names : List (String × String)}
    (fit : ∀ entry ∈ names, fills entry.1 entry.2) (path : String) :
    Filled fills (Text.replace "\x60" "\\\x60" path) (urlTemplate path names) :=
  Filled.foldl fit .refl

end Operation

end ClientGen
