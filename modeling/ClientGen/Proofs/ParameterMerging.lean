import ClientGen.Proofs.References
import ClientGen.Proofs.UrlTemplate
import Mathlib.Data.List.Nodup

/-!
# Merging of parameters

The parameters of a path and those of an operation are merged one after the other. What comes out
has one parameter for each name and place, in the order in which these occur first, and it is the
last one that was given for them. Merging fails exactly at the first reference that leads nowhere.
-/

namespace ClientGen

namespace Text

theorem dropStart?_append (beginning cs : List Char) :
    dropStart? beginning (beginning ++ cs) = some cs := by
  induction beginning with
  | nil => rfl
  | cons p ps ih => rw [List.cons_append, dropStart?, if_pos rfl, ih]

theorem stripStart?_eq_some_iff (beginning s rest : String) :
    stripStart? beginning s = some rest ↔ s = beginning ++ rest := by
  rw [stripStart?, Option.map_eq_some_iff]
  constructor
  · rintro ⟨after, found, rfl⟩
    apply String.toList_inj.mp
    rw [eq_of_dropStart? found, String.toList_append, String.toList_ofList]
  · rintro rfl
    refine ⟨rest.toList, ?_, String.ofList_toList⟩
    rw [String.toList_append, dropStart?_append]

end Text

namespace Document

def sharedParameters (document : Document) : List (String × Parameter) :=
  (document.components.map (·.parameters)).getD []

theorem parameter?_shared (document : Document) (token : String) :
    document.parameter? ("#/parameters/" ++ token) = entry token document.parameters := by
  rw [parameter?, (Text.stripStart?_eq_some_iff _ _ _).mpr rfl]

theorem parameter?_component (document : Document) (token : String) :
    document.parameter? ("#/components/parameters/" ++ token) =
      entry token document.sharedParameters := by
  have other : Text.stripStart? "#/parameters/" ("#/components/parameters/" ++ token) = none := by
    rw [Text.stripStart?, String.toList_append]
    rfl
  rw [parameter?, other, (Text.stripStart?_eq_some_iff _ _ _).mpr rfl, sharedParameters]
  cases document.components <;> rfl

end Document

namespace Operation

open Document (Parameter Fault)

/-! ## References -/

/-- A reference leads to a parameter: it names one of those that a document shares, at its top or
among its components. -/
inductive LeadsTo (document : Document) : String → Parameter → Prop where
  | shared {name : String} {parameter : Parameter} :
      Document.entry name document.parameters = some parameter →
      LeadsTo document ("#/parameters/" ++ name) parameter
  | component {name : String} {parameter : Parameter} {components : Document.Components} :
      document.components = some components →
      Document.entry name components.parameters = some parameter →
      LeadsTo document ("#/components/parameters/" ++ name) parameter

/-- What is given for a parameter stands for it: in place, or by reference. -/
inductive Resolves (document : Document) : OrRef Parameter → Parameter → Prop where
  | inline (parameter : Parameter) : Resolves document (.inline parameter) parameter
  | ref {reference : String} {parameter : Parameter} :
      LeadsTo document reference parameter → Resolves document (.ref reference) parameter

theorem parameter?_eq_some_iff (document : Document) (reference : String) (parameter : Parameter) :
    document.parameter? reference = some parameter ↔ LeadsTo document reference parameter := by
  constructor
  · intro found
    unfold Document.parameter? at found
    split at found
    · rename_i name begins
      obtain rfl := (Text.stripStart?_eq_some_iff _ _ _).mp begins
      exact .shared found
    · split at found
      · rename_i name components begins given
        obtain rfl := (Text.stripStart?_eq_some_iff _ _ _).mp begins
        exact .component given found
      · cases found
  · intro leads
    cases leads with
    | shared found =>
        rw [Document.parameter?_shared]
        exact found
    | component given found =>
        rw [Document.parameter?_component, Document.sharedParameters, given]
        exact found

theorem resolves_ref_iff (document : Document) (reference : String) (parameter : Parameter) :
    Resolves document (.ref reference) parameter ↔
      document.parameter? reference = some parameter := by
  rw [parameter?_eq_some_iff]
  exact ⟨fun | .ref leads => leads, .ref⟩

theorem resolveParameter_eq_ok_iff (document : Document) (source : OrRef Parameter)
    (parameter : Parameter) :
    resolveParameter document source = .ok parameter ↔ Resolves document source parameter := by
  cases source with
  | inline value =>
      rw [resolveParameter, Except.ok.injEq]
      constructor
      · rintro rfl
        exact .inline value
      · rintro ⟨⟩
        rfl
  | ref reference =>
      rw [resolves_ref_iff, resolveParameter]
      cases document.parameter? reference <;> simp

/-- The one reason for which a parameter is not found. -/
theorem resolveParameter_eq_error_iff (document : Document) (source : OrRef Parameter)
    (fault : Fault) :
    resolveParameter document source = .error fault ↔
      ∃ reference, source = .ref reference ∧ (∀ parameter, ¬ LeadsTo document reference parameter) ∧
        fault = .unresolvedParameter reference := by
  cases source with
  | inline value => simp [resolveParameter]
  | ref reference =>
      simp only [resolveParameter, ← parameter?_eq_some_iff]
      cases found : document.parameter? reference with
      | none =>
          constructor
          · rintro ⟨⟩
            exact ⟨reference, rfl, by simp [found], rfl⟩
          · rintro ⟨_, ⟨⟩, -, rfl⟩
            rfl
      | some value =>
          constructor
          · rintro ⟨⟩
          · rintro ⟨_, ⟨⟩, nowhere, -⟩
            exact absurd found (nowhere value)

theorem not_resolves_of_nowhere {document : Document} {reference : String}
    (nowhere : ∀ parameter, ¬ LeadsTo document reference parameter) (parameter : Parameter) :
    ¬ Resolves document (.ref reference) parameter
  | .ref leads => nowhere parameter leads

/-! ## Merging -/

def slot (parameter : Parameter) : String × String :=
  (parameter.name, parameter.location)

theorem sameSlot_iff (a b : Parameter) : sameSlot a b = true ↔ slot a = slot b := by
  simp [sameSlot, slot]

/-- A parameter takes the place of the one in its slot, or gets a slot of its own at the end. -/
theorem slots_putParameter (parameter : Parameter) (merged : List Parameter) :
    (putParameter parameter merged).map slot =
      if slot parameter ∈ merged.map slot then merged.map slot
      else merged.map slot ++ [slot parameter] := by
  induction merged with
  | nil => rfl
  | cons other rest ih =>
      rw [putParameter]
      by_cases same : slot other = slot parameter
      · rw [if_pos ((sameSlot_iff other parameter).mpr same), if_pos]
        · rw [List.map_cons, List.map_cons, same]
        · rw [List.map_cons, same]
          exact List.mem_cons_self
      · rw [if_neg (mt (sameSlot_iff other parameter).mp same), List.map_cons, ih, List.map_cons]
        by_cases later : slot parameter ∈ rest.map slot
        · rw [if_pos later, if_pos (List.mem_cons_of_mem _ later)]
        · rw [if_neg later, if_neg, List.cons_append]
          exact List.not_mem_cons_of_ne_of_not_mem (Ne.symm same) later

theorem nodup_slots_putParameter {parameter : Parameter} {merged : List Parameter}
    (distinct : (merged.map slot).Nodup) : ((putParameter parameter merged).map slot).Nodup := by
  rw [slots_putParameter]
  split
  · exact distinct
  · rename_i new
    rw [← List.concat_eq_append]
    exact List.Nodup.concat new distinct

/-- Parameters are merged to one for each slot that is given. The slots come in the order of their
first occurrence, and each has the last parameter that is given for it. -/
structure MergesTo (given merged : List Parameter) : Prop where
  distinct : (merged.map slot).Nodup
  slots : merged.map slot = (given.map slot).eraseDups
  last : ∀ parameter ∈ merged,
    (given.filter fun other => slot other == slot parameter).getLast? = some parameter

theorem MergesTo.unique {given merged others : List Parameter} (first : MergesTo given merged)
    (second : MergesTo given others) : merged = others := by
  have found : ∀ {list : List Parameter}, MergesTo given list →
      list.map some = ((given.map slot).eraseDups).map fun place =>
        (given.filter fun other => slot other == place).getLast? := by
    intro list merges
    rw [← merges.slots, List.map_map]
    exact List.map_congr_left fun parameter member => (merges.last parameter member).symm
  have same := (found first).trans (found second).symm
  exact List.map_injective_iff.mpr (fun _ _ => Option.some.inj) same

theorem mem_putParameter_self (parameter : Parameter) (merged : List Parameter) :
    parameter ∈ putParameter parameter merged := by
  induction merged with
  | nil => exact List.mem_singleton_self parameter
  | cons other rest ih =>
      rw [putParameter]
      split
      · exact List.mem_cons_self
      · exact List.mem_cons_of_mem _ ih

theorem MergesTo.put {given merged : List Parameter} (merges : MergesTo given merged)
    (parameter : Parameter) : MergesTo (given ++ [parameter]) (putParameter parameter merged) := by
  have distinct : ((putParameter parameter merged).map slot).Nodup :=
    nodup_slots_putParameter merges.distinct
  refine ⟨distinct, ?_, fun other member => ?_⟩
  · have known : slot parameter ∈ merged.map slot ↔ slot parameter ∈ given.map slot := by
      rw [merges.slots, List.mem_eraseDups]
    rw [slots_putParameter, List.map_append, List.map_singleton, List.eraseDups_append,
      ← merges.slots]
    by_cases taken : slot parameter ∈ given.map slot
    · rw [if_pos (known.mpr taken)]
      simp [List.removeAll, -List.mem_map, taken]
    · rw [if_neg (mt known.mp taken)]
      simp [List.removeAll, List.eraseDups_cons, -List.mem_map, taken]
  · rw [List.filter_append]
    by_cases same : slot other = slot parameter
    · -- A slot is taken once, so what stands there now is the parameter that was put.
      obtain rfl :=
        List.inj_on_of_nodup_map distinct member (mem_putParameter_self parameter merged) same
      simp
    · have old : other ∈ merged :=
        (mem_putParameter member).resolve_left fun put => same (congrArg slot put)
      have passed : [parameter].filter (fun next => slot next == slot other) = [] := by
        simp [Ne.symm same]
      rw [passed, List.append_nil]
      exact merges.last other old

theorem MergesTo.putAll {given merged : List Parameter} (merges : MergesTo given merged)
    (resolved : List Parameter) :
    MergesTo (given ++ resolved)
      (resolved.foldl (fun merged parameter => putParameter parameter merged) merged) := by
  induction resolved generalizing given merged with
  | nil =>
      rw [List.append_nil]
      exact merges
  | cons first rest ih =>
      have whole := ih (merges.put first)
      rw [List.append_assoc] at whole
      exact whole

theorem mergesTo_nil : MergesTo [] [] where
  distinct := List.nodup_nil
  slots := rfl
  last _ member := absurd member List.not_mem_nil

/-! ## Success and failure -/

theorem mergeOnto_eq_ok_iff (document : Document) (before : List Parameter)
    (given : List (OrRef Parameter)) (merged : List Parameter) :
    mergeOnto document before given = .ok merged ↔
      ∃ resolved, List.Forall₂ (Resolves document) given resolved ∧
        merged = resolved.foldl (fun merged parameter => putParameter parameter merged) before := by
  induction given generalizing before with
  | nil => simp [mergeOnto, eq_comm]
  | cons source rest ih =>
      rw [mergeOnto]
      cases found : resolveParameter document source with
      | error fault =>
          obtain ⟨reference, rfl, nowhere, -⟩ := (resolveParameter_eq_error_iff _ _ _).mp found
          constructor
          · rintro ⟨⟩
          · rintro ⟨_, resolved, -⟩
            obtain ⟨parameter, _, head, -⟩ := List.forall₂_cons_left_iff.mp resolved
            exact absurd head (not_resolves_of_nowhere nowhere parameter)
      | ok parameter =>
          have resolves := (resolveParameter_eq_ok_iff _ _ _).mp found
          dsimp only
          rw [ih]
          constructor
          · rintro ⟨resolved, others, rfl⟩
            exact ⟨parameter :: resolved, .cons resolves others, rfl⟩
          · rintro ⟨_, resolved, rfl⟩
            obtain ⟨value, others, head, tail, rfl⟩ := List.forall₂_cons_left_iff.mp resolved
            obtain rfl : parameter = value :=
              Except.ok.inj (found.symm.trans ((resolveParameter_eq_ok_iff _ _ _).mpr head))
            exact ⟨others, tail, rfl⟩

/-- The first reference in a list that leads nowhere. -/
def FirstUnresolved (document : Document) (given : List (OrRef Parameter)) (reference : String) :
    Prop :=
  ∃ before after, given = before ++ .ref reference :: after ∧
    (∀ source ∈ before, ∃ parameter, Resolves document source parameter) ∧
    ∀ parameter, ¬ LeadsTo document reference parameter

theorem firstUnresolved_cons_iff {document : Document} {source : OrRef Parameter}
    {rest : List (OrRef Parameter)} {reference : String} :
    FirstUnresolved document (source :: rest) reference ↔
      (source = .ref reference ∧ ∀ parameter, ¬ LeadsTo document reference parameter) ∨
        (∃ parameter, Resolves document source parameter) ∧
          FirstUnresolved document rest reference := by
  constructor
  · rintro ⟨before, after, split, resolved, nowhere⟩
    cases before with
    | nil =>
        cases split
        exact .inl ⟨rfl, nowhere⟩
    | cons first others =>
        cases split
        obtain ⟨head, tail⟩ := List.forall_mem_cons.mp resolved
        exact .inr ⟨head, others, after, rfl, tail, nowhere⟩
  · rintro (⟨rfl, nowhere⟩ | ⟨head, before, after, rfl, tail, nowhere⟩)
    · exact ⟨[], rest, rfl, by simp, nowhere⟩
    · exact ⟨source :: before, after, rfl, List.forall_mem_cons.mpr ⟨head, tail⟩, nowhere⟩

theorem mergeOnto_eq_error_iff (document : Document) (before : List Parameter)
    (given : List (OrRef Parameter)) (fault : Fault) :
    mergeOnto document before given = .error fault ↔
      ∃ reference, FirstUnresolved document given reference ∧
        fault = .unresolvedParameter reference := by
  induction given generalizing before with
  | nil => simp [mergeOnto, FirstUnresolved]
  | cons source rest ih =>
      rw [mergeOnto]
      simp only [firstUnresolved_cons_iff]
      cases found : resolveParameter document source with
      | error reason =>
          obtain ⟨reference, rfl, nowhere, rfl⟩ := (resolveParameter_eq_error_iff _ _ _).mp found
          constructor
          · rintro ⟨⟩
            exact ⟨reference, .inl ⟨rfl, nowhere⟩, rfl⟩
          · rintro ⟨_, ⟨⟨⟩, -⟩ | ⟨⟨parameter, resolves⟩, -⟩, rfl⟩
            · rfl
            · exact absurd resolves (not_resolves_of_nowhere nowhere parameter)
      | ok parameter =>
          have resolves := (resolveParameter_eq_ok_iff _ _ _).mp found
          dsimp only
          rw [ih]
          constructor
          · rintro ⟨reference, later, rfl⟩
            exact ⟨reference, .inr ⟨⟨parameter, resolves⟩, later⟩, rfl⟩
          · rintro ⟨reference, ⟨rfl, nowhere⟩ | ⟨-, later⟩, rfl⟩
            · exact absurd resolves (not_resolves_of_nowhere nowhere parameter)
            · exact ⟨reference, later, rfl⟩

/-- If some reference leads nowhere, then one of them is the first. -/
theorem exists_firstUnresolved_iff (document : Document) (given : List (OrRef Parameter)) :
    (∃ reference, FirstUnresolved document given reference) ↔
      ∃ reference, .ref reference ∈ given ∧ ∀ parameter, ¬ LeadsTo document reference parameter := by
  constructor
  · rintro ⟨reference, before, after, rfl, -, nowhere⟩
    exact ⟨reference, by simp, nowhere⟩
  · rintro ⟨reference, member, nowhere⟩
    induction given with
    | nil => cases member
    | cons source rest ih =>
        simp only [firstUnresolved_cons_iff]
        by_cases resolves : ∃ parameter, Resolves document source parameter
        · have later : .ref reference ∈ rest := by
            refine (List.mem_cons.mp member).resolve_left ?_
            rintro rfl
            obtain ⟨parameter, found⟩ := resolves
            exact not_resolves_of_nowhere nowhere parameter found
          obtain ⟨first, unresolved⟩ := ih later
          exact ⟨first, .inr ⟨resolves, unresolved⟩⟩
        · cases source with
          | inline value => exact absurd ⟨value, .inline value⟩ resolves
          | ref other =>
              exact ⟨other, .inl ⟨rfl, fun parameter leads => resolves ⟨parameter, .ref leads⟩⟩⟩

/-! ## The parameters of an operation -/

/-- What an operation gives for a slot overrides what its path gives, in the same place; other
slots of the operation come after those of the path. -/
structure Overrides (shared own merged : List Parameter) : Prop where
  inPlace : merged.map slot =
    (shared.map slot).eraseDups ++ ((own.map slot).removeAll (shared.map slot)).eraseDups
  own : ∀ parameter ∈ merged, slot parameter ∈ own.map slot →
    (own.filter fun other => slot other == slot parameter).getLast? = some parameter

theorem MergesTo.overrides {shared own merged : List Parameter}
    (merges : MergesTo (shared ++ own) merged) : Overrides shared own merged := by
  constructor
  · rw [merges.slots, List.map_append, List.eraseDups_append]
  · intro parameter member given
    have last := merges.last parameter member
    rw [List.filter_append, List.getLast?_append] at last
    cases among : (own.filter fun other => slot other == slot parameter).getLast? with
    | none =>
        rw [List.getLast?_eq_none_iff, List.filter_eq_nil_iff] at among
        obtain ⟨other, listed, same⟩ := List.mem_map.mp given
        exact absurd (beq_iff_eq.mpr same) (among other listed)
    | some other =>
        rw [among, Option.some_or] at last
        exact last

theorem resolves_append {document : Document} {first second : List (OrRef Parameter)}
    {resolved : List Parameter}
    (given : List.Forall₂ (Resolves document) (first ++ second) resolved) :
    ∃ shared own, List.Forall₂ (Resolves document) first shared ∧
      List.Forall₂ (Resolves document) second own ∧ resolved = shared ++ own := by
  refine ⟨_, _, ?_, ?_, (List.take_append_drop first.length resolved).symm⟩
  · have front := List.forall₂_take first.length given
    rwa [List.take_left] at front
  · have back := List.forall₂_drop first.length given
    rwa [List.drop_left] at back

/-- What an operation has merged comes from what its path and it gives. -/
theorem mergesTo_of_mergedParameters {document : Document} {item : Document.PathItem}
    {operation : Document.Operation} {merged : List Parameter}
    (result : mergedParameters document item operation = .ok merged) :
    ∃ shared own, List.Forall₂ (Resolves document) item.parameters shared ∧
      List.Forall₂ (Resolves document) operation.parameters own ∧
      MergesTo (shared ++ own) merged := by
  obtain ⟨resolved, given, rfl⟩ := (mergeOnto_eq_ok_iff _ _ _ _).mp result
  obtain ⟨shared, own, ofPath, ofOperation, rfl⟩ := resolves_append given
  exact ⟨shared, own, ofPath, ofOperation, mergesTo_nil.putAll (shared ++ own)⟩

/-- No two parameters of an operation share a slot. -/
theorem nodup_slots_mergedParameters {document : Document} {item : Document.PathItem}
    {operation : Document.Operation} {merged : List Parameter}
    (result : mergedParameters document item operation = .ok merged) :
    (merged.map slot).Nodup := by
  obtain ⟨shared, own, -, -, merges⟩ := mergesTo_of_mergedParameters result
  exact merges.distinct

/-- The parameters of an operation are merged from those of its path and its own: one for each slot,
in the order of first occurrence, the last one given. This fails exactly if a reference leads
nowhere, and the fault names the first such reference. -/
theorem mergedParameters_iff (document : Document) (item : Document.PathItem)
    (operation : Document.Operation) :
    (∀ merged, mergedParameters document item operation = .ok merged ↔
      ∃ shared own, List.Forall₂ (Resolves document) item.parameters shared ∧
        List.Forall₂ (Resolves document) operation.parameters own ∧
        MergesTo (shared ++ own) merged ∧ Overrides shared own merged) ∧
    (∀ fault, mergedParameters document item operation = .error fault ↔
      ∃ reference, FirstUnresolved document (item.parameters ++ operation.parameters) reference ∧
        fault = .unresolvedParameter reference ∧
        fault.message = "unresolved parameter reference " ++ backquoted reference) ∧
    ((∃ fault, mergedParameters document item operation = .error fault) ↔
      ∃ reference, .ref reference ∈ item.parameters ++ operation.parameters ∧
        ∀ parameter, ¬ LeadsTo document reference parameter) := by
  refine ⟨fun merged => ?_, fun fault => ?_, ?_⟩
  · constructor
    · intro result
      obtain ⟨shared, own, ofPath, ofOperation, merges⟩ := mergesTo_of_mergedParameters result
      exact ⟨shared, own, ofPath, ofOperation, merges, merges.overrides⟩
    · rintro ⟨shared, own, ofPath, ofOperation, merges, -⟩
      refine (mergeOnto_eq_ok_iff _ _ _ _).mpr
        ⟨shared ++ own, List.rel_append ofPath ofOperation, ?_⟩
      exact merges.unique (mergesTo_nil.putAll (shared ++ own))
  · rw [mergedParameters, mergeOnto_eq_error_iff]
    constructor
    · rintro ⟨reference, first, rfl⟩
      exact ⟨reference, first, rfl, rfl⟩
    · rintro ⟨reference, first, same, -⟩
      exact ⟨reference, first, same⟩
  · rw [← exists_firstUnresolved_iff]
    constructor
    · rintro ⟨fault, failed⟩
      obtain ⟨reference, first, -⟩ := (mergeOnto_eq_error_iff _ _ _ _).mp failed
      exact ⟨reference, first⟩
    · rintro ⟨reference, first⟩
      exact ⟨_, (mergeOnto_eq_error_iff _ _ _ _).mpr ⟨reference, first, rfl⟩⟩

end Operation

end ClientGen
