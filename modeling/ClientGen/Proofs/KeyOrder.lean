import ClientGen.Document.Load
import Mathlib.Data.List.Forall2
import Mathlib.Data.List.Lex
import Mathlib.Data.List.Pairwise

/-!
# The order of keys

A value in canonical form has the members of every object in the order of their keys, and the maps
that are read from it stay in this order. Keys are compared character by character, which is the
order of their bytes.
-/

namespace ClientGen

namespace Text

def bytes (text : String) : List UInt8 :=
  text.toUTF8.data.toList

theorem bytes_eq_flatMap (text : String) :
    bytes text = text.toList.flatMap String.utf8EncodeChar := by
  rw [bytes, String.toUTF8_eq_toByteArray, ← String.utf8Encode_toList, List.utf8Encode]
  simp

/-- Of two characters the one with the lesser code has the lesser bytes, whatever follows. -/
theorem encode_append_lt {c d : Char} (less : c < d) (rest others : List UInt8) :
    String.utf8EncodeChar c ++ rest < String.utf8EncodeChar d ++ others := by
  have lower : c.val.toNat < d.val.toNat := less
  have bound : d.val.toNat < 0x110000 := by
    rcases d.valid with small | ⟨-, small⟩
    · exact Nat.lt_trans small (by decide)
    · exact small
  unfold String.utf8EncodeChar
  generalize c.val.toNat = m at lower
  generalize d.val.toNat = n at lower bound
  dsimp only
  -- One case for each pair of lengths: the first byte tells them apart, and of equal lengths the
  -- bytes are the digits of the code.
  split_ifs
  all_goals
    simp only [List.cons_append, List.nil_append, List.cons_lt_cons_iff, UInt8.lt_iff_toNat_lt,
      ← UInt8.toNat_inj, UInt8.toNat_ofNat']
    simp (disch := omega) only [Nat.mod_eq_of_lt]
    omega

theorem flatMap_lt {first second : List Char} (less : first < second) :
    first.flatMap String.utf8EncodeChar < second.flatMap String.utf8EncodeChar := by
  induction less with
  | @nil c rest =>
      rw [List.flatMap_nil, List.flatMap_cons]
      cases encoded : String.utf8EncodeChar c with
      | nil => exact absurd encoded String.utf8EncodeChar_ne_nil
      | cons byte bytes => exact List.nil_lt_cons _ _
  | @cons c first second _ ih =>
      rw [List.flatMap_cons, List.flatMap_cons]
      exact List.Lex.append_left _ ih _
  | rel lesser =>
      rw [List.flatMap_cons, List.flatMap_cons]
      exact encode_append_lt lesser _ _

theorem lt_of_not_lt {a b : String} (notLess : ¬ a < b) (different : a ≠ b) : b < a :=
  String.not_le.mp fun le => different (String.le_antisymm le (String.not_lt.mp notLess))

/-- Texts are ordered as their bytes are. -/
theorem bytes_lt_iff (a b : String) : bytes a < bytes b ↔ a < b := by
  have mono : ∀ {a b : String}, a < b → bytes a < bytes b := by
    intro a b less
    rw [bytes_eq_flatMap, bytes_eq_flatMap]
    exact flatMap_lt less
  constructor
  · intro less
    apply Decidable.by_contra
    intro notLess
    have different : a ≠ b := by
      rintro rfl
      exact List.lt_irrefl _ less
    exact List.lt_asymm less (mono (lt_of_not_lt notLess different))
  · exact mono

end Text
namespace Json

def IsCanonical (value : Json) : Prop :=
  ∃ raw : Json, value = raw.canonical

theorem fst_of_mem_insertMember {key : String} {value : Json} {members : Members}
    {member : String × Json} (listed : member ∈ insertMember key value members) :
    member = (key, value) ∨ member ∈ members := by
  induction members with
  | nil => exact .inl (List.mem_singleton.mp listed)
  | cons other rest ih =>
      rw [insertMember] at listed
      split at listed
      · exact List.mem_cons.mp listed
      · split at listed
        · exact .inr listed
        · rcases List.mem_cons.mp listed with rfl | later
          · exact .inr List.mem_cons_self
          · exact (ih later).imp_right (List.mem_cons_of_mem _)

theorem pairwise_insertMember {key : String} {value : Json} {members : Members}
    (sorted : members.Pairwise fun a b => a.1 < b.1) :
    (insertMember key value members).Pairwise fun a b => a.1 < b.1 := by
  induction members with
  | nil => exact List.pairwise_singleton _ _
  | cons other rest ih =>
      obtain ⟨first, others⟩ := List.pairwise_cons.mp sorted
      rw [insertMember]
      split
      · rename_i lower
        apply List.pairwise_cons.mpr
        refine ⟨fun member listed => ?_, sorted⟩
        rcases List.mem_cons.mp listed with rfl | later
        · exact lower
        · exact String.lt_trans lower (first member later)
      · split
        · exact sorted
        · rename_i notLower different
          have greater : other.1 < key := Text.lt_of_not_lt notLower different
          apply List.pairwise_cons.mpr
          refine ⟨fun member listed => ?_, ih others⟩
          rcases fst_of_mem_insertMember listed with rfl | later
          · exact greater
          · exact first member later

theorem pairwise_canonicalMembers (members : Members) :
    (canonicalMembers members).Pairwise fun a b => a.1 < b.1 := by
  induction members with
  | nil => exact .nil
  | cons member rest ih => exact pairwise_insertMember ih

theorem isCanonical_of_mem_canonicalMembers {members : Members} {member : String × Json}
    (listed : member ∈ canonicalMembers members) : member.2.IsCanonical := by
  induction members with
  | nil => cases listed
  | cons other rest ih =>
      rcases fst_of_mem_insertMember listed with rfl | later
      · exact ⟨other.2, rfl⟩
      · exact ih later

theorem isCanonical_of_mem_canonicalItems {items : List Json} {item : Json}
    (listed : item ∈ canonicalItems items) : item.IsCanonical := by
  induction items with
  | nil => cases listed
  | cons other rest ih =>
      rcases List.mem_cons.mp listed with rfl | later
      · exact ⟨other, rfl⟩
      · exact ih later

/-- The members of an object in canonical form are sorted by key, and in canonical form. -/
theorem IsCanonical.members {members : Members} (canonical : (Json.object members).IsCanonical) :
    (members.Pairwise fun a b => a.1 < b.1) ∧ ∀ member ∈ members, member.2.IsCanonical := by
  obtain ⟨raw, same⟩ := canonical
  cases raw with
  | object given =>
      obtain rfl := Json.object.inj same
      exact ⟨pairwise_canonicalMembers given, fun _ => isCanonical_of_mem_canonicalMembers⟩
  | _ => cases same

theorem IsCanonical.items {items : List Json} (canonical : (Json.array items).IsCanonical) :
    ∀ item ∈ items, item.IsCanonical := by
  obtain ⟨raw, same⟩ := canonical
  cases raw with
  | array given =>
      obtain rfl := Json.array.inj same
      exact fun _ => isCanonical_of_mem_canonicalItems
  | _ => cases same

theorem isCanonical_of_read {text : String} {value : Json} (found : Json.read text = .ok value) :
    value.IsCanonical := by
  unfold Json.read at found
  cases written : readInOrder text with
  | error reason =>
      rw [written] at found
      cases found
  | ok raw =>
      rw [written] at found
      cases found
      exact ⟨raw, rfl⟩

end Json

theorem Yaml.isCanonical_of_read {text : String} {value : Json}
    (found : Yaml.read text = .ok value) : value.IsCanonical := by
  unfold Yaml.read at found
  cases written : Yaml.readFirst (Yaml.Node.valueBy Yaml.Node.keyText) text with
  | error reason =>
      rw [written] at found
      cases found
  | ok first =>
      rw [written] at found
      obtain ⟨raw, excess⟩ := first
      cases excess with
      | none =>
          cases found
          exact ⟨raw, rfl⟩
      | some reason => cases found

/-- Every description that is read from a text is in canonical form. -/
theorem Document.isCanonical_of_readText {name text : String} {value : Json}
    (found : Document.readText name text = .ok value) : value.IsCanonical := by
  unfold Document.readText at found
  split at found
  · rename_i asJson
    cases found
    exact Json.isCanonical_of_read asJson
  · cases asYaml : Yaml.read text with
    | error reason =>
        rw [asYaml] at found
        cases found
    | ok raw =>
        rw [asYaml] at found
        cases found
        exact Yaml.isCanonical_of_read asYaml

/-! ## What decoders make of canonical values -/

/-- What a decoder reads from values in canonical form has a property. -/
def Decoder.Yields {α : Type} (decode : Decoder α) (P : α → Prop) : Prop :=
  ∀ value a, value.IsCanonical → decode value = .ok a → P a

/-- What is read from members or items in canonical form has a property. -/
structure Fields.Yields {α : Type} (fields : Fields α) (P : α → Prop) : Prop where
  ofMembers : ∀ members a, (∀ member ∈ members, member.2.IsCanonical) →
    fields.ofMembers members = .ok a → P a
  ofItems : ∀ index items a later rest, (∀ item ∈ items, item.IsCanonical) →
    fields.ofItems (index, items) = .ok (a, later, rest) →
      P a ∧ ∀ item ∈ rest, item.IsCanonical

namespace Fields.Yields

variable {α β : Type} {P : β → Prop} {Q : α → Prop}

theorem pure {a : α} (holds : Q a) : (Pure.pure a : Fields α).Yields Q := by
  constructor
  · intro members b _ read
    obtain rfl := Except.ok.inj read
    exact holds
  · intro index items b later rest canonical read
    obtain ⟨rfl, rfl, rfl⟩ := Except.ok.inj read
    exact ⟨holds, canonical⟩

theorem seq {f : Fields (α → β)} {x : Fields α} (first : f.Yields fun f => ∀ a, Q a → P (f a))
    (second : x.Yields Q) : (f <*> x).Yields P := by
  constructor
  · intro members b canonical read
    change (Fields.seq f x).ofMembers members = .ok b at read
    simp only [Fields.seq] at read
    split at read
    · rename_i g a function argument
      obtain rfl := Except.ok.inj read
      exact first.ofMembers members g canonical function a
        (second.ofMembers members a canonical argument)
    all_goals cases read
  · intro index items b later rest canonical read
    change (Fields.seq f x).ofItems (index, items) = .ok (b, later, rest) at read
    simp only [Fields.seq] at read
    split at read
    · cases read
    · rename_i g between function
      split at read
      · cases read
      · rename_i a others argument
        obtain ⟨rfl, rfl⟩ := Prod.mk.inj (Except.ok.inj read)
        obtain ⟨holds, kept⟩ := first.ofItems _ _ _ _ _ canonical function
        obtain ⟨given, left⟩ := second.ofItems _ _ _ _ _ kept argument
        exact ⟨holds a given, left⟩

theorem field {names : List String} {absent short : Option α} {decode : Decoder α}
    (leftOut : ∀ a, absent = some a → Q a) (cutOff : ∀ a, short = some a → Q a)
    (read : decode.Yields Q) : (Fields.field names absent short decode).Yields Q := by
  constructor
  · intro members a canonical found
    simp only [Fields.field] at found
    split at found
    · split at found
      · obtain rfl := Except.ok.inj found
        exact leftOut _ rfl
      · cases found
    · rename_i key value chosen
      have listed : (key, value) ∈ under names members := by
        rw [chosen]
        exact List.mem_cons_self
      split at found
      · rename_i result decoded
        obtain rfl := Except.ok.inj found
        exact read value _ (canonical _ (List.mem_filter.mp listed).1) decoded
      · cases found
    · split at found <;> cases found
  · intro index items a later rest canonical found
    cases items with
    | nil =>
        simp only [Fields.field] at found
        split at found
        · obtain ⟨rfl, rfl, rfl⟩ := Except.ok.inj found
          exact ⟨cutOff _ rfl, canonical⟩
        · cases found
    | cons value others =>
        simp only [Fields.field] at found
        split at found
        · rename_i result decoded
          obtain ⟨rfl, rfl, rfl⟩ := Except.ok.inj found
          obtain ⟨first, kept⟩ := List.forall_mem_cons.mp canonical
          exact ⟨read value _ first decoded, kept⟩
        · cases found

theorem any {names : List String} {absent short : Option α} {decode : Decoder α} :
    (Fields.field names absent short decode).Yields fun _ => True :=
  field (fun _ _ => trivial) (fun _ _ => trivial) (fun _ _ _ _ => trivial)

theorem seqAny {f : Fields (α → β)} {names : List String} {absent short : Option α}
    {decode : Decoder α} (first : f.Yields fun f => ∀ a, P (f a)) :
    (f <*> Fields.field names absent short decode).Yields P :=
  seq (Q := fun _ => True)
    ⟨fun members g canonical read a _ => first.ofMembers members g canonical read a,
      fun index items g later rest canonical read =>
        (first.ofItems index items g later rest canonical read).imp_left fun holds a _ => holds a⟩
    any

end Fields.Yields

namespace Decoder.Yields

theorem record {α : Type} {name : String} {fields : Fields α} {P : α → Prop}
    (given : fields.Yields P) : (Decoder.record name fields).Yields P := by
  intro value a canonical read
  cases value with
  | array items =>
      simp only [Decoder.record] at read
      split at read
      · rename_i later found
        obtain rfl := Except.ok.inj read
        exact (given.ofItems 0 items _ _ _ canonical.items found).1
      all_goals cases read
  | object members =>
      simp only [Decoder.record, Decoder.objectRecord] at read
      cases found : fields.ofMembers members with
      | error fault =>
          rw [found] at read
          cases read
      | ok result =>
          rw [found] at read
          obtain rfl := Except.ok.inj read
          exact given.ofMembers members _ canonical.members.2 found
  | _ => cases read

theorem forall₂_of_mapM {α β : Type} {read : α → Except DecodeError β} {given : List α}
    {found : List β} (complete : given.mapM read = .ok found) :
    List.Forall₂ (fun a b => read a = .ok b) given found := by
  induction given generalizing found with
  | nil =>
      cases complete
      exact .nil
  | cons a rest ih =>
      rw [List.mapM_cons] at complete
      cases first : read a with
      | error fault =>
          rw [first] at complete
          cases complete
      | ok b =>
          rw [first] at complete
          cases others : rest.mapM read with
          | error fault =>
              rw [others] at complete
              cases complete
          | ok later =>
              rw [others] at complete
              cases complete
              exact .cons first (ih others)

theorem keys_of_map {α : Type} {decode : Decoder α} {members : Members}
    {entries : List (String × α)} (read : Decoder.map decode (.object members) = .ok entries) :
    entries.map Prod.fst = members.map Prod.fst := by
  have same : List.Forall₂ (· = ·) (members.map Prod.fst) (entries.map Prod.fst) := by
    rw [List.forall₂_map_left_iff, List.forall₂_map_right_iff]
    apply (forall₂_of_mapM read).imp
    rintro ⟨key, value⟩ entry decoded
    dsimp only at decoded
    cases single : decode value with
    | error fault =>
        rw [single] at decoded
        cases decoded
    | ok a =>
        rw [single] at decoded
        cases decoded
        rfl
  rw [List.forall₂_eq_eq_eq] at same
  exact same.symm

/-- A map is read in the order of its keys. -/
theorem map {α : Type} {decode : Decoder α} :
    (Decoder.map decode).Yields fun entries => (entries.map Prod.fst).Pairwise (· < ·) := by
  intro value entries canonical read
  cases value with
  | object members =>
      rw [keys_of_map read]
      exact List.pairwise_map.mpr canonical.members.1
  | _ => cases read

end Decoder.Yields

/-- The paths of a document come in the order of their names. -/
theorem Document.pairwise_paths_of_decode {source : Json} {document : Document}
    (canonical : source.IsCanonical) (read : Document.decode source = .ok document) :
    (document.paths.map Prod.fst).Pairwise (· < ·) := by
  have sorted : Document.decode.Yields fun document =>
      (document.paths.map Prod.fst).Pairwise (· < ·) := by
    apply Decoder.Yields.record
    refine .seqAny (.seqAny (.seqAny (.seq (Q := fun paths =>
      (paths.map Prod.fst).Pairwise (· < ·)) ?_ ?_)))
    · refine .seqAny (.seqAny (.seqAny (.seqAny (.seqAny (.seqAny (.seqAny (.pure ?_)))))))
      intro swagger openapi info host basePath schemes servers paths pairs definitions parameters
        components
      exact pairs
    · apply Fields.Yields.field
      · rintro _ ⟨⟩
        exact .nil
      · rintro _ ⟨⟩
        exact .nil
      · exact Decoder.Yields.map
  exact sorted source document canonical read

end ClientGen
