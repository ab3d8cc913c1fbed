import ClientGen.Proofs.SchemaTree
import ClientGen.Schema.Declaration
import Mathlib.Data.List.Forall2

/-!
# Declarations and inline types

A named schema is described twice: by its declaration, and by the type that stands for it where it
is written in place. An alias always holds the text of the inline type. An interface has the
members of the inline type exactly when nothing but the properties decides about the schema, that
is, when there is no constant and the type names are `object` alone or none at all.
-/

namespace ClientGen.Schema

open TypeScript (TypeExpr Member)

/-- A member of an interface and a member of an object type that say the same. -/
structure SameMember (field : Graph.Field) (member : Member TypeExpr) : Prop where
  name : field.name = member.name
  type : field.type = some member.type.text
  isOptional : member.isOptional = !field.isRequired

/-- A declaration describes a type: an alias by its text, an interface member by member. -/
def Declaration.Describes : Declaration → TypeExpr → Prop
  | .typeAlias declared, type => declared.value = type.text
  | .interface declared, type =>
      ∃ members, type = .object members ∧ List.Forall₂ SameMember declared.properties members

/-- The type names under which a schema with properties is an object and nothing else. -/
def NamesObjectOnly : Option TypeNames → Prop
  | none => True
  | some (.one name) => name = "object"
  | some (.many names) => names = ["object"]

theorem sameMember_propertyField (required : List String) (name : String) (property : Schema) :
    SameMember (propertyField required name property)
      ⟨name, property.typeOf, !required.contains name⟩ :=
  ⟨rfl, rfl, rfl⟩

theorem sameMember_properties (required : List String) (schemas : List (String × Schema)) :
    List.Forall₂ SameMember
      (schemas.map fun (key, property) => propertyField required key property)
      (membersOf required schemas) := by
  induction schemas with
  | nil => exact .nil
  | cons entry rest ih =>
      obtain ⟨key, property⟩ := entry
      exact .cons (sameMember_propertyField required key property) ih

/-- An alias is exported under the name of the schema, and holds the text of its type. -/
theorem typeAlias_of_declare {schema : Schema} {name : String} {declared : Graph.Alias}
    (declares : schema.declare name = .typeAlias declared) :
    declared.name = TypeScript.sanitizeTypeName name ∧ declared.isExported = true ∧
      declared.value = schema.typeOf.text := by
  unfold declare at declares
  split at declares
  · cases declares
  · cases declares
    exact ⟨rfl, rfl, rfl⟩

theorem interface_of_declare {schema : Schema} {name : String} {declared : Graph.Interface}
    (declares : schema.declare name = .interface declared) :
    declared.name = TypeScript.sanitizeTypeName name ∧ declared.isExported = true ∧
      ∃ properties, schema.properties = some properties ∧
        declared.properties = properties.map fun (key, property) =>
          propertyField schema.keywords.required key property := by
  unfold declare at declares
  split at declares
  case h_1 properties _ given _ =>
    cases declares
    exact ⟨rfl, rfl, _, given, rfl⟩
  case h_2 => cases declares

theorem literalType_ne_object (value : Json) (members : List (Member TypeExpr)) :
    literalType value ≠ .object members := by
  cases value with
  | bool flag => cases flag <;> exact TypeExpr.noConfusion
  | null => exact TypeExpr.noConfusion
  | number n => exact TypeExpr.noConfusion
  | string text => exact TypeExpr.noConfusion
  | array items => exact TypeExpr.noConfusion
  | object entries => exact TypeExpr.noConfusion

/-- Only `object` stands for the members that a schema describes. -/
theorem namedType_eq_object_iff (format : Option String) (item : TypeExpr)
    (members found : List (Member TypeExpr)) (name : String) :
    namedType format item (.object members) name = .object found ↔
      name = "object" ∧ members = found := by
  constructor
  · intro same
    unfold namedType at same
    split at same
    case h_8 => exact ⟨rfl, TypeExpr.object.inj same⟩
    case h_1 => split at same <;> cases same
    all_goals cases same
  · rintro ⟨rfl, rfl⟩
    rfl

/-- Parts collapse to an object only if that object is the one part. -/
theorem collapse_union_eq_object_iff (types : List TypeExpr) (members : List (Member TypeExpr)) :
    TypeExpr.collapse .union types = .object members ↔ types = [.object members] := by
  cases types with
  | nil => simp [TypeExpr.collapse, TypeExpr.unknown]
  | cons first rest =>
      cases rest with
      | nil => simp [TypeExpr.collapse]
      | cons second rest => simp [TypeExpr.collapse]

/-- A list of type names gives an object type only if it is `object` alone: `null` in the list
adds a part, and so does every further name. -/
theorem names_eq_object_iff (format : Option String) (item : TypeExpr)
    (members found : List (Member TypeExpr)) (names : List String) :
    (names.filter (· != "null")).map (namedType format item (.object members)) ++
        (if names.contains "null" then [.null] else []) = [.object found] ↔
      names = ["object"] ∧ members = found := by
  cases hasNull : names.contains "null" with
  | true =>
      have member : "null" ∈ names := by simpa using hasNull
      constructor
      · intro same
        have last := congrArg List.getLast? same
        simp [TypeExpr.null] at last
      · rintro ⟨rfl, -⟩
        simp at member
  | false =>
      have kept : names.filter (· != "null") = names := by
        rw [List.filter_eq_self]
        intro name member
        have different : name ≠ "null" := by
          rintro rfl
          simp [member] at hasNull
        simpa using different
      simp only [kept, Bool.false_eq_true, if_false, List.append_nil,
        List.map_eq_singleton_iff, namedType_eq_object_iff]
      constructor
      · rintro ⟨name, rfl, rfl, rfl⟩
        exact ⟨rfl, rfl⟩
      · rintro ⟨rfl, rfl⟩
        exact ⟨"object", rfl, rfl, rfl⟩

/-- The type names of a schema with properties that the flag does not make nullable. -/
theorem typeByNames_eq_object_iff (keywords : Keywords) (item : TypeExpr)
    (members found : List (Member TypeExpr)) (notNullable : keywords.nullable ≠ some true) :
    typeByNames keywords true item (.object members) = .object found ↔
      NamesObjectOnly keywords.type ∧ members = found := by
  have flag : (keywords.nullable == some true) = false := by simpa using notNullable
  unfold typeByNames
  cases names : keywords.type with
  | none => simp [NamesObjectOnly]
  | some given =>
      cases given with
      | one name => exact namedType_eq_object_iff keywords.format item members found name
      | many list =>
          have nullable : keywords.isNullable = list.contains "null" := by
            simp only [Keywords.isNullable, flag, names, Bool.false_or]
          dsimp only
          rw [collapse_union_eq_object_iff, nullable, names_eq_object_iff]
          rfl

/-- The inline type of a schema that is declared as an interface: a constant still comes first. -/
theorem typeOf_of_isPlainObject {schema : Schema} {schemas : List (String × Schema)}
    (plain : schema.isPlainObject = true) (properties : schema.properties = some schemas) :
    schema.keywords.nullable ≠ some true ∧
      (∀ value, schema.keywords.constant = some value → schema.typeOf = literalType value) ∧
      (schema.keywords.constant = none →
        schema.typeOf = typeByNames schema.keywords true schema.itemType
          (.object (membersOf schema.keywords.required schemas))) := by
  simp only [isPlainObject, Bool.and_eq_true, Option.isNone_iff_eq_none, bne_iff_ne] at plain
  obtain ⟨⟨⟨⟨⟨⟨noRef, noAllOf⟩, noAnyOf⟩, noOneOf⟩, noEnumeration⟩, noAdditional⟩, notNullable⟩ :=
    plain
  have flag : (schema.keywords.nullable == some true) = false := by simpa using notNullable
  have members : schema.objectType = .object (membersOf schema.keywords.required schemas) := by
    rw [objectType, additionalType, noAdditional, properties, membersOf_eq_map]
    rfl
  refine ⟨notNullable, ?_, ?_⟩
  · intro value constant
    rw [typeOf_eq, flag, baseType, noRef, constant]
    rfl
  · intro noConstant
    rw [typeOf_eq, flag, baseType, noRef, noConstant, noAllOf, noAnyOf, noOneOf, noEnumeration,
      properties, members]
    rfl

/-- Declaration and inline type agree on every schema but for plain objects that also have a
constant or other type names than `object`: these are declared as interfaces all the same. -/
theorem declare_describes_typeOf_iff (schema : Schema) (name : String) :
    (schema.declare name).Describes schema.typeOf ↔
      (schema.properties.isSome = true → schema.isPlainObject = true →
        schema.keywords.constant = none ∧ NamesObjectOnly schema.keywords.type) := by
  unfold declare
  cases properties : schema.properties with
  | none => simp [Declaration.Describes]
  | some schemas =>
      cases plain : schema.isPlainObject with
      | false => simp [Declaration.Describes]
      | true =>
          obtain ⟨notNullable, byConstant, byNames⟩ := typeOf_of_isPlainObject plain properties
          simp only [Declaration.Describes, Option.isSome_some, forall_const]
          cases constant : schema.keywords.constant with
          | some value => simp [byConstant value constant, literalType_ne_object]
          | none =>
              rw [byNames constant]
              simp only [typeByNames_eq_object_iff _ _ _ _ notNullable, true_and]
              constructor
              · rintro ⟨members, ⟨names, -⟩, -⟩
                exact names
              · intro names
                exact ⟨_, ⟨names, rfl⟩, sameMember_properties _ _⟩

def objectOrNull : Schema :=
  .node { Keywords.none with type := some (.many ["object", "null"]) }
    (some [("id", .empty)]) none none none none none

/-- It is declared as an interface, which leaves `null` out. -/
theorem not_describes_objectOrNull :
    ¬ (objectOrNull.declare "Item").Describes objectOrNull.typeOf := by
  rintro ⟨members, inline, -⟩
  cases inline

end ClientGen.Schema
