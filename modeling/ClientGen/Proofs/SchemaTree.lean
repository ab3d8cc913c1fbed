import ClientGen.Schema.Type

/-!
# Schemas as trees

The schemas directly inside a schema, the schemas inside it at any depth, and induction from the
inner schemas to the outer ones. The type of a schema is restated over the types of the schemas
inside it, so that a property of all types of schemas follows from how it passes through the
forms of types.
-/

namespace ClientGen.Schema

open TypeScript (TypeExpr Member)

def additionalSchema : Option (Additional Schema) → List Schema
  | some (.schema schema) => [schema]
  | some (.allowed _) => []
  | none => []

/-- The schemas directly inside a schema. -/
def children (schema : Schema) : List Schema :=
  (schema.properties.getD []).map (·.2) ++ schema.items.toList ++ schema.anyOf.getD [] ++
    schema.oneOf.getD [] ++ schema.allOf.getD [] ++ additionalSchema schema.additional

/-- A schema is inside itself and inside every schema around it. -/
inductive Within (node : Schema) : Schema → Prop where
  | self : Within node node
  | inside {child whole : Schema} : child ∈ whole.children → Within node child →
      Within node whole

theorem within_iff {node whole : Schema} :
    Within node whole ↔ node = whole ∨ ∃ child ∈ whole.children, Within node child := by
  constructor
  · intro within
    cases within with
    | self => exact Or.inl rfl
    | inside member inner => exact Or.inr ⟨_, member, inner⟩
  · rintro (rfl | ⟨child, member, inner⟩)
    · exact .self
    · exact .inside member inner

theorem within_of_children_eq_nil {node whole : Schema} (leaf : whole.children = [])
    (within : Within node whole) : node = whole := by
  rcases within_iff.mp within with same | ⟨child, member, -⟩
  · exact same
  · rw [leaf] at member
    cases member

theorem mem_children_of_mem_properties {schema child : Schema} {name : String}
    {schemas : List (String × Schema)} (given : schema.properties = some schemas)
    (member : (name, child) ∈ schemas) : child ∈ schema.children := by
  have value : child ∈ schemas.map (·.2) := List.mem_map.mpr ⟨_, member, rfl⟩
  simp only [children, given, Option.getD_some, List.append_assoc]
  exact List.mem_append_left _ value

theorem mem_children_of_items {schema child : Schema} (given : schema.items = some child) :
    child ∈ schema.children := by
  simp [children, given]

theorem mem_children_of_mem_anyOf {schema child : Schema} {schemas : List Schema}
    (given : schema.anyOf = some schemas) (member : child ∈ schemas) :
    child ∈ schema.children := by
  simp [children, given, member]

theorem mem_children_of_mem_oneOf {schema child : Schema} {schemas : List Schema}
    (given : schema.oneOf = some schemas) (member : child ∈ schemas) :
    child ∈ schema.children := by
  simp [children, given, member]

theorem mem_children_of_mem_allOf {schema child : Schema} {schemas : List Schema}
    (given : schema.allOf = some schemas) (member : child ∈ schemas) :
    child ∈ schema.children := by
  simp [children, given, member]

theorem mem_children_of_additional {schema child : Schema}
    (given : schema.additional = some (.schema child)) : child ∈ schema.children := by
  simp [children, given, additionalSchema]

theorem sizeOf_lt_of_mem_getD {child : Schema} {schemas : Option (List Schema)}
    (member : child ∈ schemas.getD []) : sizeOf child < sizeOf schemas := by
  cases schemas with
  | none => simp at member
  | some list =>
      have smaller : sizeOf child < sizeOf list := List.sizeOf_lt_of_mem member
      rw [Option.some.sizeOf_spec]
      omega

theorem sizeOf_lt_of_mem_entries {child : Schema} {schemas : Option (List (String × Schema))}
    (member : child ∈ (schemas.getD []).map (·.2)) : sizeOf child < sizeOf schemas := by
  cases schemas with
  | none => simp at member
  | some list =>
      obtain ⟨⟨name, value⟩, entry, rfl⟩ := List.mem_map.mp member
      have smaller : sizeOf (name, value) < sizeOf list := List.sizeOf_lt_of_mem entry
      rw [Prod.mk.sizeOf_spec] at smaller
      rw [Option.some.sizeOf_spec]
      dsimp only
      omega

theorem sizeOf_lt_of_mem_toList {child : Schema} {schema : Option Schema}
    (member : child ∈ schema.toList) : sizeOf child < sizeOf schema := by
  obtain rfl := Option.mem_toList.mp member
  rw [Option.some.sizeOf_spec]
  omega

theorem sizeOf_lt_of_mem_additional {child : Schema} {rule : Option (Additional Schema)}
    (member : child ∈ additionalSchema rule) : sizeOf child < sizeOf rule := by
  cases rule with
  | none => cases member
  | some given =>
      cases given with
      | allowed flag => cases member
      | schema schema =>
          obtain rfl := List.mem_singleton.mp member
          rw [Option.some.sizeOf_spec, Additional.schema.sizeOf_spec]
          omega

theorem sizeOf_lt_of_mem_children {schema child : Schema} (member : child ∈ schema.children) :
    sizeOf child < sizeOf schema := by
  cases schema with
  | node keywords properties items anyOf oneOf allOf additional =>
      simp only [children, Schema.properties, Schema.items, Schema.anyOf, Schema.oneOf,
        Schema.allOf, Schema.additional, List.mem_append] at member
      rw [Schema.node.sizeOf_spec]
      rcases member with ((((inner | inner) | inner) | inner) | inner) | inner
      · have smaller := sizeOf_lt_of_mem_entries inner
        omega
      · have smaller := sizeOf_lt_of_mem_toList inner
        omega
      · have smaller := sizeOf_lt_of_mem_getD inner
        omega
      · have smaller := sizeOf_lt_of_mem_getD inner
        omega
      · have smaller := sizeOf_lt_of_mem_getD inner
        omega
      · have smaller := sizeOf_lt_of_mem_additional inner
        omega

/-- What passes from the schemas inside a schema to the schema itself holds of every schema. -/
theorem induction_on_children {P : Schema → Prop}
    (step : ∀ schema : Schema, (∀ child ∈ schema.children, P child) → P schema)
    (schema : Schema) : P schema :=
  step schema fun child _ => induction_on_children step child
termination_by sizeOf schema
decreasing_by exact sizeOf_lt_of_mem_children (by assumption)

/-! ## The type of a schema over the types inside it -/

theorem typesOf_eq_map (schemas : List Schema) : typesOf schemas = schemas.map typeOf := by
  induction schemas with
  | nil => rfl
  | cons schema rest ih => rw [typesOf, ih, List.map_cons]

/-- The member of an object type for a property. -/
def memberOf (required : List String) (entry : String × Schema) : Member TypeExpr :=
  ⟨entry.1, entry.2.typeOf, !required.contains entry.1⟩

theorem membersOf_eq_map (required : List String) (schemas : List (String × Schema)) :
    membersOf required schemas = schemas.map (memberOf required) := by
  induction schemas with
  | nil => rfl
  | cons entry rest ih =>
      obtain ⟨name, schema⟩ := entry
      rw [membersOf, ih, List.map_cons]
      rfl

def itemType (schema : Schema) : TypeExpr :=
  match schema.items with
  | some item => item.typeOf
  | none => .unknown

/-- The type of all members that a schema allows beside the declared ones. -/
def additionalType (schema : Schema) : Option TypeExpr :=
  match schema.additional with
  | some (.allowed true) => some .unknown
  | some (.allowed false) => none
  | some (.schema value) => some value.typeOf
  | none => none

def objectType (schema : Schema) : TypeExpr :=
  membersType (schema.properties.map fun schemas => schemas.map (memberOf schema.keywords.required))
    schema.additionalType

/-- The type of a schema before the flag for `null` is looked at. -/
def baseType (schema : Schema) : TypeExpr :=
  match schema.keywords.ref, schema.keywords.constant, schema.allOf, schema.anyOf, schema.oneOf,
      schema.keywords.enumeration with
  | some reference, _, _, _, _, _ => .ref (TypeScript.referencedTypeName reference)
  | none, some value, _, _, _, _ => literalType value
  | none, none, some schemas, _, _, _ => TypeExpr.collapse .intersection (schemas.map typeOf)
  | none, none, none, some schemas, _, _ => TypeExpr.collapse .union (schemas.map typeOf)
  | none, none, none, none, some schemas, _ => TypeExpr.collapse .union (schemas.map typeOf)
  | none, none, none, none, none, some values =>
      TypeExpr.collapse .union (values.map literalType)
  | none, none, none, none, none, none =>
      typeByNames schema.keywords (schema.properties.isSome || schema.additional.isSome)
        schema.itemType schema.objectType

theorem typeOf_eq (schema : Schema) :
    schema.typeOf =
      if schema.keywords.nullable == some true then schema.baseType.nullable
      else schema.baseType := by
  cases schema with
  | node keywords properties items anyOf oneOf allOf additional =>
      rw [typeOf.eq_def]
      simp only [typesOf_eq_map, membersOf_eq_map]
      cases properties <;> rfl

/-! ## Properties of all types of schemas -/

/-- The keywords that types of schemas are made of. -/
def typeWords : List String :=
  ["string", "number", "boolean", "null", "unknown", "Blob"]

/-- A property of types that every form of type takes over from its parts. Unions and
intersections have at least two parts. -/
structure TakenOver (P : TypeExpr → Prop) : Prop where
  keyword : ∀ word ∈ typeWords, P (.keyword word)
  literal : ∀ value, P (literalType value)
  array : ∀ item, P item → P (.array item)
  union : ∀ types, 2 ≤ types.length → (∀ type ∈ types, P type) → P (.union types)
  intersection : ∀ types, 2 ≤ types.length → (∀ type ∈ types, P type) → P (.intersection types)
  object : ∀ members : List (Member TypeExpr), (∀ member ∈ members, P member.type) →
    P (.object members)
  record : ∀ value, P value → P (.record value)
  nullable : ∀ type, P type → P type.nullable

namespace TakenOver

variable {P : TypeExpr → Prop}

theorem unknown (taken : TakenOver P) : P .unknown :=
  taken.keyword "unknown" (by decide)

theorem null (taken : TakenOver P) : P .null :=
  taken.keyword "null" (by decide)

theorem collapse (taken : TakenOver P) {combine : List TypeExpr → TypeExpr}
    (combined : ∀ types, 2 ≤ types.length → (∀ type ∈ types, P type) → P (combine types))
    {types : List TypeExpr} (parts : ∀ type ∈ types, P type) :
    P (TypeExpr.collapse combine types) := by
  match types, parts with
  | [], _ => exact taken.unknown
  | [type], parts => exact parts type (List.mem_singleton_self type)
  | first :: second :: rest, parts => exact combined _ (by simp) parts

theorem namedType (taken : TakenOver P) {item members : TypeExpr} (inItem : P item)
    (inMembers : P members) (format : Option String) (name : String) :
    P (Schema.namedType format item members name) := by
  unfold Schema.namedType
  split
  case h_1 => split <;> exact taken.keyword _ (by decide)
  case h_7 => exact taken.array item inItem
  case h_8 => exact inMembers
  all_goals exact taken.keyword _ (by decide)

theorem typeByNames (taken : TakenOver P) {item members : TypeExpr} (inItem : P item)
    (inMembers : P members) (keywords : Keywords) (hasMembers : Bool) :
    P (Schema.typeByNames keywords hasMembers item members) := by
  unfold Schema.typeByNames
  split
  · exact taken.namedType inItem inMembers _ _
  · refine taken.collapse taken.union fun type part => ?_
    rcases List.mem_append.mp part with named | added
    · obtain ⟨name, -, rfl⟩ := List.mem_map.mp named
      exact taken.namedType inItem inMembers _ _
    · split at added
      · obtain rfl := List.mem_singleton.mp added
        exact taken.null
      · cases added
  · split
    · exact inMembers
    · exact taken.unknown

theorem membersType (taken : TakenOver P) {members : Option (List (Member TypeExpr))}
    {value : Option TypeExpr} (inMembers : ∀ list, members = some list → ∀ m ∈ list, P m.type)
    (inValue : ∀ type, value = some type → P type) : P (Schema.membersType members value) := by
  match members, value, inMembers, inValue with
  | some list, some type, inMembers, inValue =>
      refine taken.intersection _ (by simp) fun part given => ?_
      rcases List.mem_cons.mp given with rfl | given
      · exact taken.object list (inMembers list rfl)
      · obtain rfl := List.mem_singleton.mp given
        exact taken.record type (inValue type rfl)
  | some list, none, inMembers, _ => exact taken.object list (inMembers list rfl)
  | none, some type, _, inValue => exact taken.record type (inValue type rfl)
  | none, none, _, _ => exact taken.record _ taken.unknown

theorem objectType (taken : TakenOver P) (schema : Schema)
    (inner : ∀ child ∈ schema.children, P child.typeOf) : P schema.objectType := by
  refine taken.membersType (fun list given member inList => ?_) (fun type given => ?_)
  · obtain ⟨schemas, properties, rfl⟩ := Option.map_eq_some_iff.mp given
    obtain ⟨⟨name, child⟩, entry, rfl⟩ := List.mem_map.mp inList
    exact inner child (mem_children_of_mem_properties properties entry)
  · unfold additionalType at given
    split at given
    · cases given
      exact taken.unknown
    · cases given
    case h_3 value additional =>
      cases given
      exact inner value (mem_children_of_additional additional)
    · cases given

theorem itemType (taken : TakenOver P) (schema : Schema)
    (inner : ∀ child ∈ schema.children, P child.typeOf) : P schema.itemType := by
  unfold Schema.itemType
  split
  case h_1 item given => exact inner item (mem_children_of_items given)
  · exact taken.unknown

theorem baseType (taken : TakenOver P) (schema : Schema)
    (inner : ∀ child ∈ schema.children, P child.typeOf)
    (references : ∀ reference, schema.keywords.ref = some reference →
      P (.ref (TypeScript.referencedTypeName reference))) : P schema.baseType := by
  have types {schemas : List Schema} (inside : ∀ child ∈ schemas, child ∈ schema.children) :
      ∀ type ∈ schemas.map Schema.typeOf, P type := by
    intro type part
    obtain ⟨child, member, rfl⟩ := List.mem_map.mp part
    exact inner child (inside child member)
  unfold Schema.baseType
  split
  case h_1 reference given => exact references reference given
  case h_2 value _ _ => exact taken.literal value
  case h_3 schemas _ _ given =>
    exact taken.collapse taken.intersection
      (types fun child member => mem_children_of_mem_allOf given member)
  case h_4 schemas _ _ _ given =>
    exact taken.collapse taken.union
      (types fun child member => mem_children_of_mem_anyOf given member)
  case h_5 schemas _ _ _ _ given =>
    exact taken.collapse taken.union
      (types fun child member => mem_children_of_mem_oneOf given member)
  case h_6 values _ _ _ _ _ _ =>
    refine taken.collapse taken.union fun type part => ?_
    obtain ⟨value, -, rfl⟩ := List.mem_map.mp part
    exact taken.literal value
  case h_7 =>
    exact taken.typeByNames (taken.itemType schema inner) (taken.objectType schema inner) _ _

/-- The property holds of the type of a schema once it holds of the names that the references
inside the schema stand for. -/
theorem typeOf (taken : TakenOver P) (schema : Schema)
    (references : ∀ node, Within node schema → ∀ reference, node.keywords.ref = some reference →
      P (.ref (TypeScript.referencedTypeName reference))) : P schema.typeOf := by
  induction schema using induction_on_children with
  | step schema ih =>
      have inner : ∀ child ∈ schema.children, P child.typeOf := fun child member =>
        ih child member fun node within => references node (.inside member within)
      have base := taken.baseType schema inner (references schema .self)
      rw [typeOf_eq]
      split
      · exact taken.nullable _ base
      · exact base

end TakenOver

end ClientGen.Schema
