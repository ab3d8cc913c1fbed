import ClientGen.Proofs.SchemaTree
import Mathlib.Data.List.Basic

/-!
# The meaning of schemas and of types

Which JSON values are valid against a schema, and which inhabit a type. Both are read under one
meaning of the names that documents declare: it says which values a named schema allows, and a
reference stands for the name of the schema that it leads to. Numbers are compared by value, so
that `1` and `1.0` are one number, and objects by their members whatever their order.
-/

namespace ClientGen

/-! ## Values -/

/-- The value of a number in units of `2 ^ -1074`, of which every number is a whole multiple. -/
def Number.units : Number → Int
  | .integer n => n * Nat.pow 2 1074
  | .double d => (if d.isNegative then -1 else 1) * (d.mantissa * Nat.pow 2 d.scale : Nat)

def Number.IsWhole (n : Number) : Prop :=
  n.units % Nat.pow 2 1074 = 0

namespace Json

/-- Two JSON values are the same value. -/
inductive Same : Json → Json → Prop where
  | null : Same .null .null
  | bool (flag : Bool) : Same (.bool flag) (.bool flag)
  | number {a b : Number} : a.units = b.units → Same (.number a) (.number b)
  | string (text : String) : Same (.string text) (.string text)
  | array {a b : List Json} : a.length = b.length →
      (∀ (i : Nat) x y, a[i]? = some x → b[i]? = some y → Same x y) → Same (.array a) (.array b)
  | object {a b : Members} : (∀ key, (lookup key a).isSome = (lookup key b).isSome) →
      (∀ key x y, lookup key a = some x → lookup key b = some y → Same x y) →
      Same (.object a) (.object b)

def IsObject (value : Json) : Prop :=
  ∃ members, value = .object members

end Json

/-! ## Schemas -/

namespace Schema

open TypeScript (TypeExpr Member)

/-- Whether a value is of a named type. A name without a meaning asks nothing of a value. -/
def OfNamedType (value : Json) : String → Prop
  | "string" => ∃ text, value = .string text
  | "number" => ∃ n, value = .number n
  | "integer" => ∃ n, value = .number n ∧ n.IsWhole
  | "boolean" => ∃ flag, value = .bool flag
  | "null" => value = .null
  | "array" => ∃ items, value = .array items
  | "object" => value.IsObject
  | _ => True

/-- What the keywords of a schema ask of values, the schemas inside it given by the values that
they admit. -/
structure Rules where
  keywords : Keywords
  properties : Option (List (String × (Json → Prop)))
  items : Option (Json → Prop)
  anyOf : Option (List (Json → Prop))
  oneOf : Option (List (Json → Prop))
  allOf : Option (List (Json → Prop))
  additional : Option (Additional (Json → Prop))

namespace Rules

def ExactlyOne (conditions : List (Json → Prop)) (value : Json) : Prop :=
  ∃ before condition after, conditions = before ++ condition :: after ∧ condition value ∧
    ∀ other ∈ before ++ after, ¬ other value

/-- The type names ask for a type; without any, members in the schema ask for an object. -/
def TypeHolds (rules : Rules) (value : Json) : Prop :=
  match rules.keywords.type with
  | some (.one name) => OfNamedType value name
  | some (.many names) => ∃ name ∈ names, OfNamedType value name
  | none => rules.properties.isSome ∨ rules.additional.isSome → value.IsObject

/-- What an undeclared member may hold. -/
def AllowsMore (rules : Rules) (value : Json) : Prop :=
  match rules.additional with
  | some (.allowed flag) => flag = true
  | some (.schema condition) => condition value
  | none => True

/-- All that the keywords ask of a value. -/
structure Hold (rules : Rules) (value : Json) : Prop where
  constant : ∀ given, rules.keywords.constant = some given → value.Same given
  enumeration : ∀ values, rules.keywords.enumeration = some values →
    ∃ given ∈ values, value.Same given
  allOf : ∀ conditions, rules.allOf = some conditions →
    ∀ condition ∈ conditions, condition value
  anyOf : ∀ conditions, rules.anyOf = some conditions →
    ∃ condition ∈ conditions, condition value
  oneOf : ∀ conditions, rules.oneOf = some conditions → ExactlyOne conditions value
  type : rules.TypeHolds value
  items : ∀ condition list, rules.items = some condition → value = .array list →
    ∀ item ∈ list, condition item
  properties : ∀ conditions members, rules.properties = some conditions →
    value = .object members → ∀ name condition, (name, condition) ∈ conditions →
    ∀ held, Json.lookup name members = some held → condition held
  required : ∀ members, value = .object members → ∀ name ∈ rules.keywords.required,
    (Json.lookup name members).isSome = true
  additional : ∀ members, value = .object members → ∀ name held,
    Json.lookup name members = some held →
    (∀ conditions, rules.properties = some conditions → name ∉ conditions.map (·.1)) →
    rules.AllowsMore held

end Rules

variable (named : String → Json → Prop)

mutual

/-- The values that are valid against a schema. A reference means what its name means, whatever
stands beside it; the flag admits `null` in addition. -/
def Admits : Schema → Json → Prop
  | .node keywords properties items anyOf oneOf allOf additional, value =>
      keywords.nullable = some true ∧ value = .null ∨
        match keywords.ref with
        | some reference => named (TypeScript.referencedTypeName reference) value
        | none =>
            Rules.Hold
              { keywords := keywords
                properties := admittedMembers? properties
                items := admitted? items
                anyOf := admittedLists? anyOf
                oneOf := admittedLists? oneOf
                allOf := admittedLists? allOf
                additional := admittedRule? additional } value

def admitted : List Schema → List (Json → Prop)
  | [] => []
  | schema :: rest => Admits schema :: admitted rest

def admittedMembers : List (String × Schema) → List (String × (Json → Prop))
  | [] => []
  | (name, schema) :: rest => (name, Admits schema) :: admittedMembers rest

def admitted? : Option Schema → Option (Json → Prop)
  | some schema => some (Admits schema)
  | none => none

def admittedLists? : Option (List Schema) → Option (List (Json → Prop))
  | some schemas => some (admitted schemas)
  | none => none

def admittedMembers? : Option (List (String × Schema)) → Option (List (String × (Json → Prop)))
  | some schemas => some (admittedMembers schemas)
  | none => none

/-- The rule for undeclared members, its schema given by the values that it admits. -/
def admittedRule? : Option (Additional Schema) → Option (Additional (Json → Prop))
  | some (.allowed flag) => some (.allowed flag)
  | some (.schema schema) => some (.schema (Admits schema))
  | none => none

end

theorem admitted_eq_map (schemas : List Schema) :
    admitted named schemas = schemas.map (Admits named) := by
  induction schemas with
  | nil => rfl
  | cons schema rest ih => rw [admitted, ih, List.map_cons]

theorem admittedMembers_eq_map (schemas : List (String × Schema)) :
    admittedMembers named schemas = schemas.map fun entry => (entry.1, Admits named entry.2) := by
  induction schemas with
  | nil => rfl
  | cons entry rest ih =>
      obtain ⟨name, schema⟩ := entry
      rw [admittedMembers, ih, List.map_cons]

/-- What a schema without a reference asks of values. -/
def rules (schema : Schema) : Rules where
  keywords := schema.keywords
  properties := schema.properties.map fun schemas =>
    schemas.map fun entry => (entry.1, Admits named entry.2)
  items := schema.items.map (Admits named)
  anyOf := schema.anyOf.map (List.map (Admits named))
  oneOf := schema.oneOf.map (List.map (Admits named))
  allOf := schema.allOf.map (List.map (Admits named))
  additional := admittedRule? named schema.additional

theorem admittedLists?_eq_map (schemas : Option (List Schema)) :
    admittedLists? named schemas = schemas.map (List.map (Admits named)) := by
  cases schemas with
  | none => rfl
  | some list => rw [admittedLists?, admitted_eq_map, Option.map_some]

theorem isSome_admittedRule? (rule : Option (Additional Schema)) :
    (admittedRule? named rule).isSome = rule.isSome := by
  match rule with
  | some (.allowed flag) => rfl
  | some (.schema schema) => rfl
  | none => rfl

theorem admits_iff (schema : Schema) (value : Json) :
    Admits named schema value ↔
      schema.keywords.nullable = some true ∧ value = .null ∨
        match schema.keywords.ref with
        | some reference => named (TypeScript.referencedTypeName reference) value
        | none => (schema.rules named).Hold value := by
  cases schema with
  | node keywords properties items anyOf oneOf allOf additional =>
      have members : admittedMembers? named properties = properties.map fun schemas =>
          schemas.map fun entry => (entry.1, Admits named entry.2) := by
        cases properties with
        | none => rfl
        | some list => rw [admittedMembers?, admittedMembers_eq_map, Option.map_some]
      have item : admitted? named items = items.map (Admits named) := by
        cases items <;> rfl
      rw [Admits.eq_def]
      simp only [members, item, admittedLists?_eq_map]
      rfl

end Schema

/-! ## Types -/

namespace TypeScript.TypeExpr

/-- The value that the text of a literal type stands for. -/
inductive Spells : String → Json → Prop where
  | true : Spells "true" (.bool Bool.true)
  | false : Spells "false" (.bool Bool.false)
  | number (n : Number) : Spells n.text (.number n)
  | string (text : String) : Spells (quote text) (.string text)

/-- The values of a keyword. No JSON value is a `Blob`, a `FormData` or `void`. -/
def OfKeyword (value : Json) : String → Prop
  | "string" => ∃ text, value = .string text
  | "number" => ∃ n, value = .number n
  | "boolean" => ∃ flag, value = .bool flag
  | "null" => value = .null
  | "unknown" => True
  | _ => False

variable (named : String → Json → Prop)

mutual

/-- The values that inhabit a type, read by its structure. -/
def Inhabits : TypeExpr → Json → Prop
  | .keyword word, value => OfKeyword value word
  | .literal text, value => ∃ spelled, Spells text spelled ∧ value.Same spelled
  | .array item, value => ∃ items, value = .array items ∧ ∀ held ∈ items, Inhabits item held
  | .union types, value => InhabitsSome types value
  | .intersection types, value => InhabitsAll types value
  | .object members, value => ∃ entries, value = .object entries ∧ HasMembers members entries
  | .record type, value =>
      ∃ entries, value = .object entries ∧
        ∀ name held, Json.lookup name entries = some held → Inhabits type held
  | .ref name, value => named name value

def InhabitsSome : List TypeExpr → Json → Prop
  | [], _ => False
  | type :: rest, value => Inhabits type value ∨ InhabitsSome rest value

def InhabitsAll : List TypeExpr → Json → Prop
  | [], _ => True
  | type :: rest, value => Inhabits type value ∧ InhabitsAll rest value

/-- An object has the members of an object type: each of its type if it is there, and there
unless it is optional. -/
def HasMembers : List (Member TypeExpr) → Members → Prop
  | [], _ => True
  | ⟨name, type, isOptional⟩ :: rest, entries =>
      (∀ held, Json.lookup name entries = some held → Inhabits type held) ∧
        (isOptional = false → (Json.lookup name entries).isSome = true) ∧
        HasMembers rest entries

end

theorem inhabits_union_iff (types : List TypeExpr) (value : Json) :
    Inhabits named (.union types) value ↔ ∃ type ∈ types, Inhabits named type value := by
  rw [Inhabits]
  induction types with
  | nil => simp [InhabitsSome]
  | cons type rest ih => simp [InhabitsSome, ih]

theorem inhabits_intersection_iff (types : List TypeExpr) (value : Json) :
    Inhabits named (.intersection types) value ↔ ∀ type ∈ types, Inhabits named type value := by
  rw [Inhabits]
  induction types with
  | nil => simp [InhabitsAll]
  | cons type rest ih => simp [InhabitsAll, ih]

theorem hasMembers_iff (members : List (Member TypeExpr)) (entries : Members) :
    HasMembers named members entries ↔
      ∀ member ∈ members,
        (∀ held, Json.lookup member.name entries = some held →
          Inhabits named member.type held) ∧
        (member.isOptional = false → (Json.lookup member.name entries).isSome = true) := by
  induction members with
  | nil => simp [HasMembers]
  | cons member rest ih =>
      obtain ⟨name, type, isOptional⟩ := member
      simp [HasMembers, ih, and_assoc]

theorem inhabits_unknown (value : Json) : Inhabits named .unknown value := by
  rw [unknown, Inhabits]
  trivial

theorem inhabits_null : Inhabits named .null .null := by
  rw [null, Inhabits]
  rfl

/-- A type made nullable keeps its values and admits `null`. -/
theorem inhabits_nullable {type : TypeExpr} {value : Json}
    (inhabits : value = .null ∨ Inhabits named type value) :
    Inhabits named type.nullable value := by
  cases type with
  | union types =>
      rw [nullable, inhabits_union_iff]
      rcases inhabits with rfl | inhabits
      · exact ⟨.null, List.mem_append_right _ (List.mem_singleton_self _), inhabits_null named⟩
      · rw [inhabits_union_iff] at inhabits
        obtain ⟨type, part, inhabited⟩ := inhabits
        exact ⟨type, List.mem_append_left _ part, inhabited⟩
  | _ =>
      rw [nullable, inhabits_union_iff]
      · rcases inhabits with rfl | inhabits
        · exact ⟨.null, by simp, inhabits_null named⟩
        · exact ⟨_, by simp, inhabits⟩
      · exact fun types => TypeExpr.noConfusion

/-- A type made nullable admits nothing but `null` in addition. -/
theorem of_inhabits_nullable {type : TypeExpr} {value : Json}
    (inhabits : Inhabits named type.nullable value) :
    value = .null ∨ Inhabits named type value := by
  have ofNull {value : Json} (isNull : Inhabits named .null value) : value = .null := by
    rw [null, Inhabits] at isNull
    exact isNull
  cases type with
  | union types =>
      rw [nullable, inhabits_union_iff] at inhabits
      obtain ⟨part, listed, inhabited⟩ := inhabits
      rcases List.mem_append.mp listed with own | added
      · exact Or.inr ((inhabits_union_iff named types value).mpr ⟨part, own, inhabited⟩)
      · obtain rfl := List.mem_singleton.mp added
        exact Or.inl (ofNull inhabited)
  | _ =>
      rw [nullable, inhabits_union_iff] at inhabits
      · obtain ⟨part, listed, inhabited⟩ := inhabits
        rcases List.mem_cons.mp listed with rfl | added
        · exact Or.inr inhabited
        · obtain rfl := List.mem_singleton.mp added
          exact Or.inl (ofNull inhabited)
      · exact fun types => TypeExpr.noConfusion

/-- A value of one part is a value of the union that the parts collapse to. -/
theorem inhabits_collapse_union {types : List TypeExpr} {value : Json}
    (inhabits : ∃ type ∈ types, Inhabits named type value) :
    Inhabits named (collapse .union types) value := by
  obtain ⟨type, part, inhabited⟩ := inhabits
  match types, part with
  | [only], part =>
      obtain rfl := List.mem_singleton.mp part
      exact inhabited
  | first :: second :: rest, part =>
      exact (inhabits_union_iff named _ value).mpr ⟨type, part, inhabited⟩

/-- A value of all parts is a value of the intersection that the parts collapse to. -/
theorem inhabits_collapse_intersection {types : List TypeExpr} {value : Json}
    (inhabits : ∀ type ∈ types, Inhabits named type value) :
    Inhabits named (collapse .intersection types) value := by
  match types, inhabits with
  | [], _ => exact inhabits_unknown named value
  | [only], inhabits => exact inhabits only (List.mem_singleton_self only)
  | first :: second :: rest, inhabits =>
      exact (inhabits_intersection_iff named _ value).mpr inhabits

end TypeScript.TypeExpr

end ClientGen
