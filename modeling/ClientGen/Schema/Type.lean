import ClientGen.Schema.Basic
import ClientGen.TypeScript.Identifier
import ClientGen.TypeScript.TypeExpr

/-!
# The type of a schema

The TypeScript type that describes the values a schema allows. A reference stands for the named
type whatever else the schema says; then a constant, then the combinations, then an enumeration
decide, and only then the type names.
-/

namespace ClientGen.Schema

open TypeScript (TypeExpr Member)

/-- The type of one JSON value; arrays and objects have no literal type. -/
def literalType : Json → TypeExpr
  | .null => .null
  | .bool true => .literal "true"
  | .bool false => .literal "false"
  | .number n => .literal n.text
  | .string s => .literal (TypeScript.quote s)
  | .array _ => .unknown
  | .object _ => .unknown

/-- The type that a type name stands for, given the type of the items and the type of the members
that the schema describes. -/
def namedType (format : Option String) (item members : TypeExpr) : String → TypeExpr
  | "string" => if format == some "binary" then .keyword "Blob" else .keyword "string"
  | "number" => .keyword "number"
  | "integer" => .keyword "number"
  | "boolean" => .keyword "boolean"
  | "null" => .keyword "null"
  | "file" => .keyword "Blob"
  | "array" => .array item
  | "object" => members
  | _ => .unknown

/-- The type of an object, given its declared members and the type of all its members beside
them. -/
def membersType : Option (List (Member TypeExpr)) → Option TypeExpr → TypeExpr
  | some members, some value => .intersection [.object members, .record value]
  | some members, none => .object members
  | none, some value => .record value
  | none, none => .record .unknown

def typeByNames (keywords : Keywords) (hasMembers : Bool) (item members : TypeExpr) : TypeExpr :=
  match keywords.type with
  | some (.one name) => namedType keywords.format item members name
  | some (.many names) =>
      TypeExpr.collapse .union
        ((names.filter (· != "null")).map (namedType keywords.format item members) ++
          if keywords.isNullable then [.null] else [])
  | none => if hasMembers then members else .unknown

mutual

def typeOf : Schema → TypeExpr
  | .node keywords properties items anyOf oneOf allOf additional =>
      let type :=
        match keywords.ref, keywords.constant, allOf, anyOf, oneOf, keywords.enumeration with
        | some reference, _, _, _, _, _ => .ref (TypeScript.referencedTypeName reference)
        | none, some value, _, _, _, _ => literalType value
        | none, none, some schemas, _, _, _ => TypeExpr.collapse .intersection (typesOf schemas)
        | none, none, none, some schemas, _, _ => TypeExpr.collapse .union (typesOf schemas)
        | none, none, none, none, some schemas, _ => TypeExpr.collapse .union (typesOf schemas)
        | none, none, none, none, none, some values =>
            TypeExpr.collapse .union (values.map literalType)
        | none, none, none, none, none, none =>
            typeByNames keywords (properties.isSome || additional.isSome)
              (match items with
                | some schema => typeOf schema
                | none => .unknown)
              (membersType
                (match properties with
                  | some schemas => some (membersOf keywords.required schemas)
                  | none => none)
                (match additional with
                  | some (.allowed true) => some .unknown
                  | some (.allowed false) => none
                  | some (.schema schema) => some (typeOf schema)
                  | none => none))
      if keywords.nullable == some true then type.nullable else type

def typesOf : List Schema → List TypeExpr
  | [] => []
  | schema :: rest => typeOf schema :: typesOf rest

/-- The members of an object type, given the names of those that must be present. -/
def membersOf (required : List String) : List (String × Schema) → List (Member TypeExpr)
  | [] => []
  | (name, schema) :: rest =>
      ⟨name, typeOf schema, !required.contains name⟩ :: membersOf required rest

end

end ClientGen.Schema
