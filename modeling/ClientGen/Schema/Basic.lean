import ClientGen.Json.Basic

/-!
# Schemas

The part of JSON Schema that shapes generated types. Keywords that hold no further schema are
kept together; the others are the children of a schema.
-/

namespace ClientGen

/-- The `type` of a schema: one name or a list of names. -/
inductive TypeNames where
  | one (name : String)
  | many (names : List String)
  deriving DecidableEq, Repr

structure Schema.Keywords where
  type : Option TypeNames
  ref : Option String
  required : List String
  enumeration : Option (List Json)
  format : Option String
  description : Option String
  constant : Option Json
  nullable : Option Bool
  deriving Repr

/-- What members beside the declared ones may hold: anything, nothing, or what a schema allows. -/
inductive Additional (σ : Type) where
  | allowed (flag : Bool)
  | schema (schema : σ)
  deriving Repr

/-- A schema. The properties are sorted by name. -/
inductive Schema where
  | node (keywords : Schema.Keywords)
      (properties : Option (List (String × Schema)))
      (items : Option Schema)
      (anyOf oneOf allOf : Option (List Schema))
      (additional : Option (Additional Schema))
  deriving Repr

namespace Schema

def Keywords.none : Keywords where
  type := .none
  ref := .none
  required := []
  enumeration := .none
  format := .none
  description := .none
  constant := .none
  nullable := .none

/-- The schema without keywords, which allows everything. -/
def empty : Schema :=
  .node .none .none .none .none .none .none .none

instance : Inhabited Schema := ⟨empty⟩

def keywords : Schema → Keywords
  | .node keywords _ _ _ _ _ _ => keywords

def properties : Schema → Option (List (String × Schema))
  | .node _ properties _ _ _ _ _ => properties

def items : Schema → Option Schema
  | .node _ _ items _ _ _ _ => items

def anyOf : Schema → Option (List Schema)
  | .node _ _ _ anyOf _ _ _ => anyOf

def oneOf : Schema → Option (List Schema)
  | .node _ _ _ _ oneOf _ _ => oneOf

def allOf : Schema → Option (List Schema)
  | .node _ _ _ _ _ allOf _ => allOf

def additional : Schema → Option (Additional Schema)
  | .node _ _ _ _ _ _ additional => additional

/-- Whether the keywords themselves admit `null`: by the flag or by the list of type names. -/
def Keywords.isNullable (keywords : Keywords) : Bool :=
  keywords.nullable == some true ||
    match keywords.type with
    | some (.many names) => names.contains "null"
    | _ => false

/-- Whether a schema itself says that it admits `null`. -/
def isNullable (schema : Schema) : Bool :=
  schema.keywords.isNullable

end Schema

end ClientGen
