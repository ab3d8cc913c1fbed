import ClientGen.Graph.Basic
import ClientGen.Schema.Type
import ClientGen.Text.Lines

/-!
# Declarations of named schemas

How a schema that a document names is declared: a plain object as an interface, anything else as
an alias for its type.
-/

namespace ClientGen.Schema

inductive Declaration where
  | interface (declared : Graph.Interface)
  | typeAlias (declared : Graph.Alias)
  deriving DecidableEq, Repr

def descriptionLines : Option String → List String
  | some text => Text.lines text
  | none => []

/-- Whether nothing but its properties decides about a schema. -/
def isPlainObject (schema : Schema) : Bool :=
  schema.keywords.ref.isNone && schema.allOf.isNone && schema.anyOf.isNone &&
    schema.oneOf.isNone && schema.keywords.enumeration.isNone && schema.additional.isNone &&
    schema.keywords.nullable != some true

def propertyField (required : List String) (name : String) (property : Schema) : Graph.Field where
  name := name
  type := some property.typeOf.text
  isRequired := required.contains name
  description := descriptionLines property.keywords.description

def declare (schema : Schema) (name : String) : Declaration :=
  let typeName := TypeScript.sanitizeTypeName name
  let description := descriptionLines schema.keywords.description
  match schema.properties, schema.isPlainObject with
  | some properties, true =>
      .interface
        { name := typeName
          properties := properties.map fun (key, property) =>
            propertyField schema.keywords.required key property
          isExported := true
          description := description }
  | _, _ =>
      .typeAlias
        { name := typeName
          value := schema.typeOf.text
          isExported := true
          description := description }

end ClientGen.Schema
