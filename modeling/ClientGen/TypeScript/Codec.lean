import ClientGen.Json.Decode
import ClientGen.TypeScript.Print

/-!
# Modules as JSON values

The JSON form of a module and its parts, in both directions. Members that are left out stand for
nothing, for false, or for the empty text or list.
-/

namespace ClientGen.TypeScript

open Decoder (list objectRecord)

def textField (name : String) : Fields String :=
  Fields.defaulted name "" Decoder.text

def flagField (name : String) : Fields Bool :=
  Fields.defaulted name false Decoder.flag

def listField {α : Type} (name : String) (decode : Decoder α) : Fields (List α) :=
  Fields.defaulted name [] (list decode)

def optionalText (name : String) : Fields (Option String) :=
  Fields.omissible name Decoder.text

def encodeText? : Option String → Json
  | some text => .string text
  | none => .null

def encodeTexts (texts : List String) : Json :=
  .array (texts.map .string)

namespace TypeSpec

def ofParts (keyword text : Option String) : TypeSpec :=
  match keyword.bind Primitive.ofText?, keyword.or text with
  | some primitive, _ => .keyword primitive
  | none, text => .expression (text.getD "")

def decode : Decoder TypeSpec :=
  objectRecord "Type" (ofParts <$> optionalText "primitive" <*> optionalText "ref")

def encode : TypeSpec → Json
  | .keyword primitive => .object [("primitive", .string primitive.text)]
  | .expression text => .object [("ref", .string text)]

def encode? : Option TypeSpec → Json
  | some type => type.encode
  | none => .null

end TypeSpec

namespace Property

def decode : Decoder Property :=
  objectRecord "Property" <|
    Property.mk <$> textField "name" <*> Fields.required "type" TypeSpec.decode <*>
      flagField "optional" <*> listField "docs" Decoder.text

def encode (property : Property) : Json :=
  .object [("name", .string property.name), ("type", property.type.encode),
    ("optional", .bool property.isOptional), ("docs", encodeTexts property.docs)]

end Property

namespace ImportItem

def decode : Decoder ImportItem :=
  objectRecord "ImportItem" (ImportItem.mk <$> textField "name" <*> optionalText "alias")

def encode (item : ImportItem) : Json :=
  .object [("name", .string item.name), ("alias", encodeText? item.localName)]

end ImportItem

namespace Import

def decode : Decoder Import :=
  objectRecord "Import" <|
    Import.mk <$> optionalText "default" <*> optionalText "namespace" <*>
      listField "items" ImportItem.decode <*> textField "from" <*> flagField "typeOnly"

def encode (statement : Import) : Json :=
  .object [("default", encodeText? statement.default),
    ("namespace", encodeText? statement.namespaceName),
    ("items", .array (statement.items.map ImportItem.encode)),
    ("from", .string statement.source), ("typeOnly", .bool statement.isTypeOnly)]

end Import

namespace VariableKind

def decode : Decoder VariableKind :=
  Decoder.word [("const", .const), ("let", .let), ("var", .var)]

end VariableKind

namespace Variable

def decode : Decoder Variable :=
  objectRecord "Variable" <|
    Variable.mk <$> Fields.defaulted "kind" .const VariableKind.decode <*> textField "name" <*>
      optionalText "init" <*> flagField "export"

def encode (statement : Variable) : Json :=
  .object [("kind", .string statement.kind.print), ("name", .string statement.name),
    ("init", encodeText? statement.init), ("export", .bool statement.isExported)]

end Variable

namespace Definition

def ofParts (properties : Option (List Property)) (type : Option TypeSpec) : Definition :=
  match properties with
  | some properties => .interface properties
  | none => .typeAlias (type.getD (TypeSpec.expression ""))

def fields : Fields Definition :=
  ofParts <$> Fields.omissible "interface" (list Property.decode) <*>
    Fields.omissible "alias" TypeSpec.decode

def members : Definition → Members
  | .interface properties => [("interface", .array (properties.map Property.encode))]
  | .typeAlias type => [("alias", type.encode)]

end Definition

namespace TypeDefinition

def decode : Decoder TypeDefinition :=
  objectRecord "TypeDefinition" <|
    TypeDefinition.mk <$> textField "name" <*> Definition.fields <*>
      listField "docs" Decoder.text <*> flagField "export"

def encode (type : TypeDefinition) : Json :=
  .object ([("name", .string type.name), ("docs", encodeTexts type.docs),
    ("export", .bool type.isExported)] ++ type.definition.members)

end TypeDefinition

namespace Parameter

def decode : Decoder Parameter :=
  objectRecord "Parameter" <|
    Parameter.mk <$> textField "name" <*> Fields.omissible "type" TypeSpec.decode <*>
      flagField "optional"

def encode (parameter : Parameter) : Json :=
  .object [("name", .string parameter.name), ("type", TypeSpec.encode? parameter.type),
    ("optional", .bool parameter.isOptional)]

end Parameter

namespace Function

def decode : Decoder Function :=
  objectRecord "Function" <|
    Function.mk <$> textField "name" <*> listField "docs" Decoder.text <*>
      listField "params" Parameter.decode <*> Fields.omissible "returnType" TypeSpec.decode <*>
      listField "body" Decoder.text <*> flagField "async" <*> flagField "export"

def encode (function : Function) : Json :=
  .object [("name", .string function.name), ("docs", encodeTexts function.docs),
    ("params", .array (function.parameters.map Parameter.encode)),
    ("returnType", TypeSpec.encode? function.returnType), ("body", encodeTexts function.body),
    ("async", .bool function.isAsync), ("export", .bool function.isExported)]

end Function

namespace Module

def decode : Decoder Module :=
  objectRecord "Module" <|
    Module.mk <$> listField "header" Decoder.text <*> listField "imports" Import.decode <*>
      listField "variables" Variable.decode <*> listField "types" TypeDefinition.decode <*>
      listField "functions" Function.decode

def encode (module : Module) : Json :=
  .object [("header", encodeTexts module.header),
    ("imports", .array (module.imports.map Import.encode)),
    ("variables", .array (module.bindings.map Variable.encode)),
    ("types", .array (module.types.map TypeDefinition.encode)),
    ("functions", .array (module.functions.map Function.encode)),
    ("isEmpty", .bool module.isEmpty)]

end Module

end ClientGen.TypeScript
