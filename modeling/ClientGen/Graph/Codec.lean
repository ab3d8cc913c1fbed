import ClientGen.Graph.Basic
import ClientGen.Json.Decode

/-!
# Graphs as JSON values

The JSON form of a graph and its parts, in both directions. What is absent or empty by nature is
left out of the written form and may be left out of the read one.
-/

namespace ClientGen

namespace Json

def texts (values : List String) : Json :=
  .array (values.map .string)

def textMember (key : String) : Option String → Members
  | some value => [(key, .string value)]
  | none => []

/-- A member for a list of texts, none for the empty list. -/
def textsMember (key : String) : List String → Members
  | [] => []
  | values => [(key, texts values)]

end Json

namespace Graph

open Decoder (text flag list record)

def Field.decode : Decoder Field :=
  record "StatementField" <|
    Field.mk <$> Fields.required "name" text <*> Fields.omissible "type" text <*>
      Fields.defaulted "required" false flag <*> Fields.defaulted "description" [] (list text)

def Field.encode (field : Field) : Json :=
  .object <|
    [("name", .string field.name)] ++ Json.textMember "type" field.type ++
      [("required", .bool field.isRequired)] ++
      Json.textsMember "description" field.description

def Function.decode : Decoder Function :=
  record "StatementFunction" <|
    Function.mk <$> Fields.required "name" text <*>
      Fields.defaulted "description" [] (list text) <*>
      Fields.defaulted "parameters" [] (list Field.decode) <*>
      Fields.omissible "returnType" text <*> Fields.defaulted "body" [] (list text) <*>
      Fields.defaulted "async" false flag

def Function.encode (function : Function) : Json :=
  .object <|
    [("name", .string function.name)] ++ Json.textsMember "description" function.description ++
      [("parameters", .array (function.parameters.map Field.encode))] ++
      Json.textMember "returnType" function.returnType ++
      [("body", Json.texts function.body), ("async", .bool function.isAsync)]

def Import.decode : Decoder Import :=
  record "StatementImported" <|
    Import.mk <$> Fields.omissible "name" text <*> Fields.required "value" text <*>
      Fields.defaulted "names" [] (list text) <*> Fields.defaulted "namespace" false flag <*>
      Fields.defaulted "type" false flag

def Import.encode (imported : Import) : Json :=
  .object <|
    Json.textMember "name" imported.name ++ [("value", .string imported.module)] ++
      Json.textsMember "names" imported.names ++
      [("namespace", .bool imported.isNamespace), ("type", .bool imported.isTypeOnly)]

def VariableKind.word : VariableKind → String
  | .const => "const"
  | .let => "let"
  | .var => "var"

def VariableKind.decode : Decoder VariableKind :=
  Decoder.word [("const", .const), ("let", .let), ("var", .var)]

def Variable.decode : Decoder Variable :=
  record "StatementVariable" <|
    Variable.mk <$> Fields.defaulted "flag" .const VariableKind.decode <*>
      Fields.required "name" text <*> Fields.omissible "value" text <*>
      Fields.defaulted "export" false flag

def Variable.encode (declared : Variable) : Json :=
  .object <|
    [("flag", .string declared.kind.word), ("name", .string declared.name)] ++
      Json.textMember "value" declared.value ++ [("export", .bool declared.isExported)]

def Alias.decode : Decoder Alias :=
  record "StatementTypeAlias" <|
    Alias.mk <$> Fields.required "name" text <*> Fields.required "value" text <*>
      Fields.defaulted "export" false flag <*> Fields.defaulted "description" [] (list text)

def Alias.encode (declared : Alias) : Json :=
  .object <|
    [("name", .string declared.name), ("value", .string declared.value),
      ("export", .bool declared.isExported)] ++
      Json.textsMember "description" declared.description

def Interface.decode : Decoder Interface :=
  record "StatementInterface" <|
    Interface.mk <$> Fields.required "name" text <*>
      Fields.defaulted "properties" [] (list Field.decode) <*>
      Fields.defaulted "export" false flag <*> Fields.defaulted "description" [] (list text)

def Interface.encode (declared : Interface) : Json :=
  .object <|
    [("name", .string declared.name),
      ("properties", .array (declared.properties.map Field.encode)),
      ("export", .bool declared.isExported)] ++
      Json.textsMember "description" declared.description

def Envelope.decode : Decoder Envelope :=
  record "StatementResponse" <|
    Envelope.mk <$> Fields.required "type" text <*> Fields.omissible "generic" text <*>
      Fields.omissible "infer" text

def Envelope.encode (envelope : Envelope) : Json :=
  .object <|
    [("type", .string envelope.typeName)] ++ Json.textMember "generic" envelope.wrapper ++
      Json.textMember "infer" envelope.infer

def decode : Decoder Graph :=
  record "Graph" <|
    Graph.mk <$> Fields.required "comments" (list text) <*>
      Fields.required "functions" (list Function.decode) <*>
      Fields.required "imports" (list Import.decode) <*>
      Fields.required "variables" (list Variable.decode) <*>
      Fields.required "typings" (list Alias.decode) <*>
      Fields.required "interfaces" (list Interface.decode) <*>
      Fields.required "response" Envelope.decode

def encode (graph : Graph) : Json :=
  .object [
    ("comments", Json.texts graph.comments),
    ("functions", .array (graph.functions.map Function.encode)),
    ("imports", .array (graph.imports.map Import.encode)),
    ("variables", .array (graph.bindings.map Variable.encode)),
    ("typings", .array (graph.aliases.map Alias.encode)),
    ("interfaces", .array (graph.interfaces.map Interface.encode)),
    ("response", graph.envelope.encode)]

end Graph

end ClientGen
