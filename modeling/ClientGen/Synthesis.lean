import ClientGen.Record

/-!
# Modules of a graph

The trees of the request file and of the typings file. The request file imports its types when
they have a file of their own and declares them otherwise.
-/

namespace ClientGen.Synthesis

open TypeScript (TypeSpec Module)

def importStatement (imported : Graph.Import) : TypeScript.Import where
  default := if imported.isNamespace then none else imported.name
  namespaceName := if imported.isNamespace then imported.name else none
  items := imported.names.map fun name => ⟨name, none⟩
  source := imported.module
  isTypeOnly := imported.isTypeOnly

def variableKind : Graph.VariableKind → TypeScript.VariableKind
  | .const => .const
  | .let => .let
  | .var => .var

def variableStatement (declared : Graph.Variable) : TypeScript.Variable where
  kind := variableKind declared.kind
  name := declared.name
  init := declared.value
  isExported := declared.isExported

def property (field : Graph.Field) : TypeScript.Property where
  name := field.name
  type := TypeSpec.ofText field.type
  isOptional := !field.isRequired
  docs := field.description

def aliasDefinition (declared : Graph.Alias) : TypeScript.TypeDefinition where
  name := declared.name
  definition := .typeAlias (TypeSpec.ofText (some declared.value))
  docs := declared.description
  isExported := declared.isExported

def interfaceDefinition (declared : Graph.Interface) : TypeScript.TypeDefinition where
  name := declared.name
  definition := .interface (declared.properties.map property)
  docs := declared.description
  isExported := declared.isExported

def envelopeDefinition (envelope : Graph.Envelope) : List TypeScript.TypeDefinition :=
  match envelope.infer with
  | some infer =>
      [{ name := envelope.typeName ++ "<T>"
         definition := .typeAlias (.expression infer)
         docs := []
         isExported := true }]
  | none => []

def typeDefinitions (graph : Graph) : List TypeScript.TypeDefinition :=
  graph.aliases.map aliasDefinition ++ graph.interfaces.map interfaceDefinition ++
    envelopeDefinition graph.envelope

def parameterDocs (field : Graph.Field) : List String :=
  match field.description with
  | [] => []
  | first :: rest => ("@param " ++ field.name ++ " " ++ first) :: rest

def parameter (field : Graph.Field) : TypeScript.Parameter where
  name := field.name
  type := field.type.map fun type => TypeSpec.ofText (some type)
  isOptional := !field.isRequired

def functionStatement (function : Graph.Function) : TypeScript.Function where
  name := function.name
  docs := function.description ++ function.parameters.flatMap parameterDocs
  parameters := function.parameters.map parameter
  returnType := function.returnType.map fun type => TypeSpec.ofText (some type)
  body := function.body
  isAsync := function.isAsync
  isExported := true

def importedTypeNames (graph : Graph) : List String :=
  graph.typeNames ++ (graph.envelope.infer.map fun _ => graph.envelope.typeName).toList

/-- The module that types are imported from: the configured one, or else that of the output. -/
def typingsSource (record : Record) (typings : Output) : Option String :=
  (record.config.shaping.imports.bind (·.typings)).or typings.specifier

/-- The import of the types, if there are types and a module to import them from. -/
def typingsImport (record : Record) (typings : Output) : List TypeScript.Import :=
  match importedTypeNames record.graph, typingsSource record typings with
  | [], _ => []
  | _, none => []
  | names, some source =>
      [{ default := none
         namespaceName := none
         items := names.map fun name => ⟨name, none⟩
         source := source
         isTypeOnly := true }]

def requestModule (record : Record) : Module where
  header := record.graph.comments
  imports :=
    record.graph.imports.map importStatement ++
      match record.output? .typings with
      | some typings => typingsImport record typings
      | none => []
  bindings := record.graph.bindings.map variableStatement
  types :=
    match record.output? .typings with
    | some _ => []
    | none => typeDefinitions record.graph
  functions := record.graph.functions.map functionStatement

def typingsModule (record : Record) : Module where
  header := record.graph.comments
  imports := []
  bindings := []
  types := typeDefinitions record.graph
  functions := []

end ClientGen.Synthesis
