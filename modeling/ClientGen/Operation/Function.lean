import ClientGen.Operation.Call
import ClientGen.Operation.Parameters
import ClientGen.Operation.Payload
import ClientGen.Operation.Url
import ClientGen.Schema.Declaration

/-!
# Functions of operations

Every operation of a document becomes one function. Its parameters are those of the path, the
query, the payload and the options of the call, required ones before optional ones.
-/

namespace ClientGen.Operation

open Document (Parameter Fault)
open TypeScript (TypeExpr Member sanitizeIdentifier)

/-- Settings that shape the functions. -/
structure Settings where
  client : Client
  baseUrl : Option String
  allOptional : Bool
  wrapper : String
  infer : Option String
  httpModule : Option String
  deriving DecidableEq, Repr

structure Site where
  path : String
  method : Method
  item : Document.PathItem
  operation : Document.Operation
  deriving Repr

namespace Site

/-- The name of the function: from the identifier of the operation, or else from the method and
the parts of the path. -/
def name (site : Site) : String :=
  let byPath :=
    let parts := (Text.split '/' site.path.toList).map
      (Text.trimBy fun c => c == '\x7b' || c == '\x7d')
    let parts := (parts.filter (!·.isEmpty)).map String.ofList
    sanitizeIdentifier (site.method.name ++ " " ++ Text.join " " parts)
  match site.operation.operationId with
  | some id => if Text.isBlankText id then byPath else sanitizeIdentifier id
  | none => byPath

def docs (site : Site) : List String :=
  (match site.operation.summary with
    | some summary => ["@summary " ++ summary]
    | none => []) ++
    Schema.descriptionLines site.operation.description ++
    ["@method " ++ site.method.name, "@path " ++ site.path] ++
    (if site.operation.isDeprecated then ["@deprecated"] else [])

end Site

def located (location : String) (parameters : List Parameter) : List Parameter :=
  parameters.filter (·.location == location)

def pathField (parameter : Parameter) : String × Graph.Field :=
  (parameter.name,
    { name := sanitizeIdentifier parameter.name
      type := some parameter.valueSchema.typeOf.text
      isRequired := true
      description := Schema.descriptionLines parameter.description })

/-- Adds a text parameter for each placeholder that no parameter fills yet. -/
def addPlaceholders (fields : List (String × Graph.Field)) :
    List String → List (String × Graph.Field)
  | [] => fields
  | name :: rest =>
      if fields.any fun (filled, _) => filled == name then addPlaceholders fields rest
      else addPlaceholders
        (fields ++ [(name, Graph.Field.required (sanitizeIdentifier name) "string")]) rest

def pathFields (path : String) (parameters : List Parameter) : List (String × Graph.Field) :=
  addPlaceholders ((located "path" parameters).map pathField) (placeholders path)

def queryMembers (parameters : List Parameter) : List (Member TypeExpr) :=
  (located "query" parameters).map fun parameter =>
    ⟨parameter.name, parameter.valueSchema.typeOf, !parameter.isRequired⟩

def queryField : List (Member TypeExpr) → List Graph.Field
  | [] => []
  | members =>
      [{ name := "query"
         type := some (TypeExpr.object members).text
         isRequired := members.any fun member => !member.isOptional
         description := [] }]

/-- What an operation sends: its last body parameter, or a form if it has form parameters, or its
request body. -/
def payload (document : Document) (parameters : List Parameter) (operation : Document.Operation) :
    Except Fault (Option Payload) :=
  match (located "body" parameters).getLast?, located "formData" parameters,
      operation.requestBody with
  | some parameter, _, _ =>
      .ok (some (.json parameter.valueSchema.typeOf parameter.isRequired))
  | none, form :: forms, _ => .ok (some (.form ((form :: forms).any (·.isRequired))))
  | none, [], some body => (resolveBody document body).map fun body => some (bodyPayload body)
  | none, [], none => .ok none

def payloadField : Option Payload → List Graph.Field
  | some payload =>
      [{ name := "body"
         type := some payload.type.text
         isRequired := payload.isRequired
         description := [] }]
  | none => []

/-- Moves the required fields to the front, keeping the order among them and among the others. -/
def requiredFirst (fields : List Graph.Field) : List Graph.Field :=
  fields.filter (·.isRequired) ++ fields.filter (!·.isRequired)

/-- The parameters of the function: those given, and the options of the call at the end. -/
def parameterList (settings : Settings) (fields : List Graph.Field) : List Graph.Field :=
  let fields :=
    if settings.allOptional then fields.map fun field => { field with isRequired := false }
    else fields
  requiredFirst fields ++ [Graph.Field.optional "config" settings.client.configType]

def function (document : Document) (settings : Settings) (envelope : Graph.Envelope)
    (site : Site) : Except Fault Graph.Function := do
  let parameters ← mergedParameters document site.item site.operation
  let payload ← payload document parameters site.operation
  let path := pathFields site.path parameters
  let query := queryMembers parameters
  let response := responseType site.operation
  let call : Call :=
    { method := site.method
      url := urlTemplate site.path (path.map fun (name, field) => (name, field.name))
      hasQuery := !query.isEmpty
      payload := payload.map fun payload => if payload.isJson then .json else .form
      responseType := envelope.bodyType response.text
      answersBody := !response.isVoid
      hasBaseUrl := settings.baseUrl.isSome }
  return {
    name := site.name
    description := site.docs
    parameters := parameterList settings
      (path.map (·.2) ++ queryField query ++ payloadField payload)
    returnType := some (envelope.wrap response.text)
    body := call.lines settings.client
    isAsync := settings.client == .fetch }

end ClientGen.Operation
