import ClientGen.Config.Basic
import ClientGen.Operation.Function

/-!
# The graph of an API description

The parts of the client for a document: a header from what the document says about itself, the
imports of the HTTP client, the base URL, one declaration for every named schema, and one function
for every operation. Paths and schemas come in the order of their names.
-/

namespace ClientGen.Graph

open Document (Fault)
open Operation (Settings Site)

def responseTypeName : String := "InferResponse"

def settings (shaping : Shaping) (document : Document) (client : Client) : Settings where
  client := client
  baseUrl :=
    match shaping.baseUrl with
    | some (.value url) => some url
    | some (.flag false) => none
    | some (.flag true) => some (document.serverUrl?.getD "")
    | none => some (document.serverUrl?.getD "")
  allOptional := shaping.allOptional.getD false
  wrapper := (shaping.responses.bind ResponseShape.wrapper?).getD client.defaultWrapper
  infer := shaping.responses.bind ResponseShape.infer?
  httpModule := shaping.imports.bind (·.http)

def headerLines (info : Document.Info) : List String :=
  (info.title.map ("@title " ++ ·)).toList ++ (info.version.map ("@version " ++ ·)).toList ++
    Schema.descriptionLines info.description

def baseUrlVariable (settings : Settings) : List Variable :=
  (settings.baseUrl.map fun url =>
    { kind := .const, name := "baseURL", value := some (TypeScript.quote url),
      isExported := true }).toList

def envelopeOf (settings : Settings) : Envelope :=
  ⟨responseTypeName, some settings.wrapper, settings.infer⟩

/-- The operations of a document in the order of their functions. -/
def sites (document : Document) : List Site :=
  document.paths.flatMap fun (path, item) =>
    item.operations.map fun (method, operation) => ⟨path, method, item, operation⟩

/-- Builds the functions one after the other, refusing a name that was built before. -/
def functionsOf (document : Document) (settings : Settings) (envelope : Envelope)
    (taken : List String) : List Site → Except Fault (List Function)
  | [] => .ok []
  | site :: rest =>
      match Operation.function document settings envelope site with
      | .error fault => .error fault
      | .ok function =>
          if taken.contains function.name then .error (.repeatedOperation function.name)
          else (functionsOf document settings envelope (function.name :: taken) rest).map fun fs =>
            function :: fs

def aliasesIn (declarations : List Schema.Declaration) : List Alias :=
  declarations.filterMap fun
    | .typeAlias declared => some declared
    | .interface _ => none

def interfacesIn (declarations : List Schema.Declaration) : List Interface :=
  declarations.filterMap fun
    | .typeAlias _ => none
    | .interface declared => some declared

def ofDocument (document : Document) (shaping : Shaping) (client : Client) :
    Except Fault Graph := do
  let settings := settings shaping document client
  let declarations := document.schemas.map fun (name, schema) => schema.declare name
  let functions ← functionsOf document settings (envelopeOf settings) [] (sites document)
  return {
    comments := headerLines document.info
    functions := functions
    imports := client.imports settings.httpModule
    bindings := baseUrlVariable settings
    aliases := aliasesIn declarations
    interfaces := interfacesIn declarations
    envelope := envelopeOf settings }

end ClientGen.Graph
