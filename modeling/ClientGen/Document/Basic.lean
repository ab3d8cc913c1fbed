import ClientGen.Schema.Basic
import ClientGen.Text.Blank
import ClientGen.Text.Replace

/-!
# API descriptions

The part of a Swagger 2.0 or OpenAPI 3 document that shapes a generated client. Everything that a
document keeps by name is sorted by name.
-/

namespace ClientGen

inductive Method where
  | get
  | put
  | post
  | delete
  | options
  | head
  | patch
  deriving DecidableEq, Repr

def Method.name : Method → String
  | .get => "get"
  | .put => "put"
  | .post => "post"
  | .delete => "delete"
  | .options => "options"
  | .head => "head"
  | .patch => "patch"

/-- Something declared in place, or a reference to where it is declared. -/
inductive OrRef (α : Type) where
  | ref (path : String)
  | inline (value : α)
  deriving Repr

namespace Document

structure Info where
  title : Option String
  description : Option String
  version : Option String
  deriving DecidableEq, Repr

structure Server where
  url : String
  deriving DecidableEq, Repr

/-- A parameter, with a schema or with its type keywords in place. -/
structure Parameter where
  name : String
  location : String
  isRequired : Bool
  description : Option String
  schema : Option Schema
  type : Option TypeNames
  format : Option String
  items : Option Schema
  enumeration : Option (List Json)
  deriving Repr

structure MediaType where
  schema : Option Schema
  deriving Repr

structure RequestBody where
  isRequired : Bool
  description : Option String
  content : List (String × MediaType)
  deriving Repr

structure Response where
  description : Option String
  schema : Option Schema
  content : List (String × MediaType)
  deriving Repr

structure Operation where
  operationId : Option String
  summary : Option String
  description : Option String
  isDeprecated : Bool
  parameters : List (OrRef Parameter)
  requestBody : Option (OrRef RequestBody)
  responses : List (String × Response)
  deriving Repr

structure PathItem where
  get : Option Operation
  put : Option Operation
  post : Option Operation
  delete : Option Operation
  options : Option Operation
  head : Option Operation
  patch : Option Operation
  parameters : List (OrRef Parameter)
  deriving Repr

structure Components where
  schemas : List (String × Schema)
  parameters : List (String × Parameter)
  requestBodies : List (String × RequestBody)
  deriving Repr

/-- The schema of a parameter's value, whichever form it was given in. -/
def Parameter.valueSchema (parameter : Parameter) : Schema :=
  match parameter.schema with
  | some schema => schema
  | none =>
      .node
        { Schema.Keywords.none with
          type := parameter.type
          format := parameter.format
          enumeration := parameter.enumeration }
        none parameter.items none none none none

def PathItem.operations (item : PathItem) : List (Method × Operation) :=
  [(Method.get, item.get), (.post, item.post), (.put, item.put), (.patch, item.patch),
    (.delete, item.delete), (.head, item.head), (.options, item.options)].filterMap
    fun (method, operation) => operation.map fun op => (method, op)

end Document

structure Document where
  swagger : Option String
  openapi : Option String
  info : Document.Info
  host : Option String
  basePath : Option String
  schemes : List String
  servers : List Document.Server
  paths : List (String × Document.PathItem)
  definitions : List (String × Schema)
  parameters : List (String × Document.Parameter)
  components : Option Document.Components
  deriving Repr

namespace Document

def entry {α : Type} (name : String) (entries : List (String × α)) : Option α :=
  (entries.find? fun (key, _) => key == name).map (·.2)

/-- The named schemas: definitions, then components. -/
def schemas (document : Document) : List (String × Schema) :=
  document.definitions ++ match document.components with
    | some components => components.schemas
    | none => []

def parameter? (document : Document) (reference : String) : Option Parameter :=
  match Text.stripStart? "#/parameters/" reference with
  | some name => entry name document.parameters
  | none =>
      match Text.stripStart? "#/components/parameters/" reference, document.components with
      | some name, some components => entry name components.parameters
      | _, _ => none

def requestBody? (document : Document) (reference : String) : Option RequestBody :=
  match Text.stripStart? "#/components/requestBodies/" reference, document.components with
  | some name, some components => entry name components.requestBodies
  | _, _ => none

/-- The base of all request URLs, without a slash at its end: the first server, or else scheme,
host and base path. -/
def serverUrl? (document : Document) : Option String :=
  match document.servers with
  | server :: _ => some (Text.trimEnd '/' server.url)
  | [] =>
      let base := Text.trimEnd '/' (document.basePath.getD "")
      match document.host with
      | some host => some (document.schemes.headD "https" ++ "://" ++ host ++ base)
      | none => if base.isEmpty then none else some base

end Document

end ClientGen
