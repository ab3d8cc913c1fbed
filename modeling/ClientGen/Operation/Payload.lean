import ClientGen.Document.Fault
import ClientGen.Schema.Type

/-!
# Payloads

The types of request bodies and of responses. JSON media types are preferred, and a body that comes
as a form and not as JSON is a form.
-/

namespace ClientGen.Operation

open Document (Fault MediaType)
open TypeScript (TypeExpr)

/-- What a request sends: a value as JSON, or a form. -/
inductive Payload where
  | json (type : TypeExpr) (isRequired : Bool)
  | form (isRequired : Bool)
  deriving Repr

namespace Payload

def type : Payload → TypeExpr
  | .json type _ => type
  | .form _ => .formData

def isRequired : Payload → Bool
  | .json _ isRequired => isRequired
  | .form isRequired => isRequired

def isJson : Payload → Bool
  | .json _ _ => true
  | .form _ => false

end Payload

/-- The media types of JSON payloads, the preferred ones first. -/
def jsonMediaTypes : List String := ["application/json", "*/*", "text/json"]

def formMediaTypes : List String := ["multipart/form-data", "application/x-www-form-urlencoded"]

def hasAny (types : List String) (content : List (String × MediaType)) : Bool :=
  types.any fun type => (Document.entry type content).isSome

/-- The media type that a payload is typed by: a JSON one if there is any, otherwise the first one
with a schema. -/
def preferredMedia (content : List (String × MediaType)) : Option MediaType :=
  match jsonMediaTypes.findSome? fun type => Document.entry type content with
  | some media => some media
  | none => (content.find? fun (_, media) => media.schema.isSome).map (·.2)

/-- The type of a payload, if its content has a schema in the preferred place. -/
def contentType (content : List (String × MediaType)) : Option TypeExpr :=
  match preferredMedia content with
  | some media => media.schema.map Schema.typeOf
  | none => none

def bodyPayload (body : Document.RequestBody) : Payload :=
  if hasAny formMediaTypes body.content && !hasAny jsonMediaTypes body.content then
    .form body.isRequired
  else .json ((contentType body.content).getD .unknown) body.isRequired

def resolveBody (document : Document) :
    OrRef Document.RequestBody → Except Fault Document.RequestBody
  | .inline body => .ok body
  | .ref reference =>
      match document.requestBody? reference with
      | some body => .ok body
      | none => .error (.unresolvedBody reference)

/-- The response of a call that succeeds: `200`, then `201`, then any other code that starts with
a two, then the default. -/
def successResponse (operation : Document.Operation) : Option Document.Response :=
  let responses := operation.responses
  (Document.entry "200" responses).or <|
    (Document.entry "201" responses).or <|
      ((responses.find? fun (code, _) => code.toList.head? == some '2').map (·.2)).or <|
        Document.entry "default" responses

def responseType (operation : Document.Operation) : TypeExpr :=
  match successResponse operation with
  | none => .void
  | some response =>
      match response.schema with
      | some schema => schema.typeOf
      | none => (contentType response.content).getD .void

end ClientGen.Operation
