import ClientGen.Document.Basic
import ClientGen.Schema.Decode

/-!
# Reading API descriptions

An API description is read from a JSON value. It has to declare which version of the format it
follows.
-/

namespace ClientGen

open Decoder (text flag list map record)

/-- Reads a reference or something in place; an object with `$ref` is a reference. -/
def OrRef.decode {α : Type} (type : String) (decode : Decoder α) : Decoder (OrRef α) :=
  Decoder.firstOf type [
    Decoder.objectRecord type (OrRef.ref <$> Fields.required "$ref" text),
    fun value => (decode value).map .inline]

namespace Document

def Info.decode : Decoder Info :=
  record "Info" <|
    Info.mk <$> Fields.optional "title" text <*> Fields.optional "description" text <*>
      Fields.optional "version" text

def Server.decode : Decoder Server :=
  record "Server" (Server.mk <$> Fields.required "url" text)

def Parameter.decode : Decoder Parameter :=
  record "Parameter" <|
    Parameter.mk <$> Fields.required "name" text <*> Fields.required "in" text <*>
      Fields.defaulted "required" false flag <*> Fields.optional "description" text <*>
      Fields.optional "schema" Schema.decode <*> Fields.optional "type" TypeNames.decode <*>
      Fields.optional "format" text <*> Fields.optional "items" Schema.decode <*>
      Fields.optional "enum" (list Decoder.any)

def MediaType.decode : Decoder MediaType :=
  record "MediaType" (MediaType.mk <$> Fields.optional "schema" Schema.decode)

def RequestBody.decode : Decoder RequestBody :=
  record "RequestBody" <|
    RequestBody.mk <$> Fields.defaulted "required" false flag <*>
      Fields.optional "description" text <*>
      Fields.defaulted "content" [] (map MediaType.decode)

def Response.decode : Decoder Response :=
  record "Response" <|
    Response.mk <$> Fields.optional "description" text <*>
      Fields.optional "schema" Schema.decode <*>
      Fields.defaulted "content" [] (map MediaType.decode)

def Operation.decode : Decoder Operation :=
  record "Operation" <|
    Operation.mk <$> Fields.optional "operationId" text <*> Fields.optional "summary" text <*>
      Fields.optional "description" text <*> Fields.defaulted "deprecated" false flag <*>
      Fields.defaulted "parameters" []
        (list (OrRef.decode "ParameterOrRef" Parameter.decode)) <*>
      Fields.optional "requestBody" (OrRef.decode "RequestBodyOrRef" RequestBody.decode) <*>
      Fields.defaulted "responses" [] (map Response.decode)

def PathItem.decode : Decoder PathItem :=
  record "PathItem" <|
    PathItem.mk <$> Fields.optional "get" Operation.decode <*>
      Fields.optional "put" Operation.decode <*> Fields.optional "post" Operation.decode <*>
      Fields.optional "delete" Operation.decode <*>
      Fields.optional "options" Operation.decode <*>
      Fields.optional "head" Operation.decode <*> Fields.optional "patch" Operation.decode <*>
      Fields.defaulted "parameters" [] (list (OrRef.decode "ParameterOrRef" Parameter.decode))

def Components.decode : Decoder Components :=
  record "Components" <|
    Components.mk <$> Fields.defaulted "schemas" [] (map Schema.decode) <*>
      Fields.defaulted "parameters" [] (map Parameter.decode) <*>
      Fields.defaulted "requestBodies" [] (map RequestBody.decode)

def decode : Decoder Document :=
  record "ApiDocument" <|
    Document.mk <$> Fields.optional "swagger" text <*> Fields.optional "openapi" text <*>
      Fields.defaulted "info" ⟨none, none, none⟩ Info.decode <*> Fields.optional "host" text <*>
      Fields.optional "basePath" text <*> Fields.defaulted "schemes" [] (list text) <*>
      Fields.defaulted "servers" [] (list Server.decode) <*>
      Fields.defaulted "paths" [] (map PathItem.decode) <*>
      Fields.defaulted "definitions" [] (map Schema.decode) <*>
      Fields.defaulted "parameters" [] (map Parameter.decode) <*>
      Fields.optional "components" Components.decode

inductive Refusal where
  | malformed (error : DecodeError)
  | noVersion
  deriving DecidableEq, Repr

def Refusal.message : Refusal → String
  | .malformed e => e.message
  | .noVersion => "document declares neither a \x60swagger\x60 nor an \x60openapi\x60 version"

def ofJson (value : Json) : Except Refusal Document :=
  match decode value with
  | .error e => .error (.malformed e)
  | .ok document =>
      if document.swagger.isNone && document.openapi.isNone then .error .noVersion
      else .ok document

end Document

end ClientGen
