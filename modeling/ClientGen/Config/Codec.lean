import ClientGen.Config.Basic
import ClientGen.Json.Decode

/-!
# Configurations as JSON values

The JSON form of configurations, in both directions. The settings that shape the code stand beside
the other members of a configuration. Unknown members are passed over except under `output`. A
configuration with `servers` is tried first, so it is never taken for a single one unless its list
is no list of configurations.
-/

namespace ClientGen

open Decoder (text flag list record countedRecord objectRecord firstOf tagged)

def Input.decode : Decoder Input :=
  tagged [
    ("uri", fun value => (text value).map .uri),
    ("json", firstOf "JsonSource" [
      fun value => (text value).map .file,
      fun value => match value with
        | .object members => .ok (.inline members)
        | value => Decoder.reject .map value])]

def Input.encode : Input → Json
  | .uri address => .object [("uri", .string address)]
  | .file path => .object [("json", .string path)]
  | .inline object => .object [("json", .object object)]

def InputOption.decode : Decoder InputOption :=
  firstOf "InputOption" [
    fun value => (text value).map .shorthand,
    fun value => (Input.decode value).map .described]

def InputOption.encode : InputOption → Json
  | .shorthand uri => .string uri
  | .described input => input.encode

def Switch.decode : Decoder Switch :=
  firstOf "Toggle" [
    fun value => (Decoder.text value).map .value,
    fun value => (Decoder.flag value).map .flag]

def Switch.encode : Switch → Json
  | .value text => .string text
  | .flag on => .bool on

def Json.optionalMember {α : Type} (key : String) (encode : α → Json) : Option α → Members
  | some a => [(key, encode a)]
  | none => []

namespace OutputPaths

def fields : Fields OutputPaths :=
  OutputPaths.mk <$> Fields.omissible "main" text <*> Fields.omissible "type" Switch.decode

/-- Reads output paths, refusing unknown members. -/
def decode : Decoder OutputPaths :=
  record "OutputOptions" (fields.closed ["main", "type"])

def encode (output : OutputPaths) : Json :=
  .object <|
    Json.optionalMember "main" .string output.main ++
      Json.optionalMember "type" Switch.encode output.typings

end OutputPaths

namespace ImportModules

def fields : Fields ImportModules :=
  ImportModules.mk <$> Fields.omissible "http" text <*> Fields.omissible "type" text

def encode (imports : ImportModules) : Json :=
  .object <|
    Json.optionalMember "http" .string imports.http ++
      Json.optionalMember "type" .string imports.typings

end ImportModules

namespace ResponseShape

def decode : Decoder ResponseShape :=
  firstOf "ResponseType" [
    fun value => (text value).map .inferred,
    objectRecord "ResponseType" <|
      .detailed <$> Fields.omissible "generic" text <*> Fields.omissible "infer" text]

def encode : ResponseShape → Json
  | .inferred infer => .string infer
  | .detailed wrapper infer =>
      .object <|
        Json.optionalMember "generic" .string wrapper ++
          Json.optionalMember "infer" .string infer

end ResponseShape

namespace Shaping

/-- The fields of the settings that shape the code, given how records among them are read. -/
def fields (record : String → Fields ImportModules → Decoder ImportModules) : Fields Shaping :=
  Shaping.mk <$> Fields.omissible "baseURL" Switch.decode <*>
    Fields.omissible "import" (record "ImportOverrides" ImportModules.fields) <*>
    Fields.omissible "responseType" ResponseShape.decode <*>
    Fields.omissible "paramsPartial" flag

def decode : Decoder Shaping :=
  record "Meta" (fields record)

def members (shaping : Shaping) : Members :=
  Json.optionalMember "baseURL" Switch.encode shaping.baseUrl ++
    Json.optionalMember "import" ImportModules.encode shaping.imports ++
    Json.optionalMember "responseType" ResponseShape.encode shaping.responses ++
    Json.optionalMember "paramsPartial" .bool shaping.allOptional

def encode (shaping : Shaping) : Json :=
  .object shaping.members

end Shaping

/-- Reads a record that has the settings that shape the code beside its own fields, from an
object. -/
def Decoder.shaped {α : Type} (name : String) (own : Fields (Shaping → α)) : Decoder α
  | .object members =>
      match own.ofMembers members, (Shaping.fields countedRecord).ofMembers members with
      | .ok build, .ok shaping => .ok (build shaping)
      | .ok _, .error fault => .error fault.error
      | .error fault, _ => .error fault.error
  | value => Decoder.reject (.record name) value

namespace Config

def decode : Decoder Config :=
  Decoder.shaped "Config" <|
    (fun input output pipeline shaping => Config.mk input output shaping pipeline) <$>
      Fields.omissible "input" InputOption.decode <*>
      Fields.defaulted "output" ⟨none, none⟩ OutputPaths.decode <*>
      Fields.omissible "pipeline" text

def encode (config : Config) : Json :=
  .object <|
    Json.optionalMember "input" InputOption.encode config.input ++
      [("output", config.output.encode)] ++ config.shaping.members ++
      Json.optionalMember "pipeline" .string config.pipeline

end Config

namespace ServerList

def decode : Decoder ServerList :=
  Decoder.shaped "ConfigServers" <|
    (fun pipeline servers shaping => ServerList.mk shaping pipeline servers) <$>
      Fields.omissible "pipeline" text <*> Fields.required "servers" (list Config.decode)

def encode (list : ServerList) : Json :=
  .object <|
    list.shaping.members ++ Json.optionalMember "pipeline" .string list.pipeline ++
      [("servers", .array (list.servers.map Config.encode))]

end ServerList

namespace RunPlan

def decode : Decoder RunPlan :=
  firstOf "DefineConfig" [
    fun value => (ServerList.decode value).map .servers,
    fun value => (Config.decode value).map .single]

def encode : RunPlan → Json
  | .servers list => list.encode
  | .single config => config.encode

end RunPlan

end ClientGen
