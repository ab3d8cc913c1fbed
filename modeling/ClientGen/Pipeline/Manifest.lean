import ClientGen.Format
import ClientGen.Pipeline.Registry
import ClientGen.Toml.Reader
import ClientGen.Yaml.Reader

/-!
# Manifests

A manifest is a file that puts a pipeline together from the catalogue: it names a handler for each
of some stages. An object under `default` takes the place of the whole manifest.
-/

namespace ClientGen

structure Manifest where
  name : Option String
  readConfig : Option String
  source : Option String
  parser : Option String
  compiler : Option String
  generate : Option String
  dest : Option String
  deriving DecidableEq, Repr

namespace Manifest

def fileNames : List String := ["pipeline.toml", "pipeline.json", "pipeline.yaml"]

def memberNames : List String :=
  ["name", "readConfig", "read_config", "original", "parser", "compiler", "generate", "dest"]

/-- The fields of a manifest. The first stage has two names. -/
def fields : Fields Manifest :=
  let choice (name : String) := Fields.omissible name Decoder.text
  Manifest.mk <$> choice "name" <*>
    Fields.field ["read_config", "readConfig"] (some none) (some none)
      (Decoder.optional Decoder.text) <*>
    choice "original" <*> choice "parser" <*> choice "compiler" <*> choice "generate" <*>
    choice "dest"

/-- Reads the members of a manifest, refusing unknown ones. -/
def decode : Decoder Manifest :=
  Decoder.record "Manifest" (fields.closed memberNames)

def ofJson : Json → Except ManifestFault Manifest
  | .object members =>
      let body := match Json.lookup "default" members with
        | some (.object inner) => inner
        | _ => Json.erase "default" members
      (decode (.object body)).mapError .malformed
  | _ => .error .notTable

def readValue (text : String) : Format → Except Text.ReadError Json
  | .toml => Toml.read text
  | .json => Json.read text
  | .yaml => Yaml.read text

/-- Reads the text of a manifest in the format that the extension of its file names. -/
def ofText (path : Path) (text : String) : Except ManifestFault Manifest :=
  match Format.ofPath? path with
  | none => .error (.unsupportedFormat path.format)
  | some format =>
      match readValue text format with
      | .error reason => .error (.malformedText reason)
      | .ok value => ofJson value

def selection (manifest : Manifest) : Stage → Option String
  | .readConfig => manifest.readConfig
  | .source => manifest.source
  | .parser => manifest.parser
  | .compiler => manifest.compiler
  | .generate => manifest.generate
  | .dest => manifest.dest

/-- Adds the handlers that a manifest names for the given stages. -/
def assembleFrom (manifest : Manifest) (registry : Registry) :
    List Stage → Assembly → Except ManifestFault Assembly
  | [], assembly => .ok assembly
  | stage :: rest, assembly =>
      match manifest.selection stage with
      | none => assembleFrom manifest registry rest assembly
      | some name =>
          match registry.handler? stage name with
          | none => .error (.unknownStage stage name (registry.handlerNames stage))
          | some handler =>
              match assembly.withStage stage handler with
              | .error fault => .error (.notServing fault)
              | .ok assembly => assembleFrom manifest registry rest assembly

/-- Puts the pipeline of a manifest together. Without a name of its own it is called as the file
is. -/
def assemble (manifest : Manifest) (registry : Registry) (path : Path) :
    Except ManifestFault Assembly :=
  if Stage.all.all fun stage => (manifest.selection stage).isNone then .error .noStages
  else assembleFrom manifest registry Stage.all
    (Assembly.new (manifest.name.getD (path.stem?.getD "pipeline")))

/-- Where the manifest of a path is: in a file, or under one of its names in a directory. -/
def locate (path : Path) : Script (Option Path) := do
  if ← Script.isDirectory path then Script.firstFile (fileNames.map fun name => path.join ⟨name⟩)
  else if ← Script.isFile path then return some path
  else return none

/-- Loads the pipeline of a manifest file; none if the file is not there. -/
def load (registry : Registry) (path : Path) : Task (Option Pipeline) := do
  match ← Task.ask (.readText path) with
  | .error .notFound => return none
  | .error reason => Task.fail (.malformedPipeline path (.unreadable reason))
  | .ok text =>
      let assembly := (ofText path text).bind fun manifest => manifest.assemble registry path
      match assembly with
      | .ok assembly => return some assembly.pipeline
      | .error fault => Task.fail (.malformedPipeline path fault)

end Manifest

end ClientGen
