import ClientGen.Config.Basic
import ClientGen.Failure
import ClientGen.Graph.OfDocument
import ClientGen.Output
import ClientGen.Path.Specifier
import ClientGen.TypeScript.Print

/-!
# Records

What the stages of a run hand on: the configuration and its input, the API description once it is
loaded, the graph once it is built, and the outputs.
-/

namespace ClientGen

/-- The state of a run between two stages. -/
structure Record where
  input : Input
  config : Config
  graph : Graph
  outputs : List Output
  source : Option Json
  deriving Repr

namespace Record

def new (input : Input) (config : Config) (outputs : List Output) : Record :=
  ⟨input, config, .empty, outputs, none⟩

def output? (record : Record) (kind : OutputKind) : Option Output :=
  record.outputs.find? fun output => output.kind == kind

def hasTypings (record : Record) : Bool :=
  (record.output? .typings).isSome

def defaultMain : Path := ⟨"src/api/index.ts"⟩

/-- Where the types go by default: beside the request file, as declarations if that is a file of
JavaScript. -/
def typingsPath (main : Path) : Path :=
  match main.extension? with
  | some "js" => main.withExtension "type.d.ts"
  | some "mjs" => main.withExtension "type.d.ts"
  | some "cjs" => main.withExtension "type.d.ts"
  | _ => main.withExtension "type.ts"

/-- How the request file imports the types. A declaration file that would be taken for the request
file keeps its `.d`; no other name can be told from it. -/
def typingsSpecifier (main typings : Path) : Except ConfigFault String :=
  let directory := main.parent
  let specifier := Path.importSpecifier directory typings
  if specifier != Path.importSpecifier directory main then .ok specifier
  else
    let relative := Path.relativeSpecifier directory typings
    match Text.stripEnd? ".d.ts" relative with
    | some stem =>
        if Path.relativeSpecifier directory main != relative then .ok (stem ++ ".d")
        else .error (.typingsHidden typings main)
    | none => .error (.typingsHidden typings main)

def mainPath (config : Config) : Path :=
  match config.output.main with
  | some main => ⟨main⟩
  | none => defaultMain

/-- Where the types of a configuration go, if they have a file of their own. -/
def typingsTarget (config : Config) : Option Path :=
  match config.output.typings with
  | some (.flag false) => none
  | some (.value path) => some ⟨path⟩
  | some (.flag true) => some (typingsPath (mainPath config))
  | none => some (typingsPath (mainPath config))

def ofConfig (config : Config) : Except ConfigFault Record :=
  match config.input? with
  | none => .error .missingInput
  | some input =>
      let main := mainPath config
      let request := Output.new .request main
      match typingsTarget config with
      | none => .ok (new input config [request])
      | some typings =>
          match typingsSpecifier main typings with
          | .error fault => .error fault
          | .ok specifier =>
              .ok (new input config
                [request, (Output.new .typings typings).withSpecifier specifier])

def parse (client : Client) (record : Record) : Except Document.Fault Record :=
  match record.source with
  | none => .error .notLoaded
  | some source =>
      match Document.ofJson source with
      | .error reason => .error (.refused reason)
      | .ok document =>
          match Graph.ofDocument document record.config.shaping client with
          | .error fault => .error fault
          | .ok graph => .ok { record with graph := graph }

def render (record : Record) : Record :=
  { record with outputs := record.outputs.map (Output.render TypeScript.Module.print) }

end Record

end ClientGen
