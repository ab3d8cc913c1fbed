import ClientGen.Config.Codec
import ClientGen.Format
import ClientGen.Script
import ClientGen.Toml.Reader
import ClientGen.Yaml.Reader

/-!
# Configuration files

Finding and reading the file that describes the runs. A setting that is given twice fits nothing,
so the settings are read in the order of the text; only a description that is part of them is
brought into canonical form.
-/

namespace ClientGen

def Input.canonical : Input → Input
  | .inline members => .inline (Json.canonicalMembers members)
  | .uri address => .uri address
  | .file path => .file path

def InputOption.canonical : InputOption → InputOption
  | .shorthand uri => .shorthand uri
  | .described input => .described input.canonical

def Config.canonical (config : Config) : Config :=
  { config with input := config.input.map InputOption.canonical }

namespace RunPlan

def fileNames : List String :=
  ["genapi.config.toml", "genapi.config.json", "genapi.config.yaml", "genapi.config.yml"]

def canonical : RunPlan → RunPlan
  | .single config => .single config.canonical
  | .servers list => .servers { list with servers := list.servers.map Config.canonical }

/-- Reads the value of a text, and the error that the text ends with if there is more after it. -/
def readValue (text : String) : Format → Except Text.ReadError (Json × Option Text.ReadError)
  | .toml => (Toml.read text).map fun value => (value, none)
  | .json => Json.readFirst text
  | .yaml => Yaml.readSettings text

/-- Reads a configuration. That its value does not fit is told before what follows the value. -/
def ofText (format : Format) (text : String) : Except ConfigFault RunPlan :=
  match readValue text format with
  | .error reason => .error (.unreadable reason)
  | .ok (value, excess) =>
      match decode value, excess with
      | .error reason, _ => .error (.malformed reason)
      | .ok _, some reason => .error (.unreadable reason)
      | .ok plan, none => .ok plan.canonical

def load (path : Path) : Task RunPlan := do
  let text ← Task.readText path
  match Format.ofPath? path with
  | none => Task.fail (.config (.unsupportedFormat path.format path))
  | some format => Task.ofExcept ((ofText format text).mapError Failure.config)

def find (directory : Path) : Script (Option Path) :=
  Script.firstFile (fileNames.map fun name => directory.join ⟨name⟩)

end RunPlan

end ClientGen
