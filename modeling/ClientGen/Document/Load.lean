import ClientGen.Json.Reader
import ClientGen.Record
import ClientGen.Script
import ClientGen.Uri
import ClientGen.Yaml.Reader

/-!
# Loading API descriptions

A description is downloaded, read from a file, or part of the configuration. Unless its name says
YAML it is read as JSON first; what is no JSON may still be YAML.
-/

namespace ClientGen

def Document.isYamlName (name : String) : Bool :=
  (Text.stripEnd? ".yaml" name).isSome || (Text.stripEnd? ".yml" name).isSome

def Document.readText (name text : String) : Except Document.Fault Json :=
  match Document.isYamlName name, Json.read text with
  | false, .ok value => .ok value
  | _, _ => (Yaml.read text).mapError (Document.Fault.unreadable name)

def Document.loadFile (path : Path) : Task Json := do
  let text ← Task.readText path
  Task.ofExcept ((Document.readText path.text text).mapError Failure.description)

def Document.download (url : String) : Task Json := do
  match ← Task.ask (.download url) with
  | .error reason => Task.fail (.download url reason)
  | .ok text =>
      Task.ofExcept ((Document.readText (Uri.remotePath url) text).mapError Failure.description)

def Input.load : Input → Task Json
  | .uri address =>
      match Uri.place address with
      | .remote url => Document.download url
      | .file path => Document.loadFile path
  | .file path => Document.loadFile ⟨path⟩
  | .inline members => pure (.object members)

def Record.load (record : Record) : Task Record := do
  let source ← record.input.load
  return { record with source := some source }

end ClientGen
