import ClientGen.Record
import ClientGen.Script

/-!
# Putting outputs away

Every output that has a text is written to its file, and the directory of the file is made first.
-/

namespace ClientGen

def Task.makeDirectories (path : Path) : Task Unit := do
  match ← ask (.makeDirectories path) with
  | .ok _ => return
  | .error e => fail (.file path e)

def Task.writeText (path : Path) (text : String) : Task Unit := do
  match ← ask (.writeText path text) with
  | .ok _ => return
  | .error e => fail (.file path e)

def Output.publish (output : Output) : Task Unit :=
  match output.code with
  | none => pure ()
  | some code => do
      match output.path.parent? with
      | none => pure ()
      | some directory =>
          if !directory.text.isEmpty then Task.makeDirectories directory
      Task.writeText output.path code

def Record.publish (record : Record) : Task Unit :=
  record.outputs.forM Output.publish

end ClientGen
