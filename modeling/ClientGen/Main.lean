import ClientGen.CommandLine.Command

/-!
# Program

Runs the command on the files of a machine. Relative paths start from a directory that the program
keeps, and nothing can be downloaded.
-/

namespace ClientGen

def FileError.ofSystem : IO.Error → FileError
  | .noFileOrDirectory _ _ _ => .notFound
  | .noSuchThing _ _ _ => .notFound
  | .alreadyExists _ _ _ => .alreadyExists
  | .inappropriateType _ code details =>
      if code == 20 then .notDirectory
      else if code == 21 then .isDirectory
      else .stated details
  | e => .stated (toString e)

def attempt {α : Type} (action : IO α) : IO (Except FileError α) := do
  try
    return .ok (← action)
  catch e =>
    return .error (FileError.ofSystem e)

def readFileText (path : String) : IO (Except FileError String) := do
  match ← attempt (IO.FS.readBinFile path) with
  | .error e => return .error e
  | .ok content =>
      match String.fromUTF8? content with
      | some text => return .ok text
      | none => return .error .notText

/-- What stands at a path: a directory cannot be read. -/
def isDirectoryHere (path : String) : IO Bool := do
  match ← attempt (IO.FS.readBinFile path) with
  | .error .isDirectory => return true
  | _ => return false

/-- Answers a command, given the directory that relative paths start from. -/
def performHere (directory : Path) :
    (command : Command) → IO (command.Reply × Path)
  | .readText path => do return (← readFileText (directory.join path).text, directory)
  | .isFile path => do
      return ((← attempt (IO.FS.readBinFile (directory.join path).text)).isOk, directory)
  | .isDirectory path => do return (← isDirectoryHere (directory.join path).text, directory)
  | .makeDirectories path => do
      return (← attempt (IO.FS.createDirAll (directory.join path).text), directory)
  | .writeText path text => do
      return (← attempt (IO.FS.writeFile (directory.join path).text text), directory)
  | .changeDirectory path => do
      let target := directory.join path
      if ← isDirectoryHere target.text then return (.ok (), target)
      match ← attempt (IO.FS.readBinFile target.text) with
      | .ok _ => return (.error .notDirectory, directory)
      | .error e => return (.error e, directory)
  | .workingDirectory => return (directory, directory)
  | .download _ => return (.error "downloads are not available", directory)
  | .note _ => return ((), directory)

def Script.runHere {α : Type} : Script α → Path → IO α
  | .done a, _ => return a
  | .call command next, directory => do
      let (reply, directory) ← performHere directory command
      (next reply).runHere directory

end ClientGen

def main (arguments : List String) : IO UInt32 := do
  let directory : ClientGen.Path := ⟨(← IO.currentDir).toString⟩
  let report ← (ClientGen.CommandLine.run arguments).runHere directory
  for line in report.output do IO.println line
  for line in report.errors do IO.eprintln line
  return UInt32.ofNat report.code
