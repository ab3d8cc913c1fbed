import ClientGen.Failure
import ClientGen.Files.Tree

/-!
# Scripts

A script is a program that talks to its surroundings through commands, one after the other: it
names a command and goes on with the reply. The same script can be run on a file tree, which is a
value, or on the files of a machine. Of a download only the reply counts: how it is transported is
left out, and so is the log of a run, on which nothing depends.
-/

namespace ClientGen

/-- What a script can ask of its surroundings. -/
inductive Command where
  | readText (path : Path)
  | isFile (path : Path)
  | isDirectory (path : Path)
  | makeDirectories (path : Path)
  | writeText (path : Path) (text : String)
  | changeDirectory (path : Path)
  | workingDirectory
  | download (url : String)
  | note (mark : String)
  deriving DecidableEq, Repr

def Command.Reply : Command → Type
  | .readText _ => Except FileError String
  | .isFile _ => Bool
  | .isDirectory _ => Bool
  | .makeDirectories _ => Except FileError Unit
  | .writeText _ _ => Except FileError Unit
  | .changeDirectory _ => Except FileError Unit
  | .workingDirectory => Path
  | .download _ => Except String String
  | .note _ => Unit

/-- A program that ends with a value after some commands. -/
inductive Script (α : Type) where
  | done (a : α)
  | call (command : Command) (next : command.Reply → Script α)

namespace Script

protected def bind {α β : Type} : Script α → (α → Script β) → Script β
  | .done a, f => f a
  | .call command next, f => .call command fun reply => (next reply).bind f

instance : Monad Script where
  pure := .done
  bind := Script.bind

@[simp] theorem done_bind {α β : Type} (a : α) (f : α → Script β) :
    (Script.done a).bind f = f a := rfl

@[simp] theorem call_bind {α β : Type} (command : Command) (next : command.Reply → Script α)
    (f : α → Script β) :
    (Script.call command next).bind f = .call command fun reply => (next reply).bind f := rfl

theorem bind_done {α : Type} (script : Script α) : script.bind .done = script := by
  induction script with
  | done a => rfl
  | call command next ih => simp [ih]

theorem bind_assoc {α β γ : Type} (script : Script α) (f : α → Script β) (g : β → Script γ) :
    (script.bind f).bind g = script.bind fun a => (f a).bind g := by
  induction script with
  | done a => rfl
  | call command next ih => simp [ih]

instance : LawfulMonad Script :=
  LawfulMonad.mk' Script bind_done (fun _ _ => rfl) bind_assoc

def ask (command : Command) : Script command.Reply :=
  .call command .done

def isFile (path : Path) : Script Bool :=
  ask (.isFile path)

def isDirectory (path : Path) : Script Bool :=
  ask (.isDirectory path)

def workingDirectory : Script Path :=
  ask .workingDirectory

def firstFile : List Path → Script (Option Path)
  | [] => pure none
  | path :: rest => do
      if ← isFile path then return some path
      firstFile rest

end Script

/-- The surroundings of a script as a value: the files, and the marks that were left. -/
structure World where
  files : FileTree
  journal : List String

namespace World

/-- Answers a command. Nothing can be downloaded. -/
def perform (world : World) : (command : Command) → command.Reply × World
  | .readText path => (world.files.readText path, world)
  | .isFile path => (world.files.isFile path, world)
  | .isDirectory path => (world.files.isDirectory path, world)
  | .makeDirectories path =>
      let (reply, files) := world.files.makeDirectories path
      (reply, { world with files := files })
  | .writeText path text =>
      match world.files.writeText path text with
      | .ok files => (.ok (), { world with files := files })
      | .error e => (.error e, world)
  | .changeDirectory path =>
      match world.files.changeDirectory path with
      | .ok files => (.ok (), { world with files := files })
      | .error e => (.error e, world)
  | .workingDirectory => (FileTree.pathOf world.files.workingDirectory, world)
  | .download _ => (.error "downloads are not available", world)
  | .note mark => ((), { world with journal := world.journal ++ [mark] })

end World

namespace Script

def run {α : Type} : Script α → World → α × World
  | .done a, world => (a, world)
  | .call command next, world =>
      let (reply, world) := world.perform command
      (next reply).run world

theorem run_bind {α β : Type} (script : Script α) (f : α → Script β) (world : World) :
    (script.bind f).run world = (f (script.run world).1).run (script.run world).2 := by
  induction script generalizing world with
  | done a => rfl
  | call command next ih => simp [run, ih]

end Script

/-- A script that may fail. -/
abbrev Task := ExceptT Failure Script

namespace Task

def ask (command : Command) : Task command.Reply :=
  ExceptT.lift (Script.ask command)

def fail {α : Type} (failure : Failure) : Task α :=
  throw failure

def ofExcept {α : Type} : Except Failure α → Task α
  | .ok a => pure a
  | .error failure => throw failure

def readText (path : Path) : Task String := do
  match ← ask (.readText path) with
  | .ok text => pure text
  | .error e => fail (.file path e)

def within {α : Type} (stage : Stage) (task : Task α) : Task α :=
  ExceptT.mk do
    match ← task.run with
    | .ok a => pure (.ok a)
    | .error failure => pure (.error (failure.within stage))

def runIn {α : Type} (task : Task α) (world : World) : Except Failure α × World :=
  (ExceptT.run task).run world

end Task

end ClientGen
