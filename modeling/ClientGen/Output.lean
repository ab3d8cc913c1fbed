import ClientGen.Path.Basic
import ClientGen.TypeScript.Module

/-!
# Outputs

The files that a run is asked for. An output takes the tree that was built for it, and the text
that was printed from this tree: putting in a tree drops the text of an earlier one.
-/

namespace ClientGen

/-- What an output is: the functions, the types they use, or something else. -/
inductive OutputKind where
  | request
  | typings
  | other (tag : String)
  deriving DecidableEq, Repr

namespace OutputKind

def tag : OutputKind → String
  | .request => "request"
  | .typings => "typings"
  | .other tag => tag

def ofTag (tag : String) : OutputKind :=
  if tag = "request" then .request
  else if tag = "typings" then .typings
  else .other tag

end OutputKind

/-- What compilation left for an output: nothing yet, a tree, or nothing ever. -/
inductive Slot where
  | pending
  | request (module : TypeScript.Module)
  | typings (module : TypeScript.Module)
  | unhandled
  deriving DecidableEq, Repr

def Slot.module? : Slot → Option TypeScript.Module
  | .request module => some module
  | .typings module => some module
  | .pending => none
  | .unhandled => none

/-- A file that a run is asked for. -/
structure Output where
  kind : OutputKind
  root : Path
  path : Path
  specifier : Option String
  slot : Slot
  code : Option String
  deriving DecidableEq, Repr

namespace Output

def new (kind : OutputKind) (path : Path) : Output :=
  ⟨kind, path.parent, path, none, .pending, none⟩

def withSpecifier (output : Output) (specifier : String) : Output :=
  { output with specifier := some specifier }

/-- Puts in what compilation left, and drops the text. -/
def setSlot (output : Output) (slot : Slot) : Output :=
  { output with slot := slot, code := none }

def render (print : TypeScript.Module → String) (output : Output) : Output :=
  match output.slot.module? with
  | some module => { output with code := some (print module) }
  | none => output

def isRenderable (output : Output) : Bool :=
  output.slot.module?.isSome

end Output

end ClientGen
