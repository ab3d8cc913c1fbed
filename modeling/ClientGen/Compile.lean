import ClientGen.Synthesis

/-!
# Compiling outputs

Every output gets the tree that the synthesizer for its kind builds from the record; an output of
another kind is marked as unhandled. The outputs can be compiled one after the other, each seeing
the trees before it, or all from the record as it was.
-/

namespace ClientGen

/-- Builds the tree of an output from a record. -/
abbrev Synthesizer := Record → Output → Except Failure TypeScript.Module

structure Compiler where
  request : Synthesizer
  typings : Synthesizer

namespace Compiler

def slotFor (compiler : Compiler) (record : Record) (output : Output) : Except Failure Slot :=
  match output.kind with
  | .request => (compiler.request record output).map .request
  | .typings => (compiler.typings record output).map .typings
  | .other _ => .ok .unhandled

def compileFrom (compiler : Compiler) (record : Record) (ready : List Output) :
    List Output → Except Failure Record
  | [] => .ok { record with outputs := ready }
  | output :: rest =>
      match compiler.slotFor { record with outputs := ready ++ output :: rest } output with
      | .error failure => .error failure
      | .ok slot => compileFrom compiler record (ready ++ [output.setSlot slot]) rest

def compile (compiler : Compiler) (record : Record) : Except Failure Record :=
  compiler.compileFrom record [] record.outputs

/-- Brings outcomes together: all values in order, or the first failure. -/
def gather {α : Type} : List (Except Failure α) → Except Failure (List α)
  | [] => .ok []
  | .error failure :: _ => .error failure
  | .ok a :: rest => (gather rest).map (a :: ·)

/-- Compiles every output from the record as it is, and puts the trees in afterwards. The outputs
may be compiled in any order, so what brings the outcomes together may stop at any failure. -/
def compileTogether (collect : List (Except Failure Slot) → Except Failure (List Slot))
    (compiler : Compiler) (record : Record) : Except Failure Record :=
  match collect (record.outputs.map (compiler.slotFor record)) with
  | .error failure => .error failure
  | .ok slots =>
      .ok { record with outputs := List.zipWith Output.setSlot record.outputs slots }

/-- Compiles every output from the record as it is; of several failures the first one is
reported. -/
def compileParallel (compiler : Compiler) (record : Record) : Except Failure Record :=
  compiler.compileTogether gather record

def standard : Compiler where
  request record _ := .ok (Synthesis.requestModule record)
  typings record _ := .ok (Synthesis.typingsModule record)

end Compiler

end ClientGen
