/-!
# Stages

The six stages of a run, in the order in which they always run.
-/

namespace ClientGen

inductive Stage where
  | readConfig
  | source
  | parser
  | compiler
  | generate
  | dest
  deriving DecidableEq, Repr

namespace Stage

def all : List Stage := [.readConfig, .source, .parser, .compiler, .generate, .dest]

def name : Stage → String
  | .readConfig => "readConfig"
  | .source => "original"
  | .parser => "parser"
  | .compiler => "compiler"
  | .generate => "generate"
  | .dest => "dest"

def label : Stage → String
  | .readConfig => "ReadConfig"
  | .source => "Original"
  | .parser => "Parser"
  | .compiler => "Compiler"
  | .generate => "Generate"
  | .dest => "Dest"

def ofName? (name : String) : Option Stage :=
  all.find? fun stage => stage.name == name

theorem ofName?_eq_some_iff (name : String) (stage : Stage) :
    ofName? name = some stage ↔ stage.name = name := by
  constructor
  · intro found
    have named := List.find?_some found
    exact beq_iff_eq.mp named
  · rintro rfl
    cases stage <;> rfl

end Stage

/-- The kinds of handlers: one takes a configuration, one takes and gives a record, one only takes
a record. -/
inductive HandlerShape where
  | readConfig
  | flow
  | dest
  deriving DecidableEq, Repr

namespace HandlerShape

def label : HandlerShape → String
  | .readConfig => "StageHandler::ReadConfig"
  | .flow => "StageHandler::Flow"
  | .dest => "StageHandler::Dest"

end HandlerShape

def Stage.shape : Stage → HandlerShape
  | .readConfig => .readConfig
  | .dest => .dest
  | _ => .flow

end ClientGen
