import ClientGen.Pipeline.Basic
import ClientGen.Text.Quoted

/-!
# Assembled pipelines

A pipeline can be put together from handlers for its stages. Without a handler the description
stays as it is and the outputs stay where they are; any other stage without a handler fails when
it is reached.
-/

namespace ClientGen

/-- What serves a stage. -/
inductive Handler where
  | readConfig (handle : Config → Task Record)
  | flow (handle : Record → Task Record)
  | dest (handle : Record → Task Unit)

namespace Handler

def shape : Handler → HandlerShape
  | .readConfig _ => .readConfig
  | .flow _ => .flow
  | .dest _ => .dest

def fits (handler : Handler) (stage : Stage) : Bool :=
  handler.shape == stage.shape

end Handler

/-- A pipeline in the making: its name and the handlers it has. -/
structure Assembly where
  name : String
  readConfig : Option (Config → Task Record)
  source : Option (Record → Task Record)
  parser : Option (Record → Task Record)
  compiler : Option (Record → Task Record)
  generate : Option (Record → Task Record)
  dest : Option (Record → Task Unit)

namespace Assembly

def new (name : String) : Assembly :=
  ⟨name, none, none, none, none, none, none⟩

/-- Adds a handler for a stage. Its shape has to be that of the stage. -/
def withStage (assembly : Assembly) (stage : Stage) (handler : Handler) :
    Except ConfigFault Assembly :=
  match stage, handler with
  | .readConfig, .readConfig handle => .ok { assembly with readConfig := some handle }
  | .source, .flow handle => .ok { assembly with source := some handle }
  | .parser, .flow handle => .ok { assembly with parser := some handle }
  | .compiler, .flow handle => .ok { assembly with compiler := some handle }
  | .generate, .flow handle => .ok { assembly with generate := some handle }
  | .dest, .dest handle => .ok { assembly with dest := some handle }
  | stage, handler => .error (.notServing handler.shape stage assembly.name)

def provides (assembly : Assembly) : Stage → Bool
  | .readConfig => assembly.readConfig.isSome
  | .source => assembly.source.isSome
  | .parser => assembly.parser.isSome
  | .compiler => assembly.compiler.isSome
  | .generate => assembly.generate.isSome
  | .dest => assembly.dest.isSome

/-- The stages that have a handler, in the order of a run. -/
def provided (assembly : Assembly) : List Stage :=
  Stage.all.filter assembly.provides

def missing {α β : Type} (assembly : Assembly) (stage : Stage) (_ : α) : Task β :=
  Task.fail (.stageMissing assembly.name stage)

def pipeline (assembly : Assembly) : Pipeline where
  name := assembly.name
  readConfig := assembly.readConfig.getD (assembly.missing .readConfig)
  source := assembly.source.getD pure
  parser := assembly.parser.getD (assembly.missing .parser)
  compiler := assembly.compiler.getD (assembly.missing .compiler)
  generate := assembly.generate.getD (assembly.missing .generate)
  dest := assembly.dest.getD fun _ => pure ()

def describe (assembly : Assembly) : String :=
  "StagePipeline \x7b name: " ++ Text.quoted assembly.name ++ ", stages: [" ++
    Text.join ", " (assembly.provided.map Stage.label) ++ "] \x7d"

end Assembly

end ClientGen
