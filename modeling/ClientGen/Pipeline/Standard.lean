import ClientGen.Compile
import ClientGen.Document.Load
import ClientGen.Pipeline.Registry
import ClientGen.Publish

/-!
# The standard pipelines

The handlers that every catalogue can have, and the two pipelines that are put together from them,
one for each client.
-/

namespace ClientGen.Pipeline

def standardHandlers : List (Stage × String × Handler) :=
  let parser (client : Client) : Handler :=
    .flow fun record => Task.ofExcept ((record.parse client).mapError Failure.description)
  [ (.readConfig, "default",
      .readConfig fun config => Task.ofExcept ((Record.ofConfig config).mapError Failure.config)),
    (.source, "source", .flow Record.load),
    (.parser, "swagger-axios", parser .axios),
    (.parser, "swagger-fetch", parser .fetch),
    (.compiler, "typescript",
      .flow fun record => Task.ofExcept (Compiler.standard.compile record)),
    (.compiler, "typescript-parallel",
      .flow fun record => Task.ofExcept (Compiler.standard.compileParallel record)),
    (.generate, "typescript", .flow fun record => pure record.render),
    (.dest, "fs", .dest Record.publish)]

/-- The names of the standard pipelines, each with the names of its handlers in the order of a
run. -/
def standardTable : List (String × List String) :=
  [ ("swag-axios-ts",
      ["default", "source", "swagger-axios", "typescript", "typescript", "fs"]),
    ("swag-fetch-ts",
      ["default", "source", "swagger-fetch", "typescript", "typescript", "fs"])]

def addHandlers : List (Stage × String × Handler) → Registry → Except ConfigFault Registry
  | [], registry => .ok registry
  | (stage, name, handler) :: rest, registry =>
      (registry.addHandler stage name handler).bind (addHandlers rest)

def assemble (registry : Registry) :
    List (Stage × String) → Assembly → Except ConfigFault Assembly
  | [], assembly => .ok assembly
  | (stage, name) :: rest, assembly =>
      match registry.handler? stage name with
      | none => .error (.notInCatalogue stage name)
      | some handler => (assembly.withStage stage handler).bind (assemble registry rest)

def addTable : List (String × List String) → Registry → Except ConfigFault Registry
  | [], registry => .ok registry
  | (name, handlers) :: rest, registry =>
      match assemble registry (Stage.all.zip handlers) (Assembly.new name) with
      | .error fault => .error fault
      | .ok assembly => addTable rest (registry.addPipeline assembly.pipeline)

def addStandard (registry : Registry) : Except ConfigFault Registry :=
  (addHandlers standardHandlers registry).bind (addTable standardTable)

def standardRegistry : Except ConfigFault Registry :=
  addStandard .empty

end ClientGen.Pipeline
