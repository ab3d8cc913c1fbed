import ClientGen.Record
import ClientGen.Script

/-!
# Pipelines

A pipeline takes a configuration through six stages, always in the same order. A stage that fails
ends the run, and the failure says which stage it was.
-/

namespace ClientGen

/-- A pipeline. Loading the description and putting the outputs away can be left out. -/
structure Pipeline where
  name : String
  readConfig : Config → Task Record
  source : Record → Task Record := pure
  parser : Record → Task Record
  compiler : Record → Task Record
  generate : Record → Task Record
  dest : Record → Task Unit := fun _ => pure ()

namespace Pipeline

def run (pipeline : Pipeline) (config : Config) : Task Record := do
  let record ← Task.within .readConfig (pipeline.readConfig config)
  let record ← Task.within .source (pipeline.source record)
  let record ← Task.within .parser (pipeline.parser record)
  let record ← Task.within .compiler (pipeline.compiler record)
  let record ← Task.within .generate (pipeline.generate record)
  Task.within .dest (pipeline.dest record)
  return record

end Pipeline

end ClientGen
