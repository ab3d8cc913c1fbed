import ClientGen.CommandLine.Arguments
import ClientGen.Config.Load

/-!
# Overriding a plan

What the command line says goes before what the configuration file says. The input and the request
file can be given for a single configuration only; a pipeline goes for every server.
-/

namespace ClientGen

def RunPlan.override (arguments : CommandLine.Arguments) : RunPlan → Except ConfigFault RunPlan
  | .single config =>
      .ok (.single { config with
        input := (arguments.input.map InputOption.shorthand).or config.input
        output := { config.output with main := arguments.output.or config.output.main }
        pipeline := arguments.pipeline.or config.pipeline })
  | .servers list =>
      if arguments.input.isSome || arguments.output.isSome then .error .overrideOfServers
      else
        .ok (.servers { list with
          pipeline := arguments.pipeline.or list.pipeline
          servers := list.servers.map fun server =>
            { server with pipeline := arguments.pipeline.or server.pipeline } })

namespace CommandLine

/-- The configuration file to read: the one that is given, or the one found in the working
directory. -/
def configFile (arguments : Arguments) : Script (Option Path) := do
  match arguments.config with
  | some path => return some ⟨path⟩
  | none => RunPlan.find (← Script.workingDirectory)

/-- The plan to run. Without a configuration file the input must be given. -/
def loadPlan (arguments : Arguments) : Task RunPlan := do
  let plan ← match ← ExceptT.lift (configFile arguments) with
    | some path => RunPlan.load path
    | none =>
        if arguments.input.isSome then pure (RunPlan.single .empty)
        else Task.fail (.config (.nothingToRun RunPlan.fileNames))
  Task.ofExcept ((plan.override arguments).mapError Failure.config)

end CommandLine

end ClientGen
