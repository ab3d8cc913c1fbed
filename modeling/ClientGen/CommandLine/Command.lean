import ClientGen.CommandLine.Overrides
import ClientGen.Pipeline.Standard
import ClientGen.Run

/-!
# The command

A run of the command as a script: it reads the arguments, changes the working directory if asked
to, runs every configuration, and reports the files that were written and the failures.
-/

namespace ClientGen.CommandLine

/-- What the command answers: its exit code, and the lines for both streams. -/
structure Report where
  code : Nat
  output : List String
  errors : List String
  deriving DecidableEq, Repr

def versionText : String := "genapi 0.1.0"

def helpLines : List String := [
  "Generate typed API clients from Swagger / OpenAPI descriptions",
  "",
  "Usage: genapi [OPTIONS]",
  "",
  "Options:",
  "  -c, --config <FILE>  Configuration file (TOML, JSON or YAML). " ++
    "Defaults to genapi.config.* in the working directory",
  "  -p, --pipeline <ID>  Pipeline name or manifest path; overrides the configuration",
  "  -i, --input <URI>    API description URI or path; overrides the configuration",
  "  -o, --output <FILE>  Primary output file; overrides the configuration",
  "      --cwd <DIR>      Working directory to run in",
  "  -h, --help           Print help",
  "  -V, --version        Print version"]

def Flag.describe (flag : Flag) : String :=
  "--" ++ flag.name

def Interruption.report (interruption : Interruption) : Report :=
  let wrong (message : String) : Report := ⟨interruption.exitCode, [], ["error: " ++ message]⟩
  match interruption with
  | .help => ⟨interruption.exitCode, helpLines, []⟩
  | .version => ⟨interruption.exitCode, [versionText], []⟩
  | .unknown argument => wrong ("unexpected argument " ++ argument)
  | .noValue flag => wrong ("a value is required for " ++ flag.describe)
  | .repeated flag => wrong (flag.describe ++ " cannot be used multiple times")
  | .unneededValue name => wrong ("unexpected value for --" ++ name)

def outputLines (record : Record) : List String :=
  record.outputs.filterMap fun output =>
    output.code.map fun _ => output.kind.tag ++ " " ++ output.path.text

/-- The report on the outcomes of all runs. The exit code tells whether any failed. -/
def Report.ofOutcomes (outcomes : List (Except Failure Record)) : Report where
  code := if outcomes.any fun outcome => !outcome.isOk then 1 else 0
  output := outcomes.flatMap fun outcome => match outcome with
    | .ok record => outputLines record
    | .error _ => []
  errors := outcomes.filterMap fun outcome => match outcome with
    | .ok _ => none
    | .error failure => some failure.message

def enterDirectory (arguments : Arguments) : Task Unit := do
  match arguments.cwd with
  | none => return
  | some path =>
      match ← Task.ask (.changeDirectory ⟨path⟩) with
      | .ok _ => return
      | .error e => Task.fail (.file ⟨path⟩ e)

def runArguments (arguments : Arguments) : Task Report := do
  enterDirectory arguments
  let registry ← Task.ofExcept (Pipeline.standardRegistry.mapError Failure.config)
  let resolver : Resolver := ⟨registry, ← ExceptT.lift Script.workingDirectory⟩
  let plan ← loadPlan arguments
  let (outcomes, _) ← ExceptT.lift (plan.run resolver [])
  return Report.ofOutcomes outcomes

def run (texts : List String) : Script Report := do
  match Arguments.ofList texts with
  | .error interruption => return interruption.report
  | .ok arguments =>
      match ← (runArguments arguments).run with
      | .ok report => return report
      | .error failure => return ⟨1, [], [failure.message]⟩

end ClientGen.CommandLine
