import ClientGen.Document.Fault
import ClientGen.Files.Error
import ClientGen.Path.Basic
import ClientGen.Stage

/-!
# Failures

Everything that can go wrong while a pipeline is found or run. A failure inside a stage is wrapped
once with the name of the stage.
-/

namespace ClientGen

/-- What is wrong with a configuration, or with how pipelines are put together. The last cause is
for stages that state a reason in their own words. -/
inductive ConfigFault where
  | missingInput
  | unreadable (reason : Text.ReadError)
  | malformed (reason : DecodeError)
  | unsupportedFormat (format : String) (path : Path)
  | typingsHidden (typings main : Path)
  | notRegistrable (shape : HandlerShape) (name : String) (stage : Stage)
  | notServing (shape : HandlerShape) (stage : Stage) (pipeline : String)
  | notInCatalogue (stage : Stage) (name : String)
  | overrideOfServers
  | nothingToRun (fileNames : List String)
  | stated (reason : String)
  deriving DecidableEq, Repr

def ConfigFault.message : ConfigFault → String
  | .missingInput => "missing \x60input\x60"
  | .unreadable reason => reason.message
  | .malformed reason => reason.message
  | .unsupportedFormat format path =>
      "unsupported configuration format " ++ backquoted format ++ " for " ++ path.text
  | .typingsHidden typings main =>
      "typings file " ++ typings.text ++ " cannot be imported from the request file " ++ main.text
  | .notRegistrable shape name stage =>
      shape.label ++ " " ++ backquoted name ++ " cannot be registered as a " ++
        backquoted stage.name ++ " stage"
  | .notServing shape stage pipeline =>
      shape.label ++ " cannot serve as the " ++ backquoted stage.name ++ " stage of " ++
        backquoted pipeline
  | .notInCatalogue stage name =>
      "no " ++ backquoted stage.name ++ " stage named " ++ backquoted name ++ " in the catalogue"
  | .overrideOfServers =>
      "--input and --output cannot be used with a multi-server configuration"
  | .nothingToRun fileNames =>
      "no configuration file found and no --input given (looked for " ++
        Text.join ", " fileNames ++ ")"
  | .stated reason => reason

/-- What is wrong with the manifest of a pipeline. The last cause is for reasons in words of their
own. -/
inductive ManifestFault where
  | unreadable (reason : FileError)
  | malformedText (reason : Text.ReadError)
  | unsupportedFormat (format : String)
  | notTable
  | malformed (reason : DecodeError)
  | noStages
  | unknownStage (stage : Stage) (name : String) (known : List String)
  | notServing (fault : ConfigFault)
  | stated (reason : String)
  deriving DecidableEq, Repr

def configHeading : String := "invalid configuration: "

def ManifestFault.message : ManifestFault → String
  | .unreadable reason => "unreadable: " ++ reason.message
  | .malformedText reason => reason.message
  | .unsupportedFormat format => "unsupported manifest format " ++ backquoted format
  | .notTable => "manifest is not a table"
  | .malformed reason => reason.message
  | .noStages => "manifest selects no stages"
  | .unknownStage stage name known =>
      "unknown " ++ stage.name ++ " stage " ++ backquoted name ++ " (known: " ++
        Text.join ", " known ++ ")"
  | .notServing fault => configHeading ++ fault.message
  | .stated reason => reason

/-- What goes wrong while a pipeline is found or run. An output of unknown kind is no failure. -/
inductive Failure where
  | pipelineNotFound (identifier : String)
  | malformedPipeline (path : Path) (fault : ManifestFault)
  | stageMissing (pipeline : String) (stage : Stage)
  | inStage (stage : Stage) (cause : Failure)
  | config (fault : ConfigFault)
  | download (uri reason : String)
  | description (fault : Document.Fault)
  | file (path : Path) (error : FileError)
  | serialization (reason : String)
  deriving DecidableEq, Repr

namespace Failure

def message : Failure → String
  | .pipelineNotFound identifier =>
      "pipeline " ++ backquoted identifier ++ " not found (tried the " ++
        backquoted ("genapi-" ++ identifier) ++ " package and the path " ++
        backquoted identifier ++ ")"
  | .malformedPipeline path fault =>
      "pipeline module at " ++ path.text ++ " is malformed: " ++ fault.message
  | .stageMissing pipeline stage =>
      "pipeline " ++ backquoted pipeline ++ " does not provide the " ++ backquoted stage.name ++
        " stage"
  | .inStage stage cause => stage.name ++ " stage failed: " ++ cause.message
  | .config fault => configHeading ++ fault.message
  | .download uri reason => "failed to fetch " ++ uri ++ ": " ++ reason
  | .description fault => "failed to parse API description: " ++ fault.message
  | .file path error => "I/O error at " ++ path.text ++ ": " ++ error.message
  | .serialization reason => "serialization error: " ++ reason

/-- Says in which stage a failure happened, unless it says so already. -/
def within (stage : Stage) : Failure → Failure
  | .inStage stage cause => .inStage stage cause
  | .stageMissing pipeline missing => .stageMissing pipeline missing
  | failure => .inStage stage failure

def stage? : Failure → Option Stage
  | .inStage stage _ => some stage
  | .stageMissing _ stage => some stage
  | _ => none

theorem within_within (first second : Stage) (failure : Failure) :
    (failure.within first).within second = failure.within first := by
  cases failure <;> rfl

end Failure

end ClientGen
