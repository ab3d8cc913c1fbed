import ClientGen.Document.Decode
import ClientGen.Text.ReadError

/-!
# Faults of API descriptions

Why no client can be generated from an API description.
-/

namespace ClientGen.Document

/-- The causes for which a description is refused. The last one is for stages that state a reason
in their own words. -/
inductive Fault where
  | notLoaded
  | refused (reason : Refusal)
  | unresolvedParameter (reference : String)
  | unresolvedBody (reference : String)
  | repeatedOperation (name : String)
  | unreadable (name : String) (reason : Text.ReadError)
  | stated (reason : String)
  deriving DecidableEq, Repr

def Fault.message : Fault → String
  | .notLoaded => "no API description was loaded before parsing"
  | .refused reason => reason.message
  | .unresolvedParameter reference => "unresolved parameter reference " ++ backquoted reference
  | .unresolvedBody reference => "unresolved request body reference " ++ backquoted reference
  | .repeatedOperation name =>
      "duplicate operation name " ++ backquoted name ++
        "; each operation must have a unique identifier"
  | .unreadable name reason => name ++ " is neither JSON nor YAML: " ++ reason.message
  | .stated reason => reason

end ClientGen.Document
