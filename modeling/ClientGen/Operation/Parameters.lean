import ClientGen.Document.Fault

/-!
# Merged parameters

The parameters of an operation: those of its path, then its own. A parameter with the name and
location of an earlier one takes the place of that one.
-/

namespace ClientGen.Operation

open Document (Parameter Fault)

/-- Whether two parameters are sent under one name at one place. -/
def sameSlot (a b : Parameter) : Bool :=
  a.name == b.name && a.location == b.location

/-- Puts a parameter in the place of the first one in its slot, or at the end. -/
def putParameter (parameter : Parameter) : List Parameter → List Parameter
  | [] => [parameter]
  | other :: rest =>
      if sameSlot other parameter then parameter :: rest
      else other :: putParameter parameter rest

/-- The parameter itself, found in the document if it is a reference. -/
def resolveParameter (document : Document) : OrRef Parameter → Except Fault Parameter
  | .inline parameter => .ok parameter
  | .ref reference =>
      match document.parameter? reference with
      | some parameter => .ok parameter
      | none => .error (.unresolvedParameter reference)

def mergeOnto (document : Document) (merged : List Parameter) :
    List (OrRef Parameter) → Except Fault (List Parameter)
  | [] => .ok merged
  | parameter :: rest =>
      match resolveParameter document parameter with
      | .error fault => .error fault
      | .ok parameter => mergeOnto document (putParameter parameter merged) rest

def mergedParameters (document : Document) (item : Document.PathItem)
    (operation : Document.Operation) : Except Fault (List Parameter) :=
  mergeOnto document [] (item.parameters ++ operation.parameters)

end ClientGen.Operation
