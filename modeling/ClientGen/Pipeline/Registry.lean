import ClientGen.Pipeline.Assembly

/-!
# Registries

The pipelines that can be had by name, and a catalogue of handlers from which more can be put
together. A later entry takes the place of an earlier one under the same name, and a handler that
does not fit its stage is not taken.
-/

namespace ClientGen

def packageName (identifier : String) : String :=
  "genapi-" ++ identifier

/-- The published pipelines by package, and the handlers by stage and name. -/
structure Registry where
  pipelines : List (String × Pipeline)
  handlers : List ((Stage × String) × Handler)

namespace Registry

def empty : Registry := ⟨[], []⟩

/-- Puts a value under a key, in the place of the one that is there. -/
def put {κ α : Type} [BEq κ] (key : κ) (value : α) (entries : List (κ × α)) : List (κ × α) :=
  entries.filter (fun (other, _) => other != key) ++ [(key, value)]

def addPipeline (registry : Registry) (pipeline : Pipeline) : Registry :=
  { registry with pipelines := put (packageName pipeline.name) pipeline registry.pipelines }

def addHandler (registry : Registry) (stage : Stage) (name : String) (handler : Handler) :
    Except ConfigFault Registry :=
  if handler.fits stage then
    .ok { registry with handlers := put (stage, name) handler registry.handlers }
  else .error (.notRegistrable handler.shape name stage)

def pipeline? (registry : Registry) (package : String) : Option Pipeline :=
  (registry.pipelines.find? fun (other, _) => other == package).map (·.2)

def handler? (registry : Registry) (stage : Stage) (name : String) : Option Handler :=
  (registry.handlers.find? fun (other, _) => other == (stage, name)).map (·.2)

def sorted (names : List String) : List String :=
  names.mergeSort fun a b => !decide (b < a)

def packages (registry : Registry) : List String :=
  sorted (registry.pipelines.map (·.1))

def handlerNames (registry : Registry) (stage : Stage) : List String :=
  sorted (registry.handlers.filterMap fun ((other, name), _) =>
    if other == stage then some name else none)

end Registry

end ClientGen
