import ClientGen.Pipeline.Manifest
import ClientGen.Text.Blank

/-!
# Resolving pipelines

An identifier names a published pipeline, or else the manifest at a path. What an identifier was
found to name is kept, so it names the same pipeline ever after.
-/

namespace ClientGen

/-- A place where a pipeline may be. -/
inductive Candidate where
  | package (name : String)
  | manifest (path : Path)
  deriving DecidableEq, Repr

def Candidate.describe : Candidate → String
  | .package name => "package " ++ name
  | .manifest path => "path " ++ path.text

/-- Where pipelines are looked for: a registry, and the directory that paths start from. -/
structure Resolver where
  registry : Registry
  directory : Path

/-- What identifiers were found to name. -/
abbrev Cache := List (String × Pipeline)

namespace Cache

def find? (cache : Cache) (identifier : String) : Option Pipeline :=
  (List.find? (fun (other, _) => other == identifier) cache).map (·.2)

/-- Keeps what an identifier names, unless something is kept already. Answers what is kept. -/
def keep (cache : Cache) (identifier : String) (pipeline : Pipeline) : Pipeline × Cache :=
  match cache.find? identifier with
  | some kept => (kept, cache)
  | none => (pipeline, (identifier, pipeline) :: cache)

end Cache

namespace Resolver

/-- The places for an identifier, in the order in which they are tried. A blank one has none. -/
def candidates (resolver : Resolver) (identifier : String) : List Candidate :=
  if Text.isBlankText identifier then []
  else [.package (packageName identifier), .manifest (resolver.directory.join ⟨identifier⟩)]

def loadAt (resolver : Resolver) : Candidate → Task (Option Pipeline)
  | .package name => pure (resolver.registry.pipeline? name)
  | .manifest path => do
      match ← ExceptT.lift (Manifest.locate path) with
      | none => return none
      | some file => Manifest.load resolver.registry file

def loadFirst (resolver : Resolver) : List Candidate → Task (Option Pipeline)
  | [] => pure none
  | candidate :: rest => do
      match ← resolver.loadAt candidate with
      | some pipeline => return some pipeline
      | none => loadFirst resolver rest

def load (resolver : Resolver) (identifier : String) : Task (Option Pipeline) :=
  resolver.loadFirst (resolver.candidates identifier)

/-- What an identifier names, and the cache afterwards. Only what is found is kept. -/
def resolve (resolver : Resolver) (cache : Cache) (identifier : String) :
    Script (Except Failure (Option Pipeline) × Cache) := do
  match cache.find? identifier with
  | some kept => return (.ok (some kept), cache)
  | none =>
      match ← (resolver.load identifier).run with
      | .error failure => return (.error failure, cache)
      | .ok none => return (.ok none, cache)
      | .ok (some pipeline) =>
          let (kept, cache) := cache.keep identifier pipeline
          return (.ok (some kept), cache)

/-- What an identifier names; that it names nothing is a failure. -/
def require (resolver : Resolver) (cache : Cache) (identifier : String) :
    Script (Except Failure Pipeline × Cache) := do
  match ← resolver.resolve cache identifier with
  | (.error failure, cache) => return (.error failure, cache)
  | (.ok (some pipeline), cache) => return (.ok pipeline, cache)
  | (.ok none, cache) => return (.error (.pipelineNotFound identifier), cache)

end Resolver

end ClientGen
