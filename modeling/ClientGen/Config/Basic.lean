import ClientGen.Json.Basic

/-!
# Configurations

Where the API description comes from, where the generated files go, and what shapes the generated
code. A configuration file describes one run, or several servers that share what they leave
unset.
-/

namespace ClientGen

/-- Where an API description comes from: a URI or plain path, a path to structured data, or the
description itself. -/
inductive Input where
  | uri (uri : String)
  | file (path : String)
  | inline (members : Members)
  deriving Repr

/-- The input as a configuration writes it: a bare text is a URI. -/
inductive InputOption where
  | shorthand (uri : String)
  | described (input : Input)
  deriving Repr

def InputOption.input : InputOption → Input
  | .shorthand uri => .uri uri
  | .described input => input

/-- A text that can also be switched off, or left to the default. -/
inductive Switch where
  | value (text : String)
  | flag (on : Bool)
  deriving DecidableEq, Repr

namespace Switch

def text? : Switch → Option String
  | .value text => some text
  | .flag _ => none

def isOff : Switch → Bool
  | .flag on => !on
  | .value _ => false

end Switch

structure OutputPaths where
  main : Option String
  typings : Option Switch
  deriving DecidableEq, Repr

structure ImportModules where
  http : Option String
  typings : Option String
  deriving DecidableEq, Repr

/-- How response bodies are typed: by the conditional type that takes them out of the envelope,
and optionally by a wrapper around return types. -/
inductive ResponseShape where
  | inferred (infer : String)
  | detailed (wrapper infer : Option String)
  deriving DecidableEq, Repr

namespace ResponseShape

def wrapper? : ResponseShape → Option String
  | .inferred _ => none
  | .detailed wrapper _ => wrapper

def infer? : ResponseShape → Option String
  | .inferred infer => some infer
  | .detailed _ infer => infer

end ResponseShape

/-- What shapes the generated code. -/
structure Shaping where
  baseUrl : Option Switch
  imports : Option ImportModules
  responses : Option ResponseShape
  allOptional : Option Bool
  deriving DecidableEq, Repr

namespace Shaping

def none : Shaping := ⟨.none, .none, .none, .none⟩

/-- Fills what is unset from shared settings, field by field. -/
def or (own shared : Shaping) : Shaping where
  baseUrl := own.baseUrl.or shared.baseUrl
  imports := own.imports.or shared.imports
  responses := own.responses.or shared.responses
  allOptional := own.allOptional.or shared.allOptional

end Shaping

structure Config where
  input : Option InputOption
  output : OutputPaths
  shaping : Shaping
  pipeline : Option String
  deriving Repr

namespace Config

def empty : Config := ⟨none, ⟨none, none⟩, .none, none⟩

def defaultPipeline : String := "swag-axios-ts"

def pipelineId (config : Config) : String :=
  config.pipeline.getD defaultPipeline

def input? (config : Config) : Option Input :=
  config.input.map InputOption.input

end Config

structure ServerList where
  shaping : Shaping
  pipeline : Option String
  servers : List Config
  deriving Repr

inductive RunPlan where
  | servers (list : ServerList)
  | single (config : Config)
  deriving Repr

namespace RunPlan

/-- One configuration for each run, in order. A server takes from the shared settings what it
leaves unset. -/
def configs : RunPlan → List Config
  | .single config => [config]
  | .servers list => list.servers.map fun server =>
      { server with
        shaping := server.shaping.or list.shaping
        pipeline := server.pipeline.or list.pipeline }

end RunPlan

end ClientGen
