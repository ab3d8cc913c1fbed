import ClientGen.Text.Replace

/-!
# Graphs

What a generated client consists of, before it is laid out in files: functions, imports,
variables and type declarations, each list in the order in which it will be printed, and the
envelope that all responses come in. Types are texts of the generated language.
-/

namespace ClientGen

namespace Graph

/-- A parameter of a function or a member of an interface. -/
structure Field where
  name : String
  type : Option String
  isRequired : Bool
  description : List String
  deriving DecidableEq, Repr

structure Function where
  name : String
  description : List String
  parameters : List Field
  returnType : Option String
  body : List String
  isAsync : Bool
  deriving DecidableEq, Repr

/-- An import of a module: its default value or the module itself under `name`, and the exported
names. -/
structure Import where
  name : Option String
  module : String
  names : List String
  isNamespace : Bool
  isTypeOnly : Bool
  deriving DecidableEq, Repr

inductive VariableKind where
  | const
  | let
  | var
  deriving DecidableEq, Repr

structure Variable where
  kind : VariableKind
  name : String
  value : Option String
  isExported : Bool
  deriving DecidableEq, Repr

structure Alias where
  name : String
  value : String
  isExported : Bool
  description : List String
  deriving DecidableEq, Repr

structure Interface where
  name : String
  properties : List Field
  isExported : Bool
  description : List String
  deriving DecidableEq, Repr

/-- What all responses have in common: the name of the helper type that takes the body out of a
response, the wrapper around every return type, and the conditional type behind the helper. -/
structure Envelope where
  typeName : String
  wrapper : Option String
  infer : Option String
  deriving DecidableEq, Repr

namespace Field

def required (name type : String) : Field :=
  ⟨name, some type, true, []⟩

def optional (name type : String) : Field :=
  ⟨name, some type, false, []⟩

def withDescription (field : Field) (line : String) : Field :=
  { field with description := field.description ++ [line] }

end Field

namespace Import

def defaultOf (name module : String) : Import :=
  ⟨some name, module, [], false, false⟩

def named (names : List String) (module : String) : Import :=
  ⟨none, module, names, false, false⟩

end Import

namespace Envelope

/-- The place in a wrapper where the type of the body goes. -/
def slot : String := "\x7b__type__\x7d"

def bodyType (envelope : Envelope) (type : String) : String :=
  match envelope.infer with
  | some _ => envelope.typeName ++ "<" ++ type ++ ">"
  | none => type

def wrap (envelope : Envelope) (type : String) : String :=
  match envelope.wrapper with
  | some wrapper => Text.replace slot (envelope.bodyType type) wrapper
  | none => envelope.bodyType type

end Envelope

end Graph

structure Graph where
  comments : List String
  functions : List Graph.Function
  imports : List Graph.Import
  bindings : List Graph.Variable
  aliases : List Graph.Alias
  interfaces : List Graph.Interface
  envelope : Graph.Envelope
  deriving DecidableEq, Repr

namespace Graph

def empty : Graph :=
  ⟨[], [], [], [], [], [], ⟨"", none, none⟩⟩

def isEmpty (graph : Graph) : Bool :=
  graph.comments.isEmpty && graph.functions.isEmpty && graph.imports.isEmpty &&
    graph.bindings.isEmpty && graph.aliases.isEmpty && graph.interfaces.isEmpty

/-- The names of the declared types, aliases first. -/
def typeNames (graph : Graph) : List String :=
  graph.aliases.map (·.name) ++ graph.interfaces.map (·.name)

end Graph

end ClientGen
