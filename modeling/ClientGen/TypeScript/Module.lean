import ClientGen.Text.Blank

/-!
# Modules

The statements of a generated file. Type annotations hold the text of a type expression; only the
keywords among them are told apart.
-/

namespace ClientGen.TypeScript

inductive Primitive where
  | string
  | number
  | boolean
  | null
  | void
  | any
  | unknown
  deriving DecidableEq, Repr

namespace Primitive

def all : List Primitive := [.string, .number, .boolean, .null, .void, .any, .unknown]

def text : Primitive → String
  | .string => "string"
  | .number => "number"
  | .boolean => "boolean"
  | .null => "null"
  | .void => "void"
  | .any => "any"
  | .unknown => "unknown"

def ofText? (text : String) : Option Primitive :=
  all.find? fun primitive => primitive.text == text

end Primitive

/-- The type of an annotation. -/
inductive TypeSpec where
  | keyword (primitive : Primitive)
  | expression (text : String)
  deriving DecidableEq, Repr

namespace TypeSpec

/-- The annotation for the text of a type; for blank text or none, the type of everything. -/
def ofText (text : Option String) : TypeSpec :=
  match text.map Text.trim with
  | none => .keyword .unknown
  | some text =>
      if text.isEmpty then .keyword .unknown
      else match Primitive.ofText? text with
        | some primitive => .keyword primitive
        | none => .expression text

end TypeSpec

structure Property where
  name : String
  type : TypeSpec
  isOptional : Bool
  docs : List String
  deriving DecidableEq, Repr

/-- A name that is imported, under another name if one is given. -/
structure ImportItem where
  name : String
  localName : Option String
  deriving DecidableEq, Repr

structure Import where
  default : Option String
  namespaceName : Option String
  items : List ImportItem
  source : String
  isTypeOnly : Bool
  deriving DecidableEq, Repr

inductive VariableKind where
  | const
  | let
  | var
  deriving DecidableEq, Repr

structure Variable where
  kind : VariableKind
  name : String
  init : Option String
  isExported : Bool
  deriving DecidableEq, Repr

inductive Definition where
  | interface (properties : List Property)
  | typeAlias (type : TypeSpec)
  deriving DecidableEq, Repr

structure TypeDefinition where
  name : String
  definition : Definition
  docs : List String
  isExported : Bool
  deriving DecidableEq, Repr

structure Parameter where
  name : String
  type : Option TypeSpec
  isOptional : Bool
  deriving DecidableEq, Repr

structure Function where
  name : String
  docs : List String
  parameters : List Parameter
  returnType : Option TypeSpec
  body : List String
  isAsync : Bool
  isExported : Bool
  deriving DecidableEq, Repr

/-- A file of statements under a header of comment lines. -/
structure Module where
  header : List String
  imports : List Import
  bindings : List Variable
  types : List TypeDefinition
  functions : List Function
  deriving DecidableEq, Repr

namespace Module

def empty : Module := ⟨[], [], [], [], []⟩

def isEmpty (module : Module) : Bool :=
  module.imports.isEmpty && module.bindings.isEmpty && module.types.isEmpty &&
    module.functions.isEmpty

end Module

end ClientGen.TypeScript
