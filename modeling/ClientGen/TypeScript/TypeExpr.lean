import ClientGen.TypeScript.Literal

/-!
# Type expressions

The types that schemas describe, and their text. The postfix `[]` binds tighter than `&`,
and `&` tighter than `|`; the text has parentheses where a type would be read otherwise.
-/

namespace ClientGen.TypeScript

structure Member (τ : Type) where
  name : String
  type : τ
  isOptional : Bool
  deriving DecidableEq, Repr

/-- A type expression. Keywords, literals and references hold their text. -/
inductive TypeExpr where
  | keyword (text : String)
  | literal (text : String)
  | array (item : TypeExpr)
  | union (types : List TypeExpr)
  | intersection (types : List TypeExpr)
  | object (members : List (Member TypeExpr))
  | record (value : TypeExpr)
  | ref (name : String)
  deriving Repr, Inhabited

namespace TypeExpr

def unknown : TypeExpr := .keyword "unknown"

def void : TypeExpr := .keyword "void"

def formData : TypeExpr := .keyword "FormData"

def null : TypeExpr := .keyword "null"

def isVoid : TypeExpr → Bool
  | .keyword text => text == "void"
  | _ => false

/-- Adds `null` to a type, as a further part if it is a union. -/
def nullable : TypeExpr → TypeExpr
  | .union types => .union (types ++ [null])
  | type => .union [type, null]

def parenthesized (text : String) : String :=
  "(" ++ text ++ ")"

/-- Whether a type needs parentheses before `[]`. -/
def isCompound : TypeExpr → Bool
  | .union _ => true
  | .intersection _ => true
  | _ => false

/-- Whether a type needs parentheses between `&`. -/
def isUnion : TypeExpr → Bool
  | .union _ => true
  | _ => false

/-- The texts of several types with a separator between them; of none, the type of everything. -/
def joined (separator : String) (texts : List String) : String :=
  match texts with
  | [] => "unknown"
  | texts => Text.join separator texts

mutual

def text : TypeExpr → String
  | .keyword text => text
  | .literal text => text
  | .array item => (if item.isCompound then parenthesized item.text else item.text) ++ "[]"
  | .union types => joined " | " (texts types)
  | .intersection types => joined " & " (factorTexts types)
  | .object [] => "\x7b\x7d"
  | .object members => "\x7b " ++ Text.join "; " (memberTexts members) ++ " \x7d"
  | .record value => "Record<string, " ++ value.text ++ ">"
  | .ref name => name

def texts : List TypeExpr → List String
  | [] => []
  | type :: rest => type.text :: texts rest

def factorTexts : List TypeExpr → List String
  | [] => []
  | type :: rest =>
      (if type.isUnion then parenthesized type.text else type.text) :: factorTexts rest

def memberTexts : List (Member TypeExpr) → List String
  | [] => []
  | ⟨name, type, isOptional⟩ :: rest =>
      (quoteIfNeeded name ++ (if isOptional then "?" else "") ++ ": " ++ type.text) ::
        memberTexts rest

end

/-- One type stands for itself, none for the type of everything, several are combined. -/
def collapse (combine : List TypeExpr → TypeExpr) : List TypeExpr → TypeExpr
  | [] => unknown
  | [type] => type
  | types => combine types

end TypeExpr

end ClientGen.TypeScript
