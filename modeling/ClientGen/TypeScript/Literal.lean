import ClientGen.Text.Replace

/-!
# String literals and object keys

Single-quoted string literals of the generated code, and the keys of object types: a key stands
bare when it is an identifier and as a literal otherwise.
-/

namespace ClientGen.TypeScript

/-- The letters of ASCII, the underscore and the dollar sign may begin an identifier. -/
def isIdentifierStart (c : Char) : Bool :=
  c.isAlpha || c == '_' || c == '$'

/-- An identifier goes on with these and the digits of ASCII. -/
def isIdentifierPart (c : Char) : Bool :=
  c.isAlphanum || c == '_' || c == '$'

def isIdentifier : List Char → Bool
  | [] => false
  | c :: rest => isIdentifierStart c && rest.all isIdentifierPart

/-- Whether a name has to be written as a literal when it is a key. -/
def needsQuoting (name : String) : Bool :=
  !isIdentifier name.toList

/-- A character inside a single-quoted literal. The quote, the backslash and the four line
terminators are escaped, since a raw one would end the literal. -/
def escapedChar (c : Char) : List Char :=
  if c = '\\' then ['\\', '\\']
  else if c = '\'' then ['\\', '\'']
  else if c = '\n' then ['\\', 'n']
  else if c = '\r' then ['\\', 'r']
  else if c = '\u2028' then ['\\', 'u', '2', '0', '2', '8']
  else if c = '\u2029' then ['\\', 'u', '2', '0', '2', '9']
  else [c]

def escapeString (s : String) : String :=
  String.ofList (s.toList.flatMap escapedChar)

def quote (s : String) : String :=
  "'" ++ escapeString s ++ "'"

def quoteIfNeeded (name : String) : String :=
  if needsQuoting name then quote name else name

end ClientGen.TypeScript
