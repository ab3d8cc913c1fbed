import ClientGen.Text.Uppercase
import ClientGen.TypeScript.Literal

/-!
# Identifiers

Names for generated functions, parameters and types, made from names of any kind. Characters that
cannot stand in an identifier are dropped and the letter after them is capitalized. A name that
would begin with a digit or would be reserved gets an underscore in front.
-/

namespace ClientGen.TypeScript

/-- The words that generated functions, parameters and types may not be called: the words of the
language and the names that generated functions use themselves. -/
def reservedWords : List String := [
  "break", "case", "catch", "class", "const", "continue", "debugger", "default", "delete", "do",
  "else", "enum", "export", "extends", "false", "finally", "for", "function", "if", "import",
  "in", "instanceof", "new", "null", "return", "super", "switch", "this", "throw", "true", "try",
  "typeof", "var", "void", "while", "with", "yield", "let", "static", "implements", "interface",
  "package", "private", "protected", "public", "await", "async",
  "url", "config", "http", "baseURL", "query", "body"]

def isReserved (name : String) : Bool :=
  reservedWords.contains name

/-- Keeps the characters of identifiers. `begun` tells whether one was kept already and `capital`
whether others were dropped since. -/
def camelCase (begun capital : Bool) : List Char → List Char
  | [] => []
  | c :: rest =>
      if isIdentifierPart c then
        (if capital && begun then c.toUpper else c) :: camelCase true false rest
      else camelCase begun true rest

def startsWithDigit : List Char → Bool
  | c :: _ => c.isDigit
  | [] => false

def sanitizeIdentifier (name : String) : String :=
  match camelCase false false name.toList with
  | [] => "_empty"
  | cs =>
      let bare := String.ofList (if startsWithDigit cs then '_' :: cs else cs)
      if isReserved bare then "_" ++ bare else bare

def startsWithUnderscore (s : String) : Bool :=
  s.toList.head? == some '_'

/-- A type name made from any name: the capitalized identifier, without the underscore that the
identifier got in front, and with a `T` where no letter would begin it. -/
def sanitizeTypeName (name : String) : String :=
  let ident := sanitizeIdentifier name
  if !startsWithUnderscore ident || startsWithUnderscore name then Text.capitalizeFirst ident
  else
    let rest := Text.capitalizeFirst (String.ofList (ident.toList.dropWhile (· == '_')))
    if rest.isEmpty || startsWithDigit rest.toList then "T" ++ rest else rest

/-- The type name that a reference stands for: that of its last segment. -/
def referencedTypeName (reference : String) : String :=
  sanitizeTypeName (String.ofList ((Text.split '/' reference.toList).getLastD []))

end ClientGen.TypeScript
