import ClientGen.Proofs.Numeral
import ClientGen.Proofs.StringLiteral
import ClientGen.Text.Blank
import ClientGen.TypeScript.TypeExpr
import Mathlib.Data.List.TakeWhile

/-!
# The grammar of types

The part of the language's type grammar that generated code is written in. The postfix `[]` binds
tighter than `&`, and `&` tighter than `|`; a primary type is a name, a literal, an object type, a
record type or a type between parentheses. A text is cut into tokens, and the tokens are read by
recursive descent.
-/

namespace ClientGen.TypeScript

/-! ## Trees -/

/-- Whether a text names a type: it is an identifier and no literal. -/
def isTypeReference (text : String) : Bool :=
  isIdentifier text.toList && text != "true" && text != "false"

/-- The name of a type, keywords included. -/
structure TypeWord where
  text : String
  isReference : isTypeReference text = true
  deriving DecidableEq, Repr

structure Numeral where
  text : String
  isNumeral : TypeScript.isNumeral text.toList = true
  deriving DecidableEq, Repr

/-- The tree of a type. Literals hold their values, members their names, and a union or an
intersection has at least two parts. -/
inductive TypeTree where
  | name (word : TypeWord)
  | number (numeral : Numeral)
  | flag (value : Bool)
  | string (value : String)
  | array (item : TypeTree)
  | union (first second : TypeTree) (rest : List TypeTree)
  | intersection (first second : TypeTree) (rest : List TypeTree)
  | object (members : List (Member TypeTree))
  | record (value : TypeTree)
  deriving Repr

namespace TypeTree

def unknown : TypeTree := .name ⟨"unknown", by decide⟩

/-- One part stands for itself, several are combined. -/
def collapse (combine : TypeTree → TypeTree → List TypeTree → TypeTree) :
    List TypeTree → TypeTree
  | [] => unknown
  | [part] => part
  | first :: second :: rest => combine first second rest

/-- The parts of a union; any other type is its only part. -/
def alternatives : TypeTree → List TypeTree
  | .union first second rest => first :: second :: rest
  | type => [type]

/-- The parts of an intersection; any other type is its only part. -/
def factors : TypeTree → List TypeTree
  | .intersection first second rest => first :: second :: rest
  | type => [type]

mutual

/-- The tree without unions directly inside unions and intersections directly inside
intersections. -/
def flat : TypeTree → TypeTree
  | .name word => .name word
  | .number numeral => .number numeral
  | .flag value => .flag value
  | .string value => .string value
  | .array item => .array item.flat
  | .union first second rest =>
      collapse .union ((first.flat :: second.flat :: flats rest).flatMap alternatives)
  | .intersection first second rest =>
      collapse .intersection ((first.flat :: second.flat :: flats rest).flatMap factors)
  | .object members => .object (flatMembers members)
  | .record value => .record value.flat

def flats : List TypeTree → List TypeTree
  | [] => []
  | type :: rest => type.flat :: flats rest

def flatMembers : List (Member TypeTree) → List (Member TypeTree)
  | [] => []
  | ⟨key, type, isOptional⟩ :: rest => ⟨key, type.flat, isOptional⟩ :: flatMembers rest

end

mutual

/-- The type expression that a tree stands for. -/
def expr : TypeTree → TypeExpr
  | .name word => .ref word.text
  | .number numeral => .literal numeral.text
  | .flag value => .literal (if value then "true" else "false")
  | .string value => .literal (quote value)
  | .array item => .array item.expr
  | .union first second rest => .union (first.expr :: second.expr :: exprs rest)
  | .intersection first second rest => .intersection (first.expr :: second.expr :: exprs rest)
  | .object members => .object (memberExprs members)
  | .record value => .record value.expr

def exprs : List TypeTree → List TypeExpr
  | [] => []
  | type :: rest => type.expr :: exprs rest

def memberExprs : List (Member TypeTree) → List (Member TypeExpr)
  | [] => []
  | ⟨key, type, isOptional⟩ :: rest => ⟨key, type.expr, isOptional⟩ :: memberExprs rest

end

end TypeTree

namespace TypeExpr

mutual

/-- The type expression with a reference in place of every keyword of the same spelling. -/
def identified : TypeExpr → TypeExpr
  | .keyword text => .ref text
  | .literal text => .literal text
  | .array item => .array item.identified
  | .union types => .union (identifiedTypes types)
  | .intersection types => .intersection (identifiedTypes types)
  | .object members => .object (identifiedMembers members)
  | .record value => .record value.identified
  | .ref name => .ref name

def identifiedTypes : List TypeExpr → List TypeExpr
  | [] => []
  | type :: rest => type.identified :: identifiedTypes rest

def identifiedMembers : List (Member TypeExpr) → List (Member TypeExpr)
  | [] => []
  | ⟨name, type, isOptional⟩ :: rest =>
      ⟨name, type.identified, isOptional⟩ :: identifiedMembers rest

end

end TypeExpr

/-! ## Tokens -/

/-- The tokens of types. A string token holds the text that the literal stands for. -/
inductive Token where
  | word (text : String)
  | number (text : String)
  | string (value : String)
  | mark (c : Char)
  deriving DecidableEq, Repr

/-- The characters that are tokens by themselves. -/
def marks : List Char :=
  ['|', '&', '[', ']', '(', ')', '\x7b', '\x7d', '<', '>', ',', ';', ':', '?']

/-- The token that begins with a character, and what follows it. -/
def nextToken? (c : Char) (rest : List Char) : Option (Token × List Char) :=
  if isIdentifierStart c then
    some (.word (String.ofList (c :: rest.takeWhile isIdentifierPart)),
      rest.dropWhile isIdentifierPart)
  else if c.isDigit || c == '-' then
    some (.number (String.ofList (c :: rest.takeWhile isNumeralPart)),
      rest.dropWhile isNumeralPart)
  else if c = '\'' then
    (readString rest).map fun (value, behind) => (.string (String.ofList value), behind)
  else if c ∈ marks then some (.mark c, rest)
  else none

theorem length_of_nextToken? {c : Char} {rest behind : List Char} {token : Token}
    (found : nextToken? c rest = some (token, behind)) : behind.length ≤ rest.length := by
  unfold nextToken? at found
  split at found
  · cases found
    exact List.length_dropWhile_le isIdentifierPart rest
  · split at found
    · cases found
      exact List.length_dropWhile_le isNumeralPart rest
    · split at found
      · obtain ⟨⟨value, left⟩, read, same⟩ := Option.map_eq_some_iff.mp found
        cases same
        have shorter := length_of_readString read
        omega
      · split at found
        · cases found
          exact Nat.le_refl _
        · cases found

/-- Cuts a text into tokens, with blank space between them or not. -/
def tokens : List Char → Option (List Token)
  | [] => some []
  | c :: rest =>
      if Text.isBlank c then tokens rest
      else
        match _found : nextToken? c rest with
        | none => none
        | some (token, behind) => (tokens behind).map (token :: ·)
termination_by text => text.length
decreasing_by
  · simp
  · have shorter := length_of_nextToken? _found
    simp only [List.length_cons]
    omega

/-! ## Readers -/

/-- Reads something off the front of some tokens, and hands on the tokens that are left. -/
abbrev Reader (α : Type) := List Token → Option (α × List Token)

/-- What follows a mark, if the tokens begin with it. -/
def afterMark? (mark : Char) : List Token → Option (List Token)
  | .mark c :: rest => if c = mark then some rest else none
  | _ => none

namespace Reader

/-- Reads at most so many items, and at least one, with a mark between neighbours. -/
def separated {α : Type} (mark : Char) (item : Reader α) : Nat → Reader (List α)
  | 0, _ => none
  | count + 1, tokens =>
      (item tokens).bind fun (first, rest) =>
        match afterMark? mark rest with
        | some behind =>
            (separated mark item count behind).map fun (more, rest) => (first :: more, rest)
        | none => some ([first], rest)

/-- Reads `[]` any number of times behind a type. -/
def arrays (type : TypeTree) : List Token → TypeTree × List Token
  | .mark '[' :: .mark ']' :: rest => arrays (.array type) rest
  | rest => (type, rest)

/-- Reads the key of a member, which is an identifier or a string. -/
def key : Reader String
  | .word text :: rest => some (text, rest)
  | .string value :: rest => some (value, rest)
  | _ => none

def member (type : Reader TypeTree) : Reader (Member TypeTree) := fun tokens =>
  (key tokens).bind fun (name, rest) =>
    let (isOptional, rest) :=
      match afterMark? '?' rest with
      | some rest => (true, rest)
      | none => (false, rest)
    (afterMark? ':' rest).bind fun rest =>
      (type rest).map fun (type, rest) => (⟨name, type, isOptional⟩, rest)

def object (type : Reader TypeTree) : Reader TypeTree := fun tokens =>
  match afterMark? '\x7d' tokens with
  | some rest => some (.object [], rest)
  | none =>
      (separated ';' (member type) (tokens.length + 1) tokens).bind fun (members, rest) =>
        (afterMark? '\x7d' rest).map fun rest => (.object members, rest)

def afterRecord? : List Token → Option (List Token)
  | .word name :: .mark opening :: .word key :: .mark comma :: rest =>
      if name = "Record" ∧ opening = '<' ∧ key = "string" ∧ comma = ',' then some rest else none
  | _ => none

def word (text : String) (rest : List Token) : Option (TypeTree × List Token) :=
  if text = "true" then some (.flag true, rest)
  else if text = "false" then some (.flag false, rest)
  else if isReference : isTypeReference text = true then some (.name ⟨text, isReference⟩, rest)
  else none

def primary (type : Reader TypeTree) : Reader TypeTree
  | [] => none
  | .number text :: rest =>
      if isNumeral : TypeScript.isNumeral text.toList = true then
        some (.number ⟨text, isNumeral⟩, rest)
      else none
  | .string value :: rest => some (.string value, rest)
  | .mark c :: rest =>
      if c = '(' then
        (type rest).bind fun (type, rest) => (afterMark? ')' rest).map fun rest => (type, rest)
      else if c = '\x7b' then object type rest
      else none
  | .word text :: rest =>
      match afterRecord? (.word text :: rest) with
      | some inside =>
          (type inside).bind fun (value, rest) =>
            (afterMark? '>' rest).map fun rest => (.record value, rest)
      | none => word text rest

/-- Reads a primary type and the postfixes behind it. -/
def postfixed (type : Reader TypeTree) : Reader TypeTree := fun tokens =>
  (primary type tokens).map fun (type, rest) => arrays type rest

def intersection (type : Reader TypeTree) : Reader TypeTree := fun tokens =>
  (separated '&' (postfixed type) (tokens.length + 1) tokens).map fun (parts, rest) =>
    (TypeTree.collapse .intersection parts, rest)

def union (type : Reader TypeTree) : Reader TypeTree := fun tokens =>
  (separated '|' (intersection type) (tokens.length + 1) tokens).map fun (parts, rest) =>
    (TypeTree.collapse .union parts, rest)

/-- Reads a type with types nested in it to less than the given depth. -/
def type : Nat → Reader TypeTree
  | 0, _ => none
  | depth + 1, tokens => union (type depth) tokens

end Reader

/-- The tree of a text that is a type as a whole. Types are not nested deeper than there are
tokens. -/
def TypeTree.parse (text : String) : Option TypeTree :=
  (tokens text.toList).bind fun tokens =>
    match Reader.type (tokens.length + 1) tokens with
    | some (type, []) => some type
    | _ => none

end ClientGen.TypeScript
