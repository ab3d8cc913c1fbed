import ClientGen.Text.ReadError

/-!
# Cursors in YAML texts

A place in a text: what is left to read, and how far reading has come. A line ends at a carriage
return, a line feed, both together, or one of the three line ends of Unicode.
-/

namespace ClientGen.Yaml

open Text (ReadFault)

/-- A place in a text. Lines and columns count from zero, and `index` counts the bytes before the
place. -/
structure Cursor where
  rest : List Char
  line : Nat
  column : Nat
  index : Nat
  deriving Repr

/-- Why reading stopped, and where. -/
abbrev Stop := ReadFault × Cursor

def isBlank (c : Char) : Bool :=
  c == ' ' || c == '\t'

def isBreak (c : Char) : Bool :=
  c == '\n' || c == '\r' || c == '\x85' || c == '\u2028' || c == '\u2029'

namespace Cursor

/-- The beginning of a text, after a byte order mark. -/
def start (cs : List Char) : Cursor :=
  match cs with
  | '\ufeff' :: rest => ⟨rest, 0, 0, 0⟩
  | cs => ⟨cs, 0, 0, 0⟩

def peek (cursor : Cursor) : Option Char :=
  cursor.rest.head?

def peekNext (cursor : Cursor) : Option Char :=
  (cursor.rest.drop 1).head?

def isBlankOrEnd : Option Char → Bool
  | none => true
  | some c => isBlank c || isBreak c

def isLineEnd : Option Char → Bool
  | none => true
  | some c => isBreak c

def byteCount (cs : List Char) : Nat :=
  cs.foldr (fun c count => c.utf8Size + count) 0

def skipMany (cursor : Cursor) (count : Nat) : Cursor :=
  ⟨cursor.rest.drop count, cursor.line, cursor.column + count,
    cursor.index + byteCount (cursor.rest.take count)⟩

def skip (cursor : Cursor) : Cursor :=
  cursor.skipMany 1

/-- Passes over a line end and answers the character that it stands for. -/
def takeBreak (cursor : Cursor) : List Char × Cursor :=
  match cursor.rest with
  | '\r' :: '\n' :: rest => (['\n'], ⟨rest, cursor.line + 1, 0, cursor.index + 2⟩)
  | c :: rest =>
      (if c == '\u2028' || c == '\u2029' then [c] else ['\n'],
        ⟨rest, cursor.line + 1, 0, cursor.index + c.utf8Size⟩)
  | [] => ([], cursor)

/-- Whether the cursor stands at three given characters that stand alone. -/
def isAtMarker (cursor : Cursor) (mark : Char) : Bool :=
  cursor.column == 0 &&
    match cursor.rest with
    | a :: b :: c :: rest => a == mark && b == mark && c == mark && isBlankOrEnd rest.head?
    | _ => false

def isAtDocumentMarker (cursor : Cursor) : Bool :=
  cursor.isAtMarker '-' || cursor.isAtMarker '.'

def skipWhile (cursor : Cursor) (p : Char → Bool) : Cursor :=
  cursor.skipMany (cursor.rest.takeWhile p).length

def takeWhile (cursor : Cursor) (p : Char → Bool) : List Char × Cursor :=
  (cursor.rest.takeWhile p, cursor.skipWhile p)

def fail {α : Type} (cursor : Cursor) (fault : ReadFault) : Except Stop α :=
  .error (fault, cursor)

def unexpected {α : Type} (cursor : Cursor) : Except Stop α :=
  match cursor.peek with
  | some c => cursor.fail (.unexpected c)
  | none => cursor.fail .unexpectedEnd

end Cursor

end ClientGen.Yaml
