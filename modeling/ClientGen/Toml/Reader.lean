import ClientGen.Toml.Scalar
import ClientGen.Toml.Table

/-!
# Reading TOML

A TOML text is a list of lines: an assignment, a header that names the table of the assignments
after it, or nothing. The reader works over the remaining characters.
-/

namespace ClientGen.Toml

open Text (ReadFault ReadError)
open Json (Stop Step)

def maxDepth : Nat := 79

def maxParts : Nat := 79

def isKeyChar (c : Char) : Bool :=
  c.isAlphanum || c == '_' || c == '-'

def skipComment : List Char → List Char
  | '#' :: rest => rest.dropWhile isPrintable
  | cs => cs

def readLineEnd (cs : List Char) : Except Stop (List Char) :=
  let cs := skipComment (cs.dropWhile isBlank)
  match cs, afterBreak? cs with
  | [], _ => .ok []
  | _, some rest => .ok rest
  | cs, none => unexpected cs

def skipLines : Nat → List Char → List Char
  | 0, cs => cs
  | fuel + 1, cs =>
      let cs := skipComment (cs.dropWhile isBlank)
      match afterBreak? cs with
      | some rest => skipLines fuel rest
      | none => cs

def readLineString (quote : Char) (cs : List Char) : Step String :=
  lineString quote ((cs.takeWhile (· != '\n')).length + 1) [] cs

def readKeyPart : List Char → Step String
  | '"' :: rest => readLineString '"' rest
  | '\'' :: rest => readLineString '\'' rest
  | cs =>
      let (name, rest) := cs.span isKeyChar
      if name.isEmpty then unexpected cs else .ok (String.ofList name, rest)

/-- The parts of a dotted key; `read` holds those so far in reverse order. -/
def readKeyFrom : Nat → List String → List Char → Step (List String)
  | 0, _, cs => .error (.tooDeep, cs)
  | fuel + 1, read, cs =>
      match readKeyPart (cs.dropWhile isBlank) with
      | .error stop => .error stop
      | .ok (part, rest) =>
          match rest.dropWhile isBlank with
          | '.' :: rest => readKeyFrom fuel (part :: read) rest
          | rest => .ok ((part :: read).reverse, rest)

/-- A dotted key: the path to its table and the last part. -/
def readKey (cs : List Char) : Step (List String × String) :=
  (readKeyFrom maxParts [] cs).map fun (parts, rest) =>
    ((parts.dropLast, parts.getLast?.getD ""), rest)

mutual

/-- A value. `fuel` bounds the steps and `depth` the further levels of nesting. -/
def readValue : Nat → Nat → List Char → Step Json
  | 0, _, cs => .error (.unexpectedEnd, cs)
  | fuel + 1, depth, cs =>
      match cs, depth with
      | '"' :: rest, _ => (readString fuel '"' rest).map fun (s, rest) => (.string s, rest)
      | '\'' :: rest, _ => (readString fuel '\'' rest).map fun (s, rest) => (.string s, rest)
      | '[' :: rest, 0 => .error (.tooDeep, rest)
      | '[' :: rest, depth + 1 =>
          (readItems fuel depth [] rest).map fun (items, rest) => (.array items, rest)
      | '\x7b' :: rest, 0 => .error (.tooDeep, rest)
      | '\x7b' :: rest, depth + 1 =>
          match rest.dropWhile isBlank with
          | '\x7d' :: rest => .ok (.object [], rest)
          | rest => (readMembers fuel depth [] rest).map fun (table, rest) =>
              (.object (Table.json table), rest)
      | cs, _ => readWord cs

def readItems : Nat → Nat → List Json → List Char → Step (List Json)
  | 0, _, _, cs => .error (.unexpectedEnd, cs)
  | fuel + 1, depth, read, cs =>
      match skipLines fuel cs with
      | ']' :: rest => .ok (read.reverse, rest)
      | cs =>
          match readValue fuel depth cs with
          | .error stop => .error stop
          | .ok (item, rest) =>
              match skipLines fuel rest with
              | ',' :: rest => readItems fuel depth (item :: read) rest
              | ']' :: rest => .ok ((item :: read).reverse, rest)
              | rest => unexpected rest

/-- The members of an inline table up to its closing brace, all within a line. -/
def readMembers : Nat → Nat → Table → List Char → Step Table
  | 0, _, _, cs => .error (.unexpectedEnd, cs)
  | fuel + 1, depth, table, cs =>
      match readKey cs with
      | .error stop => .error stop
      | .ok ((path, key), '=' :: rest) =>
          match readValue fuel depth (rest.dropWhile isBlank) with
          | .error stop => .error stop
          | .ok (value, rest) =>
              match table.assign path key value with
              | .error fault => .error (fault, rest)
              | .ok table =>
                  match rest.dropWhile isBlank with
                  | ',' :: rest => readMembers fuel depth table rest
                  | '\x7d' :: rest => .ok (table, rest)
                  | rest => unexpected rest
      | .ok (_, rest) => unexpected rest

end

/-- What has been read of a text: the tables, and the header of the next assignments. -/
structure Progress where
  table : Table
  header : List String

/-- Answers a change of the tables, or the fault at a place. -/
def changed (rest : List Char) (header : List String) (table : Except ReadFault Table) :
    Step Progress :=
  match table with
  | .ok table => .ok (⟨table, header⟩, rest)
  | .error fault => .error (fault, rest)

/-- Reads a line after the blanks at its beginning, apart from its end. What is left is no longer
than `bound`. -/
def readLine (bound : Nat) (progress : Progress) : List Char → Step Progress
  | '[' :: '[' :: rest =>
      match readKey rest with
      | .error stop => .error stop
      | .ok ((path, key), ']' :: ']' :: rest) =>
          changed rest (path ++ [key]) (progress.table.openItem path key)
      | .ok (_, rest) => unexpected rest
  | '[' :: rest =>
      match readKey rest with
      | .error stop => .error stop
      | .ok ((path, key), ']' :: rest) =>
          changed rest (path ++ [key]) (progress.table.openHeader path key)
      | .ok (_, rest) => unexpected rest
  | cs =>
      match readKey cs with
      | .error stop => .error stop
      | .ok ((path, key), '=' :: rest) =>
          match readValue (2 * bound + 2) maxDepth (rest.dropWhile isBlank) with
          | .error stop => .error stop
          | .ok (value, rest) =>
              changed rest progress.header
                (progress.table.assignUnder progress.header path key value)
      | .ok (_, rest) => unexpected rest

def readLines : Nat → Progress → List Char → Except Stop Table
  | 0, _, cs => .error (.unexpectedEnd, cs)
  | fuel + 1, progress, cs =>
      match skipLines (fuel + 1) cs with
      | [] => .ok progress.table
      | cs =>
          match readLine fuel progress cs with
          | .error stop => .error stop
          | .ok (progress, rest) =>
              match readLineEnd rest with
              | .error stop => .error stop
              | .ok rest => readLines fuel progress rest

def withoutMark : List Char → List Char
  | '\ufeff' :: rest => rest
  | cs => cs

def read (text : String) : Except ReadError Json :=
  let cs := withoutMark text.toList
  match readLines (cs.length + 1) ⟨[], []⟩ cs with
  | .ok table => .ok (Json.object (Table.json table)).canonical
  | .error (fault, rest) => .error (ReadError.before cs rest fault)

end ClientGen.Toml
