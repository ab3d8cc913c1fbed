import ClientGen.Json.Basic
import ClientGen.Text.ReadError

/-!
# Reading JSON

A reader over the remaining characters. It keeps the members of an object in the order of the
text, repeated keys included, and accepts at most `Json.maxDepth` levels of nesting. Whole numbers
from `-2 ^ 63` to `2 ^ 64 - 1` stay whole numbers; every other number is a double.
-/

namespace ClientGen.Json

open Text (ReadFault ReadError)

def maxDepth : Nat := 127

/-- A cause together with the characters that were still to be read. -/
abbrev Stop := ReadFault × List Char

/-- What a reading step answers: a value and the remaining characters. -/
abbrev Step (α : Type) := Except Stop (α × List Char)

def isSpace (c : Char) : Bool :=
  c = ' ' || c = '\n' || c = '\t' || c = '\r'

def skipSpace (cs : List Char) : List Char :=
  cs.dropWhile isSpace

def hexValue? (c : Char) : Option Nat :=
  if c.isDigit then some (c.toNat - '0'.toNat)
  else if 'a' ≤ c ∧ c ≤ 'f' then some (c.toNat - 'a'.toNat + 10)
  else if 'A' ≤ c ∧ c ≤ 'F' then some (c.toNat - 'A'.toNat + 10)
  else none

def hexFour : List Char → Step Nat
  | a :: b :: c :: d :: rest =>
      match hexValue? a, hexValue? b, hexValue? c, hexValue? d with
      | some a, some b, some c, some d => .ok (((a * 16 + b) * 16 + c) * 16 + d, rest)
      | _, _, _, _ => .error (.badEscape, rest)
  | rest => .error (.unexpectedEnd, rest)

/-- The character of an escape by number; a code point beyond 16 bits is written as two halves. -/
def escapedByNumber (cs : List Char) : Step Char :=
  match hexFour cs with
  | .error stop => .error stop
  | .ok (high, rest) =>
      if 0xDC00 ≤ high ∧ high < 0xE000 then .error (.badEscape, rest)
      else if 0xD800 ≤ high ∧ high < 0xDC00 then
        match rest with
        | '\\' :: 'u' :: rest =>
            match hexFour rest with
            | .error stop => .error stop
            | .ok (low, rest) =>
                if 0xDC00 ≤ low ∧ low < 0xE000 then
                  .ok (Char.ofNat (0x10000 + (high - 0xD800) * 0x400 + (low - 0xDC00)), rest)
                else .error (.badEscape, rest)
        | rest => .error (.badEscape, rest)
      else .ok (Char.ofNat high, rest)

def escaped : List Char → Step Char
  | 'n' :: rest => .ok ('\n', rest)
  | 't' :: rest => .ok ('\t', rest)
  | 'r' :: rest => .ok ('\r', rest)
  | 'b' :: rest => .ok ('\x08', rest)
  | 'f' :: rest => .ok ('\x0c', rest)
  | 'u' :: rest => escapedByNumber rest
  | c :: rest =>
      if c = '"' ∨ c = '\\' ∨ c = '/' then .ok (c, rest) else .error (.badEscape, c :: rest)
  | [] => .error (.unexpectedEnd, [])

/-- The rest of a string after its opening quote; `read` holds the characters so far in reverse
order, and `fuel` bounds the number of characters. -/
def stringFrom : Nat → List Char → List Char → Step String
  | 0, _, cs => .error (.unexpectedEnd, cs)
  | _, _, [] => .error (.unexpectedEnd, [])
  | fuel + 1, read, c :: rest =>
      if c = '"' then .ok (String.ofList read.reverse, rest)
      else if c = '\\' then
        match escaped rest with
        | .ok (c, rest) => stringFrom fuel (c :: read) rest
        | .error stop => .error stop
      else if c.toNat < 0x20 then .error (.controlCharacter, c :: rest)
      else stringFrom fuel (c :: read) rest

def decimalValue (digits : List Char) : Nat :=
  digits.foldl (fun n c => n * 10 + (c.toNat - '0'.toNat)) 0

/-- Digits read up to the largest whole number of 64 bits; answers the number and how many digits
did not fit. -/
def significand (start : Nat) : List Char → Nat × List Char
  | [] => (start, [])
  | c :: rest =>
      let next := start * 10 + (c.toNat - '0'.toNat)
      if next < Nat.pow 2 64 then significand next rest else (start, c :: rest)

def exponentPart : List Char → Step (Option (Bool × Nat))
  | c :: rest =>
      if c = 'e' ∨ c = 'E' then
        let (negative, rest) := match rest with
          | '-' :: rest => (true, rest)
          | '+' :: rest => (false, rest)
          | rest => (false, rest)
        let (digits, rest) := rest.span Char.isDigit
        if digits.isEmpty then .error (.badNumber, rest)
        else .ok (some (negative, decimalValue digits), rest)
      else .ok (none, c :: rest)
  | [] => .ok (none, [])

def fractionPart : List Char → Step (Option (List Char))
  | '.' :: rest =>
      let (digits, rest) := rest.span Char.isDigit
      if digits.isEmpty then .error (.badNumber, rest) else .ok (some digits, rest)
  | rest => .ok (none, rest)

/-- A whole number as a value, a double if it does not fit 64 bits or is a negated zero. -/
def wholeNumber (negative : Bool) (n : Nat) : Option Number :=
  if negative then
    if 0 < n ∧ n ≤ Nat.pow 2 63 then some (.integer (-n))
    else (Double.ofNat? true n).map .double
  else some (.integer n)

/-- The number written by a sign, integer digits, fraction digits and an exponent. Digits beyond
64 bits of significand do not count except for their number. -/
def numberValue (negative : Bool) (whole : List Char) (fraction : Option (List Char))
    (exponent : Option (Bool × Nat)) : Option Number :=
  let (start, dropped) := significand 0 whole
  match dropped, fraction, exponent with
  | [], none, none => wholeNumber negative start
  | _, _, _ =>
      let digits := fraction.getD []
      let (value, unread) := if dropped.isEmpty then significand start digits else (start, digits)
      let shift : Int := match exponent with
        | some (true, e) => -(e : Int)
        | some (false, e) => e
        | none => 0
      (Double.scaled negative value
        (dropped.length - (digits.length - unread.length : Nat) + shift)).map .double

def readUnsigned (negative : Bool) (cs : List Char) : Step Number :=
  let (whole, rest) := cs.span Char.isDigit
  match whole with
  | [] => .error (.badNumber, rest)
  | '0' :: _ :: _ => .error (.badNumber, rest)
  | _ =>
      match fractionPart rest with
      | .error stop => .error stop
      | .ok (fraction, rest) =>
          match exponentPart rest with
          | .error stop => .error stop
          | .ok (exponent, rest) =>
              match numberValue negative whole fraction exponent with
              | some n => .ok (n, rest)
              | none => .error (.numberTooLarge, rest)

def readNumber : List Char → Step Number
  | '-' :: rest => readUnsigned true rest
  | cs => readUnsigned false cs

def word (text : List Char) (value : Json) (cs : List Char) : Step Json :=
  if cs.take text.length = text then .ok (value, cs.drop text.length)
  else .error (match cs with | c :: _ => .unexpected c | [] => .unexpectedEnd, cs)

mutual

/-- A value, after any space. `fuel` bounds the steps and `depth` the further levels of
nesting. -/
def readValue : Nat → Nat → List Char → Step Json
  | 0, _, cs => .error (.unexpectedEnd, cs)
  | fuel + 1, depth, cs =>
      match skipSpace cs with
      | [] => .error (.unexpectedEnd, [])
      | '"' :: rest => (stringFrom fuel [] rest).map fun (s, rest) => (.string s, rest)
      | '[' :: rest =>
          match depth with
          | 0 => .error (.tooDeep, rest)
          | depth + 1 =>
              match skipSpace rest with
              | ']' :: rest => .ok (.array [], rest)
              | rest => (readItems fuel depth [] rest).map fun (xs, rest) => (.array xs, rest)
      | '\x7b' :: rest =>
          match depth with
          | 0 => .error (.tooDeep, rest)
          | depth + 1 =>
              match skipSpace rest with
              | '\x7d' :: rest => .ok (.object [], rest)
              | rest => (readMembers fuel depth [] rest).map fun (ms, rest) => (.object ms, rest)
      | 't' :: rest => word "rue".toList (.bool true) rest
      | 'f' :: rest => word "alse".toList (.bool false) rest
      | 'n' :: rest => word "ull".toList .null rest
      | c :: rest =>
          if c = '-' || c.isDigit then
            (readNumber (c :: rest)).map fun (n, rest) => (.number n, rest)
          else .error (.unexpected c, c :: rest)

/-- The items of an array up to its closing bracket; `read` holds the items so far in reverse
order. -/
def readItems : Nat → Nat → List Json → List Char → Step (List Json)
  | 0, _, _, cs => .error (.unexpectedEnd, cs)
  | fuel + 1, depth, read, cs =>
      match readValue fuel depth cs with
      | .error stop => .error stop
      | .ok (item, rest) =>
          match skipSpace rest with
          | ',' :: rest => readItems fuel depth (item :: read) rest
          | ']' :: rest => .ok ((item :: read).reverse, rest)
          | c :: rest => .error (.unexpected c, c :: rest)
          | [] => .error (.unexpectedEnd, [])

def readMembers : Nat → Nat → Members → List Char → Step Members
  | 0, _, _, cs => .error (.unexpectedEnd, cs)
  | fuel + 1, depth, read, cs =>
      match skipSpace cs with
      | '"' :: rest =>
          match stringFrom fuel [] rest with
          | .error stop => .error stop
          | .ok (key, rest) =>
              match skipSpace rest with
              | ':' :: rest =>
                  match readValue fuel depth rest with
                  | .error stop => .error stop
                  | .ok (item, rest) =>
                      match skipSpace rest with
                      | ',' :: rest => readMembers fuel depth ((key, item) :: read) rest
                      | '\x7d' :: rest => .ok (((key, item) :: read).reverse, rest)
                      | c :: rest => .error (.unexpected c, c :: rest)
                      | [] => .error (.unexpectedEnd, [])
              | c :: rest => .error (.unexpected c, c :: rest)
              | [] => .error (.unexpectedEnd, [])
      | c :: rest => .error (.unexpected c, c :: rest)
      | [] => .error (.unexpectedEnd, [])

end

/-- The value at the beginning of a text, with the members of objects in the order of the text,
and the error that the text ends with if there is more after it. -/
def readFirst (text : String) : Except ReadError (Json × Option ReadError) :=
  let cs := text.toList
  match readValue (2 * cs.length + 2) maxDepth cs with
  | .error (fault, rest) => .error (ReadError.before cs rest fault)
  | .ok (v, rest) =>
      match skipSpace rest with
      | [] => .ok (v, none)
      | rest => .ok (v, some (ReadError.before cs rest .trailingText))

/-- The value that a text writes, with the members of objects in the order of the text. -/
def readInOrder (text : String) : Except ReadError Json :=
  match readFirst text with
  | .ok (v, none) => .ok v
  | .ok (_, some e) => .error e
  | .error e => .error e

def read (text : String) : Except ReadError Json :=
  (readInOrder text).map canonical

end ClientGen.Json
