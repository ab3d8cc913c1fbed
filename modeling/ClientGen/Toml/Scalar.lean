import ClientGen.Json.Reader
import ClientGen.Text.Replace

/-!
# TOML scalars

Strings in their four forms, and the words that stand for flags, numbers and times. A time becomes
an object with a single member that holds its text.
-/

namespace ClientGen.Toml

open Text (ReadFault)
open Json (Stop Step)

def isBlank (c : Char) : Bool :=
  c == ' ' || c == '\t'

def isPrintable (c : Char) : Bool :=
  c == '\t' || (0x20 ≤ c.toNat && c.toNat != 0x7F)

def unexpected {α : Type} : List Char → Except Stop α
  | c :: rest => .error (.unexpected c, c :: rest)
  | [] => .error (.unexpectedEnd, [])

def hexNumber? (cs : List Char) : Option Nat :=
  cs.foldl (fun value c => value.bind fun n => (Json.hexValue? c).map (n * 16 + ·)) (some 0)

def escapedByNumber (count : Nat) (cs : List Char) : Step Char :=
  let digits := cs.take count
  match hexNumber? digits with
  | some n =>
      if digits.length == count && n.isValidChar then .ok (Char.ofNat n, cs.drop count)
      else .error (.badEscape, cs)
  | none => .error (.badEscape, cs)

def escaped : List Char → Step Char
  | 'b' :: rest => .ok ('\x08', rest)
  | 't' :: rest => .ok ('\t', rest)
  | 'n' :: rest => .ok ('\n', rest)
  | 'f' :: rest => .ok ('\x0c', rest)
  | 'r' :: rest => .ok ('\r', rest)
  | '"' :: rest => .ok ('"', rest)
  | '\\' :: rest => .ok ('\\', rest)
  | 'u' :: rest => escapedByNumber 4 rest
  | 'U' :: rest => escapedByNumber 8 rest
  | rest => .error (.badEscape, rest)

/-- The rest of a string within a line after its opening quote; double quotes allow escapes. -/
def lineString (quote : Char) : Nat → List Char → List Char → Step String
  | 0, _, cs => .error (.unexpectedEnd, cs)
  | _, _, [] => .error (.unexpectedEnd, [])
  | fuel + 1, read, c :: rest =>
      if c == quote then .ok (String.ofList read.reverse, rest)
      else if c == '\\' && quote == '"' then
        match escaped rest with
        | .ok (c, rest) => lineString quote fuel (c :: read) rest
        | .error stop => .error stop
      else if isPrintable c then lineString quote fuel (c :: read) rest
      else .error (.controlCharacter, c :: rest)

def afterBreak? : List Char → Option (List Char)
  | '\n' :: rest => some rest
  | '\r' :: '\n' :: rest => some rest
  | _ => none

def skipBlankLines : Nat → List Char → List Char
  | 0, cs => cs
  | fuel + 1, cs =>
      let cs := cs.dropWhile isBlank
      match afterBreak? cs with
      | some rest => skipBlankLines fuel rest
      | none => cs

/-- The rest of a string of several lines after its opening quotes. Up to two quotes may stand
before the closing ones. -/
def linesString (quote : Char) : Nat → List Char → List Char → Step String
  | 0, _, cs => .error (.unexpectedEnd, cs)
  | _, _, [] => .error (.unexpectedEnd, [])
  | fuel + 1, read, c :: rest =>
      if c == quote then
        let quotes := ((c :: rest).takeWhile (· == quote)).length
        if quotes < 3 then
          linesString quote fuel (List.replicate quotes quote ++ read) ((c :: rest).drop quotes)
        else
          let inside := min (quotes - 3) 2
          .ok (String.ofList (List.replicate inside quote ++ read).reverse,
            (c :: rest).drop (inside + 3))
      else if c == '\\' && quote == '"' then
        match afterBreak? (rest.dropWhile isBlank) with
        | some after => linesString quote fuel read (skipBlankLines (fuel + 1) after)
        | none =>
            match escaped rest with
            | .ok (c, rest) => linesString quote fuel (c :: read) rest
            | .error stop => .error stop
      else match afterBreak? (c :: rest) with
        | some after => linesString quote fuel ('\n' :: read) after
        | none =>
            if isPrintable c then linesString quote fuel (c :: read) rest
            else .error (.controlCharacter, c :: rest)

/-- A string, given its quote and what follows that, which is shorter than `bound`. A line end
after three quotes does not count. -/
def readString (bound : Nat) (quote : Char) (cs : List Char) : Step String :=
  match Text.dropStart? [quote, quote] cs with
  | some rest => linesString quote bound [] ((afterBreak? rest).getD rest)
  | none => lineString quote bound [] cs

def digits? (isDigit : Char → Bool) (cs : List Char) : Option (List Char) :=
  let pieces := Text.split '_' cs
  if pieces.all fun piece => !piece.isEmpty && piece.all isDigit then some pieces.flatten
  else none

/-- The digits of a decimal number, which has no leading zero. -/
def decimalDigits? (cs : List Char) : Option (List Char) :=
  (digits? Char.isDigit cs).filter fun digits => digits.length == 1 || digits.head? != some '0'

def splitSign : List Char → Bool × List Char
  | '-' :: rest => (true, rest)
  | '+' :: rest => (false, rest)
  | cs => (false, cs)

def integer? (word : List Char) : Option Int :=
  let inBase (base : Nat) (isDigit : Char → Bool) (cs : List Char) : Option Int :=
    (digits? isDigit cs).bind fun digits =>
      let n := digits.foldl (fun n c => n * base + (Json.hexValue? c).getD 0) 0
      if n < Nat.pow 2 63 then some (n : Int) else none
  match word with
  | '0' :: 'x' :: cs => inBase 16 (fun c => (Json.hexValue? c).isSome) cs
  | '0' :: 'o' :: cs => inBase 8 (fun c => '0' ≤ c && c ≤ '7') cs
  | '0' :: 'b' :: cs => inBase 2 (fun c => c == '0' || c == '1') cs
  | _ =>
      let (negative, cs) := splitSign word
      (decimalDigits? cs).bind fun digits =>
        let n := Json.decimalValue digits
        if negative then if n ≤ Nat.pow 2 63 then some (-(n : Int)) else none
        else if n < Nat.pow 2 63 then some (n : Int) else none

def exponent? : List Char → Option Int
  | [] => some 0
  | _ :: rest =>
      let (negative, cs) := splitSign rest
      (digits? Char.isDigit cs).map fun digits =>
        let n : Int := Json.decimalValue digits
        if negative then -n else n

/-- The value of a word that writes a number with a fraction or an exponent. Infinite values and
what is no number have no place in a value and stand for nothing. -/
def float? (word : List Char) : Option Json :=
  let (negative, cs) := splitSign word
  if cs == "inf".toList || cs == "nan".toList then some .null
  else
    let isExponentMark (c : Char) : Bool := c == 'e' || c == 'E'
    let (mantissa, scale) := cs.span (!isExponentMark ·)
    let (whole, fraction) := match Text.splitOnce? '.' mantissa with
      | some (whole, fraction) => (whole, some fraction)
      | none => (mantissa, none)
    if fraction.isNone && scale.isEmpty then none
    else do
      let whole ← decimalDigits? whole
      let fraction ← match fraction with
        | some cs => digits? Char.isDigit cs
        | none => some []
      let exponent ← exponent? scale
      match Double.ofDecimal negative (Json.decimalValue (whole ++ fraction))
          (exponent - fraction.length) with
      | some d => some (.number (.double d))
      | none => if negative then some .null else none

def fixedDigits? (count : Nat) (cs : List Char) : Option Nat :=
  if cs.length == count && cs.all Char.isDigit then some (Json.decimalValue cs) else none

def daysIn (year month : Nat) : Nat :=
  if month == 2 then
    if year % 4 == 0 && (year % 100 != 0 || year % 400 == 0) then 29 else 28
  else if month == 4 || month == 6 || month == 9 || month == 11 then 30
  else 31

def isDate (word : List Char) : Bool :=
  match Text.split '-' word with
  | [year, month, day] =>
      match fixedDigits? 4 year, fixedDigits? 2 month, fixedDigits? 2 day with
      | some year, some month, some day =>
          1 ≤ month && month ≤ 12 && 1 ≤ day && day ≤ daysIn year month
      | _, _, _ => false
  | _ => false

/-- The text of a time of day: a fraction of a second keeps nine digits and no zeros at its
end. -/
def clock? (word : List Char) : Option String := do
  let (whole, fraction) := match Text.splitOnce? '.' word with
    | some (whole, fraction) => (whole, some fraction)
    | none => (word, none)
  match Text.split ':' whole with
  | [hour, minute, second] =>
      let h ← fixedDigits? 2 hour
      let m ← fixedDigits? 2 minute
      let s ← fixedDigits? 2 second
      if 23 < h || 59 < m || 60 < s then none
      match fraction with
      | none => return String.ofList whole
      | some digits =>
          if digits.isEmpty || !digits.all Char.isDigit then none
          let kept := ((digits.take 9).reverse.dropWhile (· == '0')).reverse
          return String.ofList (if kept.isEmpty then whole else whole ++ '.' :: kept)
  | _ => none

def offset? (word : List Char) : Option String :=
  match word with
  | [] => some ""
  | [c] => if c == 'Z' || c == 'z' then some "Z" else none
  | sign :: rest =>
      match Text.split ':' rest with
      | [hour, minute] =>
          match fixedDigits? 2 hour, fixedDigits? 2 minute with
          | some h, some m =>
              if (sign == '+' || sign == '-') && h ≤ 23 && m ≤ 59 then
                let sign := if h == 0 && m == 0 then '+' else sign
                some (String.ofList (sign :: rest))
              else none
          | _, _ => none
      | _ => none

def zoned? (word : List Char) : Option String :=
  let isSign (c : Char) : Bool := c == 'Z' || c == 'z' || c == '+' || c == '-'
  let (clock, zone) := word.span (!isSign ·)
  match clock? clock, offset? zone with
  | some clock, some zone => some (clock ++ zone)
  | _, _ => none

def time? (word : List Char) : Option String :=
  if isDate word then some (String.ofList word)
  else
    let date := word.take 10
    match word.drop 10 with
    | mark :: clock =>
        if isDate date && (mark == 'T' || mark == 't' || mark == ' ') then
          (zoned? clock).map fun clock => String.ofList date ++ "T" ++ clock
        else clock? word
    | [] => clock? word

/-- The key of the only member of the object that a time becomes. -/
def timeKey : String := "$__toml_private_datetime"

def wordValue (word : List Char) : Option Json :=
  if word == "true".toList then some (.bool true)
  else if word == "false".toList then some (.bool false)
  else match time? word, integer? word with
    | some text, _ => some (.object [(timeKey, .string text)])
    | none, some n => some (.number (.integer n))
    | none, none => float? word

def isWordChar (c : Char) : Bool :=
  c.isAlphanum || "_+-.:".toList.contains c

/-- Reads a flag, a number or a time. A date may be followed by a space and a time of day. -/
def readWord (cs : List Char) : Step Json :=
  let (word, rest) := cs.span isWordChar
  let (word, rest) := match rest with
    | ' ' :: clock =>
        if isDate word && clock.head?.any Char.isDigit then
          (word ++ ' ' :: clock.takeWhile isWordChar, clock.dropWhile isWordChar)
        else (word, rest)
    | _ => (word, rest)
  if word.isEmpty then unexpected cs
  else match wordValue word with
    | some value => .ok (value, rest)
    | none => .error (.badNumber, rest)

end ClientGen.Toml
