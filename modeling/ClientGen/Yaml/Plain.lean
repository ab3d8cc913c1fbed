import ClientGen.Json.Reader
import ClientGen.Text.Replace

/-!
# Values of YAML scalars

What a scalar stands for: nothing, a flag, a number or a text. A plain scalar is tried in this
order; a quoted one is a text; a tag decides otherwise. Whole numbers that do not fit 64 bits are
refused up to 128 bits and are doubles beyond, and digits after a leading zero are no number.
-/

namespace ClientGen.Yaml

open Text (ReadFault)

def isNull (text : String) : Bool :=
  text == "null" || text == "Null" || text == "NULL" || text == "~"

def flag? (text : String) : Option Bool :=
  if text == "true" || text == "True" || text == "TRUE" then some true
  else if text == "false" || text == "False" || text == "FALSE" then some false
  else none

def digitIn? (base : Nat) (c : Char) : Option Nat :=
  (Json.hexValue? c).filter (· < base)

def digitsIn? (base : Nat) (cs : List Char) : Option Nat :=
  if cs.isEmpty then none
  else cs.foldl (fun value c => value.bind fun n => (digitIn? base c).map (n * base + ·)) (some 0)

/-- The base that a text announces, and its digits. -/
def announced? : List Char → Option (Nat × List Char)
  | '0' :: 'x' :: digits => some (16, digits)
  | '0' :: 'o' :: digits => some (8, digits)
  | '0' :: 'b' :: digits => some (2, digits)
  | _ => none

def natural? (cs : List Char) : Option Nat :=
  match announced? cs with
  | some (base, digits) => digitsIn? base digits
  | none => digitsIn? 10 cs

/-- Whether a text is digits after a leading zero, with a sign or without. -/
def isZeroPadded (cs : List Char) : Bool :=
  let digits := match cs with
    | c :: rest => if c == '-' || c == '+' then rest else cs
    | [] => []
  1 < digits.length && digits.head? == some '0' && digits.all Char.isDigit

def whole? (cs : List Char) : Option (Bool × Nat) :=
  if isZeroPadded cs then none
  else match cs with
    | '-' :: rest => (natural? rest).map fun n => (true, n)
    | '+' :: rest => (natural? rest).map fun n => (false, n)
    | cs => (natural? cs).map fun n => (false, n)

def exponent? : List Char → Option Int
  | [] => some 0
  | e :: rest =>
      if e == 'e' || e == 'E' then
        match rest with
        | '-' :: digits => (digitsIn? 10 digits).map fun n => -(n : Int)
        | '+' :: digits => (digitsIn? 10 digits).map fun n => (n : Int)
        | digits => (digitsIn? 10 digits).map fun n => (n : Int)
      else none

def decimal? (negative : Bool) (cs : List Char) : Option Double :=
  let (whole, rest) := cs.span Char.isDigit
  let (fraction, rest) := match rest with
    | '.' :: rest => rest.span Char.isDigit
    | rest => ([], rest)
  let digits := whole ++ fraction
  if digits.isEmpty then none
  else (exponent? rest).bind fun exponent =>
    Double.ofDecimal negative (Json.decimalValue digits) (exponent - fraction.length)

/-- The value of a text that writes a double. Infinite values and what is no number have no place
in the value of a document and stand for nothing. -/
def double? (text : String) : Option Json :=
  let unsigned := (Text.dropStart? ['+'] text.toList).getD text.toList
  let isInfinite (cs : List Char) : Bool :=
    [".inf", ".Inf", ".INF"].any fun word => word.toList == cs
  if isInfinite unsigned then some .null
  else match text.toList with
    | '+' :: '-' :: _ => none
    | '-' :: rest =>
        if isInfinite rest then some .null
        else (decimal? true rest).map fun d => .number (.double d)
    | _ =>
        if text == ".nan" || text == ".NaN" || text == ".NAN" then some .null
        else (decimal? false unsigned).map fun d => .number (.double d)

/-- The value of a whole number, or the fault that it is too large; none beyond 128 bits. -/
def wholeValue? (negative : Bool) (n : Nat) : Option (Except ReadFault Json) :=
  let limit := if negative then Nat.pow 2 63 + 1 else Nat.pow 2 64
  if n < limit then some (.ok (.number (.integer (if negative then -n else n))))
  else if n < (if negative then Nat.pow 2 127 + 1 else Nat.pow 2 128) then
    some (.error .numberTooLarge)
  else none

def wholeText? (text : String) : Option (Except ReadFault Json) :=
  (whole? text.toList).bind fun (negative, n) => wholeValue? negative n

def plainValue (text : String) : Except ReadFault Json :=
  if text.isEmpty || isNull text then .ok .null
  else match flag? text, wholeText? text with
    | some b, _ => .ok (.bool b)
    | none, some value => value
    | none, none =>
        if isZeroPadded text.toList then .ok (.string text)
        else .ok ((double? text).getD (.string text))

def orBadTag (value : Option Json) : Except ReadFault Json :=
  match value with
  | some value => .ok value
  | none => .error .badTag

def standardTag : String := "tag:yaml.org,2002:"

/-- Whether a tag has a meaning only its document knows. -/
def isLocalTag (tag : Option String) : Bool :=
  tag.any fun tag => tag.toList.head? == some '!'

/-- The value of a scalar. A tag that only its document knows is refused. -/
def scalarValue (tag : Option String) (isPlain : Bool) (text : String) : Except ReadFault Json :=
  match tag with
  | none => if isPlain then plainValue text else .ok (.string text)
  | some name =>
      if isLocalTag tag then .error .badTag
      else if name == standardTag ++ "bool" then orBadTag ((flag? text).map .bool)
      else if name == standardTag ++ "int" then (wholeText? text).getD (.error .badTag)
      else if name == standardTag ++ "float" then orBadTag (double? text)
      else if name == standardTag ++ "null" then orBadTag (if isNull text then some .null else none)
      else .ok (.string text)

end ClientGen.Yaml
