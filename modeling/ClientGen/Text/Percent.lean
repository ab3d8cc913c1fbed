import ClientGen.Text.Utf8

/-!
# Percent encoding

Bytes written as a percent sign and two digits in base sixteen.
-/

namespace ClientGen.Text

def hexPair? (a b : Char) : Option Nat :=
  let digit (c : Char) : Option Nat :=
    if c.isDigit then some (c.toNat - '0'.toNat)
    else if 'a' ≤ c.toLower ∧ c.toLower ≤ 'f' then some (c.toLower.toNat - 'a'.toNat + 10)
    else none
  match digit a, digit b with
  | some a, some b => some (a * 16 + b)
  | _, _ => none

/-- The bytes of a text in which some are written as a percent sign and two digits; `skip` counts
digits that belong to a byte already read. -/
def percentBytes : Nat → List Char → List UInt8
  | _, [] => []
  | skip + 1, _ :: rest => percentBytes skip rest
  | 0, c :: rest =>
      match c, rest with
      | '%', a :: b :: _ =>
          match hexPair? a b with
          | some n => UInt8.ofNat n :: percentBytes 2 rest
          | none => c.toString.toUTF8.toList ++ percentBytes 0 rest
      | _, _ => c.toString.toUTF8.toList ++ percentBytes 0 rest

/-- The text with its escaped bytes written out, unless they are no text. -/
def percentDecode? (cs : List Char) : Option (List Char) :=
  (String.fromUTF8? (ByteArray.mk (percentBytes 0 cs).toArray)).map String.toList

/-- The text with its escaped bytes written out. Bytes that are no text become replacement
characters. -/
def percentDecoded (cs : List Char) : List Char :=
  Utf8.read (percentBytes 0 cs)

def hasPercentPairs : List Char → Bool
  | [] => true
  | '%' :: rest =>
      (match rest with
        | a :: b :: _ => (hexPair? a b).isSome
        | _ => false) && hasPercentPairs rest
  | _ :: rest => hasPercentPairs rest

end ClientGen.Text
