/-!
# Doubles

A finite binary number of 64 bits, kept as its bits and read as `mantissa · 2 ^ exponent`.
`Double.nearest` rounds a quotient of natural numbers to the nearest such number, a tie going to
the even mantissa, in exact arithmetic.
-/

namespace ClientGen

/-- A finite double in its interchange format: sign, eleven bits of exponent, 52 bits of
fraction. -/
structure Double where
  bits : UInt64
  deriving DecidableEq, Repr, Inhabited

namespace Double

/-- Whether the sign bit is set; it is for `-0.0` too. -/
def isNegative (d : Double) : Bool :=
  d.bits.toNat / Nat.pow 2 63 = 1

def magnitude (d : Double) : Nat :=
  d.bits.toNat % Nat.pow 2 63

def mantissa (d : Double) : Nat :=
  if d.magnitude < Nat.pow 2 52 then d.magnitude else d.magnitude % Nat.pow 2 52 + Nat.pow 2 52

/-- How far the exponent lies above the least one, which is `-1074`. -/
def scale (d : Double) : Nat :=
  if d.magnitude < Nat.pow 2 52 then 0 else d.magnitude / Nat.pow 2 52 - 1

def ratio (d : Double) : Nat × Nat :=
  (d.mantissa * Nat.pow 2 d.scale, Nat.pow 2 1074)

/-- The quotient rounded to a whole number, a tie going to the even one. -/
def roundDiv (num den : Nat) : Nat :=
  let q := num / den
  let r := num % den
  if den < 2 * r || (2 * r == den && q % 2 == 1) then q + 1 else q

/-- `2 ^ (k - 1074)` is the unit of a mantissa of 53 bits for the quotient, or the least unit if
that one is larger. -/
def unitScale (num den : Nat) : Nat :=
  let k := num.log2 + 1074 - (den.log2 + 53)
  if num * Nat.pow 2 1074 < den * Nat.pow 2 (k + 53) then k else k + 1

/-- The double with the given sign nearest to a quotient; none when it is too large. -/
def nearest (negative : Bool) (num den : Nat) : Option Double :=
  let k := if num = 0 then 0 else unitScale num den
  let magnitude := k * Nat.pow 2 52 + roundDiv (num * Nat.pow 2 1074) (den * Nat.pow 2 k)
  if magnitude < 2047 * Nat.pow 2 52 then
    some ⟨UInt64.ofNat (magnitude + if negative then Nat.pow 2 63 else 0)⟩
  else none

def zero (negative : Bool) : Double :=
  ⟨if negative then 0x8000000000000000 else 0⟩

def withSign (negative : Bool) (d : Double) : Double :=
  ⟨UInt64.ofNat (d.magnitude + if negative then Nat.pow 2 63 else 0)⟩

/-- The double nearest to `digits · 10 ^ exponent`; none when it is too large. Exponents far
outside the range of doubles are settled by the number of digits alone. -/
def ofDecimal (negative : Bool) (digits : Nat) (exponent : Int) : Option Double :=
  if digits = 0 then some (zero negative)
  else
    let size : Int := (Nat.toDigits 10 digits).length + exponent
    if 310 < size then none
    else if size < -330 then some (zero negative)
    else if 0 ≤ exponent then nearest negative (digits * Nat.pow 10 exponent.toNat) 1
    else nearest negative digits (Nat.pow 10 (-exponent).toNat)

def times (a b : Double) : Option Double :=
  nearest false (a.ratio.1 * b.ratio.1) (a.ratio.2 * b.ratio.2)

def dividedBy (a b : Double) : Option Double :=
  nearest false (a.ratio.1 * b.ratio.2) (a.ratio.2 * b.ratio.1)

/-- Brings a double down by the largest power of ten until the exponent is at least `-308`; three
steps bring every 64-bit significand to zero. -/
def lower : Nat → Double → Int → Option (Double × Int)
  | 0, d, e => some (d, e)
  | steps + 1, d, e =>
      if e < -308 then do lower steps (← d.dividedBy (← nearest false (Nat.pow 10 308) 1)) (e + 308)
      else some (d, e)

/-- A significand of at most 64 bits scaled by a power of ten, rounding the significand, the power
and their product or quotient in turn; none when the result is too large. -/
def scaled (negative : Bool) (significand : Nat) (exponent : Int) : Option Double := do
  if significand = 0 then return zero negative
  if 308 < exponent then none
  let (d, e) ← lower 3 (← nearest false significand 1) exponent
  if e < -308 then return zero negative
  let power ← nearest false (Nat.pow 10 e.natAbs) 1
  let d ← if 0 ≤ e then d.times power else d.dividedBy power
  return d.withSign negative

def ofNat? (negative : Bool) (n : Nat) : Option Double :=
  ofDecimal negative n 0

example : nearest false 1 1 = some ⟨0x3FF0000000000000⟩ := by decide +kernel
example : nearest true 1 10 = some ⟨0xBFB999999999999A⟩ := by decide +kernel
example : ofDecimal false 5 (-324) = some ⟨1⟩ := by decide +kernel
example : ofDecimal false 1 309 = none := by decide +kernel

end Double

end ClientGen
