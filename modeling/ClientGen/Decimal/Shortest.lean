import ClientGen.Decimal.Double

/-!
# Shortest decimals

The decimal with the fewest digits that rounds to a given double, and of those the one nearest to
it. The reals that round to `m · 2 ^ q` form an interval around it, ends included exactly when `m`
is even. If a point of a decimal grid lies in the interval, so does one of the two grid points
next to the double, so it is enough to try these two on coarser grids first.
-/

namespace ClientGen.Double

structure Shortest where
  digits : Nat
  exponent : Int
  deriving DecidableEq, Repr

/-- The reals that round to one double, over a common denominator. -/
structure RoundingInterval where
  low : Nat
  value : Nat
  high : Nat
  den : Nat
  closed : Bool
  deriving DecidableEq, Repr

/-- The interval of a double other than zero. Below a power of two the doubles lie twice as
close. -/
def interval (d : Double) : RoundingInterval :=
  let m := d.mantissa
  let unit := Nat.pow 2 d.scale
  let below := if m = Nat.pow 2 52 && d.scale ≠ 0 then 1 else 2
  { low := (4 * m - below) * unit
    value := 4 * m * unit
    high := (4 * m + 2) * unit
    den := 4 * Nat.pow 2 1074
    closed := m % 2 = 0 }

def RoundingInterval.holds (i : RoundingInterval) (digits : Nat) (exponent : Int) : Bool :=
  let num := digits * Nat.pow 10 exponent.toNat * i.den
  let scale := Nat.pow 10 (-exponent).toNat
  if i.closed then i.low * scale ≤ num && num ≤ i.high * scale
  else i.low * scale < num && num < i.high * scale

/-- The least `k` with `value < 10 ^ k`, sought from above: `k` counts down while the value stays
below. -/
def decimalSize (num den : Nat) : Nat → Int → Int
  | 0, k => k
  | fuel + 1, k =>
      if num * Nat.pow 10 (-(k - 1)).toNat < den * Nat.pow 10 (k - 1).toNat then
        decimalSize num den fuel (k - 1)
      else k

/-- The grid point next to the value that lies in the interval, of two the nearer, and of two
equally near the even one. -/
def RoundingInterval.onGrid? (i : RoundingInterval) (exponent : Int) : Option Nat :=
  let num := i.value * Nat.pow 10 (-exponent).toNat
  let den := i.den * Nat.pow 10 exponent.toNat
  let floor := num / den
  let rest := num % den
  match i.holds floor exponent, i.holds (floor + 1) exponent with
  | true, true =>
      some (if 2 * rest < den || (2 * rest == den && floor % 2 == 0) then floor else floor + 1)
  | true, false => some floor
  | false, true => some (floor + 1)
  | false, false => none

/-- Tries grids of more and more digits; seventeen digits always suffice. -/
def shortestFrom (i : RoundingInterval) (size : Int) : Nat → Nat → Shortest
  | 0, count =>
      ⟨i.value * Nat.pow 10 (count - size).toNat / (i.den * Nat.pow 10 (size - count).toNat),
        size - count⟩
  | fuel + 1, count =>
      match i.onGrid? (size - count) with
      | some digits => ⟨digits, size - count⟩
      | none => shortestFrom i size fuel (count + 1)

def shortest (d : Double) : Shortest :=
  if d.mantissa = 0 then ⟨0, 0⟩
  else
    let i := d.interval
    shortestFrom i (decimalSize i.value i.den 700 310) 17 1

/-- How a double is written. -/
structure Layout where
  /-- The least exponent of the first digit that is still written without an exponent. -/
  least : Int
  /-- The first exponent of the first digit that is written with an exponent. -/
  bound : Int

def zeros (count : Nat) : String :=
  String.ofList (List.replicate count '0')

/-- Writes a decimal: positional with at least one place after the point when the exponent of the
first digit lies in the layout's range, otherwise with a signed exponent. -/
def Layout.write (layout : Layout) (negative : Bool) (s : Shortest) : String :=
  let digits := Nat.toDigits 10 s.digits
  let first : Int := s.exponent + digits.length - 1
  let kept := (digits.reverse.dropWhile (· == '0')).reverse
  let kept := if kept.isEmpty then ['0'] else kept
  let sign := if negative then "-" else ""
  if s.digits = 0 then sign ++ "0.0"
  else if layout.least ≤ first && first < layout.bound then
    if first < 0 then
      sign ++ "0." ++ zeros (-first - 1).toNat ++ String.ofList kept
    else
      let whole := first.toNat + 1
      let fraction := kept.drop whole
      sign ++ String.ofList (kept.take whole) ++ zeros (whole - kept.length) ++ "." ++
        (if fraction.isEmpty then "0" else String.ofList fraction)
  else
    let fraction := kept.drop 1
    sign ++ String.ofList (kept.take 1) ++
      (if fraction.isEmpty then "" else "." ++ String.ofList fraction) ++
      "e" ++ (if first < 0 then "-" else "+") ++ toString first.natAbs

def text (layout : Layout) (d : Double) : String :=
  layout.write d.isNegative d.shortest

end ClientGen.Double
