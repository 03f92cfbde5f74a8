/-!
Single precision numbers, in exact integer arithmetic. A finite number is `m * 2 ^ e` with a
significand below `2 ^ 24`; every operation rounds the exact result to the nearest such number, a
tie to the even significand.
-/

namespace TunerRelay.Decimal

inductive Single where
  | nan
  | infinite (negative : Bool)
  | finite (negative : Bool) (significand : Nat) (exponent : Int)
deriving DecidableEq, Repr

namespace Single

/-- Bits of a significand. -/
def precision : Nat := 24

/-- The least exponent, that of the subnormal numbers. -/
def minExponent : Int := -149

/-- The greatest exponent. -/
def maxExponent : Int := 104

/-- The quotient rounded to the nearest integer, a tie to the even one. -/
def divNearestEven (numerator denominator : Nat) : Nat :=
  let quotient := numerator / denominator
  let twice := 2 * (numerator % denominator)
  if twice < denominator then quotient
  else if denominator < twice then quotient + 1
  else if quotient % 2 = 0 then quotient
  else quotient + 1

/-- The quotient rounded to the nearest integer, a tie upwards. -/
def divNearestUp (numerator denominator : Nat) : Nat :=
  (2 * numerator + denominator) / (2 * denominator)

/-- `2 ^ e` as a fraction. -/
def powerOfTwo (exponent : Int) : Nat × Nat :=
  (Nat.pow 2 exponent.toNat, Nat.pow 2 (-exponent).toNat)

/-- The greatest `e` with `2 ^ e ≤ numerator / denominator`, for a positive fraction. -/
def floorLog2 (numerator denominator : Nat) : Int :=
  let guess : Int := (numerator.log2 : Int) - denominator.log2
  let (up, down) := powerOfTwo guess
  if up * denominator ≤ numerator * down then guess else guess - 1

/-- The number nearest to a fraction; from half a step above the greatest one on, an infinity. -/
def ofRatio (negative : Bool) (numerator denominator : Nat) : Single :=
  if numerator = 0 then finite negative 0 minExponent
  else
    let exponent := max minExponent (floorLog2 numerator denominator - (precision - 1 : Nat))
    let (up, down) := powerOfTwo exponent
    let significand := divNearestEven (numerator * down) (denominator * up)
    let (significand, exponent) :=
      if significand = Nat.pow 2 precision then (Nat.pow 2 (precision - 1), exponent + 1)
      else (significand, exponent)
    if maxExponent < exponent then infinite negative
    else finite negative significand exponent

def ofInt (n : Int) : Single := ofRatio (n < 0) n.natAbs 1

/-- The magnitude of a finite number as a fraction. -/
def magnitude (significand : Nat) (exponent : Int) : Nat × Nat :=
  let (up, down) := powerOfTwo exponent
  (significand * up, down)

def timesTen : Single → Single
  | nan => nan
  | infinite negative => infinite negative
  | finite negative significand exponent =>
    let (numerator, denominator) := magnitude significand exponent
    ofRatio negative (10 * numerator) denominator

def overTen : Single → Single
  | nan => nan
  | infinite negative => infinite negative
  | finite negative significand exponent =>
    let (numerator, denominator) := magnitude significand exponent
    ofRatio negative numerator (10 * denominator)

/-- The nearest 32-bit integer: halves go away from zero, what is too large goes to the end of the
range, and what is no number to zero. -/
def toInt32 : Single → Int32
  | nan => 0
  | infinite true => Int32.minValue
  | infinite false => Int32.maxValue
  | finite negative significand exponent =>
    let (numerator, denominator) := magnitude significand exponent
    let rounded : Int := divNearestUp numerator denominator
    let value := if negative then -rounded else rounded
    Int32.ofInt (max Int32.minValue.toInt (min Int32.maxValue.toInt value))

end Single

end TunerRelay.Decimal
