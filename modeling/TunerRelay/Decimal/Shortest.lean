import TunerRelay.Decimal.Single

/-!
A single precision number as decimal text: with the fewest digits that read back as the same number,
always positional, or with one place after the point.
-/

namespace TunerRelay.Decimal

/-- The digits of a decimal fraction and the power of ten that scales them. -/
structure Digits where
  value : Nat
  power : Int
deriving DecidableEq, Repr

/-- `10 ^ p` as a fraction. -/
def powerOfTen (power : Int) : Nat × Nat :=
  (Nat.pow 10 power.toNat, Nat.pow 10 (-power).toNat)

/-- The decimals that read back as a number, as an interval of fractions over one denominator. The
ends belong to it exactly when the significand is even. -/
structure ReadsBack where
  low : Nat
  center : Nat
  high : Nat
  denominator : Nat
  closed : Bool
deriving DecidableEq, Repr

/-- Half a step each way; downwards a quarter, where the steps below are half as long. -/
def ReadsBack.of (significand : Nat) (exponent : Int) : ReadsBack :=
  let (up, down) := Single.powerOfTwo exponent
  let below :=
    if significand = Nat.pow 2 (Single.precision - 1) ∧ Single.minExponent < exponent then 1 else 2
  { low := (4 * significand - below) * up
    center := 4 * significand * up
    high := (4 * significand + 2) * up
    denominator := 4 * down
    closed := significand % 2 = 0 }

def ReadsBack.contains (interval : ReadsBack) (digits : Digits) : Bool :=
  let (up, down) := powerOfTen digits.power
  let value := digits.value * up * interval.denominator
  if interval.closed then interval.low * down ≤ value && value ≤ interval.high * down
  else interval.low * down < value && value < interval.high * down

/-- The two neighbours of the center on a decimal grid, the nearer one first; of two equally near
ones, the upper one. -/
def ReadsBack.neighbours (interval : ReadsBack) (power : Int) : List Digits :=
  let (up, down) := powerOfTen power
  let numerator := interval.center * down
  let denominator := interval.denominator * up
  let lower : Digits := { value := numerator / denominator, power }
  let upper : Digits := { value := numerator / denominator + 1, power }
  if 2 * (numerator % denominator) < denominator then [lower, upper] else [upper, lower]

/-- The first hit on ever finer grids. -/
def ReadsBack.search (interval : ReadsBack) : Nat → Int → Option Digits
  | 0, _ => none
  | grids + 1, power =>
    match (interval.neighbours power).find? interval.contains with
    | some digits => some digits
    | none => interval.search grids (power - 1)

/-- Single precision numbers are below `10 ^ 39`, and no grid finer than `10 ^ -54` is needed. -/
def coarsestPower : Int := 39

def gridCount : Nat := 94

/-- Digits with the point put `places` places from the right. -/
def pointed (digits : List Char) (places : Nat) : List Char :=
  let padded := List.replicate (places + 1 - digits.length) '0' ++ digits
  padded.take (padded.length - places) ++ '.' :: padded.drop (padded.length - places)

def Digits.toText (digits : Digits) : List Char :=
  let shown := Nat.toDigits 10 digits.value
  if 0 ≤ digits.power then shown ++ List.replicate digits.power.toNat '0'
  else pointed shown (-digits.power).toNat

def signText (negative : Bool) : List Char := if negative then ['-'] else []

/-- The fewest digits that read back as the number; of several such decimals the nearest. A whole
number has no point. -/
def Single.shortest : Single → List Char
  | .nan => "NaN".toList
  | .infinite negative => signText negative ++ "inf".toList
  | .finite negative 0 _ => signText negative ++ ['0']
  | .finite negative significand exponent =>
    let interval := ReadsBack.of significand exponent
    match interval.search gridCount coarsestPower with
    | some digits => signText negative ++ digits.toText
    | none => []

/-- One place after the point; a half goes to the even neighbour. -/
def Single.oneDecimal : Single → List Char
  | .nan => "NaN".toList
  | .infinite negative => signText negative ++ "inf".toList
  | .finite negative significand exponent =>
    let (numerator, denominator) := Single.magnitude significand exponent
    let tenths := Single.divNearestEven (10 * numerator) denominator
    signText negative ++ pointed (Nat.toDigits 10 tenths) 1

end TunerRelay.Decimal
