import TunerRelay.Decimal.Single
import TunerRelay.Text.Numeral

/-!
Decimal text read as a single precision number: an optional sign, then digits with an optional
point and an optional exponent, or one of the words `inf`, `infinity` and `nan` in any case.
-/

namespace TunerRelay.Decimal

open TunerRelay.Text (digitValue decimalValue)

/-- A decimal numeral: its digits without the point, and the power of ten that scales them. -/
structure Numeral where
  digits : List Char
  scale : Int
deriving DecidableEq, Repr

/-- The run of digits at the front, and what follows it. -/
def spanDigits (text : List Char) : List Char × List Char :=
  (text.takeWhile Char.isDigit, text.dropWhile Char.isDigit)

/-- The digits after a point, and what follows them. Without a point there are none. -/
def spanFraction : List Char → List Char × List Char
  | '.' :: rest => spanDigits rest
  | text => ([], text)

/-- A signed run of one or more digits that ends the text. -/
def wholeExponent? (text : List Char) : Option Int :=
  let (negative, digits) := match text with
    | '-' :: rest => (true, rest)
    | '+' :: rest => (false, rest)
    | text => (false, text)
  (Text.natural? digits).map fun n => if negative then -(n : Int) else n

def exponent? : List Char → Option Int
  | [] => some 0
  | 'e' :: rest => wholeExponent? rest
  | 'E' :: rest => wholeExponent? rest
  | _ => none

/-- At least one digit has to stand before or after the point. -/
def Numeral.ofText? (text : List Char) : Option Numeral :=
  let (whole, rest) := spanDigits text
  let (fraction, rest) := spanFraction rest
  if whole.isEmpty && fraction.isEmpty then none
  else
    (exponent? rest).map fun exponent =>
      { digits := whole ++ fraction, scale := exponent - fraction.length }

/-- A number from this power of ten on is beyond every finite single precision number. -/
def overflowPower : Int := 40

/-- A number below this power of ten is nearer to zero than to the least positive number. -/
def underflowPower : Int := -50

/-- The nearest number. Numerals of extreme scale are settled by their number of digits, without
computing the power. -/
def Numeral.toSingle (negative : Bool) (numeral : Numeral) : Single :=
  let significant := numeral.digits.dropWhile (· == '0')
  let power := significant.length + numeral.scale
  if significant.isEmpty then .finite negative 0 Single.minExponent
  else if overflowPower < power then .infinite negative
  else if power < underflowPower then .finite negative 0 Single.minExponent
  else
    Single.ofRatio negative (decimalValue significant * Nat.pow 10 numeral.scale.toNat)
      (Nat.pow 10 (-numeral.scale).toNat)

def readUnsigned? (negative : Bool) (text : List Char) : Option Single :=
  let lower := text.map Char.toLower
  if lower = "inf".toList ∨ lower = "infinity".toList then some (.infinite negative)
  else if lower = "nan".toList then some .nan
  else (Numeral.ofText? text).map (Numeral.toSingle negative)

def Single.ofText? : List Char → Option Single
  | '-' :: rest => readUnsigned? true rest
  | '+' :: rest => readUnsigned? false rest
  | text => readUnsigned? false text

end TunerRelay.Decimal
