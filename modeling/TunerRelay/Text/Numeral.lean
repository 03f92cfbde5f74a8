/-!
Decimal integers as text: an optional sign, then one or more ASCII digits. A minus is a sign only
where negative numbers are; a plus is one everywhere.
-/

namespace TunerRelay.Text

def digitValue (c : Char) : Nat := c.toNat - '0'.toNat

/-- The number that a run of decimal digits spells. -/
def decimalValue (digits : List Char) : Nat :=
  digits.foldl (fun value c => 10 * value + digitValue c) 0

def natural? (text : List Char) : Option Nat :=
  if text ≠ [] ∧ text.all Char.isDigit then some (decimalValue text) else none

/-- A numeral with an optional plus, below `2 ^ bits`. -/
def unsigned? (bits : Nat) (text : List Char) : Option Nat :=
  let digits := match text with
    | '+' :: rest => rest
    | text => text
  (natural? digits).filter (· < Nat.pow 2 bits)

/-- A numeral with an optional sign that fits 32 bits in two's complement. -/
def int32? (text : List Char) : Option Int32 :=
  let value? : Option Int := match text with
    | '-' :: rest => (natural? rest).map fun n => -(n : Int)
    | '+' :: rest => (natural? rest).map fun n => (n : Int)
    | text => (natural? text).map fun n => (n : Int)
  (value?.filter fun n => Int32.minValue.toInt ≤ n ∧ n ≤ Int32.maxValue.toInt).map Int32.ofInt

def uint16? (text : List Char) : Option UInt16 := (unsigned? 16 text).map UInt16.ofNat

def uint32? (text : List Char) : Option UInt32 := (unsigned? 32 text).map UInt32.ofNat

def uint64? (text : List Char) : Option UInt64 := (unsigned? 64 text).map UInt64.ofNat

end TunerRelay.Text
