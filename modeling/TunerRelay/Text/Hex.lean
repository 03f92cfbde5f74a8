import TunerRelay.Text.Numeral

/-!
Hexadecimal digits, in either case, and bytes as pairs of them. Bytes are written in lower case and
read back as they were.
-/

namespace TunerRelay.Text

def hexDigit? (c : Char) : Option Nat :=
  if c.isDigit then some (digitValue c)
  else if 'a' ≤ c ∧ c ≤ 'f' then some (c.toNat - 'a'.toNat + 10)
  else if 'A' ≤ c ∧ c ≤ 'F' then some (c.toNat - 'A'.toNat + 10)
  else none

/-- The number that hexadecimal digits spell. -/
def hexValue? (digits : List Char) : Option Nat :=
  digits.foldl (fun value? c => do return 16 * (← value?) + (← hexDigit? c)) (some 0)

/-- The digits of a byte, high half first. -/
def hexPair (byte : UInt8) : List Char :=
  [Nat.digitChar (byte.toNat / 16), Nat.digitChar (byte.toNat % 16)]

def hexOfBytes (bytes : List UInt8) : List Char := bytes.flatMap hexPair

def bytesOfHex? : List Char → Option (List UInt8)
  | [] => some []
  | high :: low :: rest => do
    let value ← hexValue? [high, low]
    return UInt8.ofNat value :: (← bytesOfHex? rest)
  | [_] => none

theorem hexDigit?_digitChar : ∀ n < 16, hexDigit? n.digitChar = some n := by decide

theorem hexValue?_hexPair (byte : UInt8) : hexValue? (hexPair byte) = some byte.toNat := by
  have high := hexDigit?_digitChar (byte.toNat / 16) (by have := byte.toNat_lt; omega)
  have low := hexDigit?_digitChar (byte.toNat % 16) (by omega)
  simp [hexValue?, hexPair, high, low]
  omega

theorem bytesOfHex?_hexOfBytes (bytes : List UInt8) :
    bytesOfHex? (hexOfBytes bytes) = some bytes := by
  induction bytes with
  | nil => rfl
  | cons byte rest ih =>
    have pair := hexValue?_hexPair byte
    simp only [hexPair] at pair
    simp only [hexOfBytes, hexPair, List.flatMap_cons, List.cons_append, List.nil_append] at ih ⊢
    simp [bytesOfHex?, pair, ih]

end TunerRelay.Text
