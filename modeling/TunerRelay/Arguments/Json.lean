import TunerRelay.Arguments.Basic
import TunerRelay.Json

/-!
Arguments as a JSON value: an object with a field for each of the six, in any order and among others,
or an array of just the six.
-/

namespace TunerRelay.Arguments

/-- An integer between two bounds. -/
def integerBetween? (low high : Int) : Json → Option Int
  | .integer value => if low ≤ value ∧ value ≤ high then some value else none
  | _ => none

def int32OfJson? (json : Json) : Option Int32 :=
  (integerBetween? Int32.minValue.toInt Int32.maxValue.toInt json).map Int32.ofInt

def uint64OfJson? (json : Json) : Option UInt64 :=
  (integerBetween? 0 (UInt64.size - 1 : Nat) json).map fun value => UInt64.ofNat value.toNat

def uint16OfJson? (json : Json) : Option UInt16 :=
  (integerBetween? 0 (UInt16.size - 1 : Nat) json).map fun value => UInt16.ofNat value.toNat

def stringOfJson? : Json → Option String
  | .string value => some value
  | _ => none

def ofValues? (gain sampleRate frequency address port ppm : Json) : Option Arguments := do
  return {
    gain := ← int32OfJson? gain
    sampleRate := ← uint64OfJson? sampleRate
    frequency := ← uint64OfJson? frequency
    address := ← stringOfJson? address
    port := ← uint16OfJson? port
    ppm := ← int32OfJson? ppm }

def ofJson? : Json → Option Arguments
  | .array [gain, sampleRate, frequency, address, port, ppm] =>
    ofValues? gain sampleRate frequency address port ppm
  | .object fields => do
    let json := Json.object fields
    ofValues? (← json.field? "gain") (← json.field? "sample_rate_hz")
      (← json.field? "frequency_hz") (← json.field? "address") (← json.field? "port")
      (← json.field? "ppm")
  | _ => none

end TunerRelay.Arguments
