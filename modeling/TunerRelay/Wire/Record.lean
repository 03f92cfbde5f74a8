import TunerRelay.Wire.Word

/-!
The record in which a client sends one command: an opcode and a word of parameter.
-/

namespace TunerRelay.Wire

structure Record where
  opcode : UInt8
  parameter : UInt32
deriving DecidableEq, Repr

/-- Bytes of one record on the wire. -/
def Record.size : Nat := 5

def Record.toBytes (record : Record) : List UInt8 :=
  record.opcode :: bigEndian record.parameter

/-- Only five bytes make a record. -/
def Record.ofBytes? : List UInt8 → Option Record
  | [opcode, p₁, p₂, p₃, p₄] => some { opcode, parameter := ofBigEndian p₁ p₂ p₃ p₄ }
  | _ => none

@[simp]
theorem Record.length_toBytes (record : Record) : record.toBytes.length = size := rfl

@[simp]
theorem Record.ofBytes?_toBytes (record : Record) : ofBytes? record.toBytes = some record := by
  simp only [toBytes, bigEndian, ofBytes?, ofBigEndian_split]

end TunerRelay.Wire
