import TunerRelay.Wire.Opcode
import TunerRelay.Wire.Record

/-!
What a record asks for. Gains and corrections are read as two's complement, switches as "not zero".
-/

namespace TunerRelay.Wire

inductive Command where
  | frequency (hertz : UInt32)
  | sampleRate (rate : UInt32)
  /-- Zero is automatic gain. -/
  | gainMode (mode : UInt32)
  /-- Tenths of a decibel. -/
  | gain (tenths : Int32)
  | correction (ppm : Int32)
  | stageGain (stage : UInt16) (tenths : Int16)
  | testMode (on : Bool)
  | automaticGain (on : Bool)
  | directSampling (mode : UInt32)
  | offsetTuning (on : Bool)
  | crystal (hertz : UInt32)
  | tunerCrystal (hertz : UInt32)
  | gainByIndex (index : UInt32)
  | exit
  | gainByPercentage (percent : UInt32)
deriving DecidableEq, Repr

/-- The signed number that a parameter spells in two's complement. -/
def signed (parameter : UInt32) : Int32 := parameter.toInt32

def highHalf (parameter : UInt32) : UInt16 := UInt16.ofNat (parameter.toNat / 0x10000)

def lowHalf (parameter : UInt32) : UInt16 := UInt16.ofNat parameter.toNat

def Opcode.command? (opcode : Opcode) (parameter : UInt32) : Option Command :=
  match opcode with
  | .frequency => some (.frequency parameter)
  | .sampleRate => some (.sampleRate parameter)
  | .gainMode => some (.gainMode parameter)
  | .gain => some (.gain (signed parameter))
  | .correction => some (.correction (signed parameter))
  | .stageGain => some (.stageGain (highHalf parameter) (lowHalf parameter).toInt16)
  | .testMode => some (.testMode (parameter != 0))
  | .automaticGain => some (.automaticGain (parameter != 0))
  | .directSampling => some (.directSampling parameter)
  | .offsetTuning => some (.offsetTuning (parameter != 0))
  | .crystal => some (.crystal parameter)
  | .tunerCrystal => some (.tunerCrystal parameter)
  | .gainByIndex => some (.gainByIndex parameter)
  | .exit => some .exit
  | .gainByPercentage => some (.gainByPercentage parameter)
  | .wideSamples => none

/-- A record with an opcode that is not supported asks for nothing. -/
def Record.command? (record : Record) : Option Command :=
  (Opcode.ofByte? record.opcode).bind fun opcode => opcode.command? record.parameter

theorem Opcode.isSome_command? (opcode : Opcode) (parameter : UInt32) :
    (opcode.command? parameter).isSome ↔ opcode ≠ .wideSamples := by
  cases opcode <;> simp [command?]

end TunerRelay.Wire
