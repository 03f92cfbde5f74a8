/-!
The command opcodes. `0x01` to `0x0d` are the standard set; those from `0x7e` on are extensions for
programs that embed the server.
-/

namespace TunerRelay.Wire

inductive Opcode where
  | frequency
  | sampleRate
  | gainMode
  | gain
  | correction
  | stageGain
  | testMode
  | automaticGain
  | directSampling
  | offsetTuning
  | crystal
  | tunerCrystal
  | gainByIndex
  | exit
  | gainByPercentage
  /-- Sixteen-bit samples, which these receivers do not deliver. -/
  | wideSamples
deriving DecidableEq, Repr

def Opcode.toByte : Opcode → UInt8
  | .frequency => 0x01
  | .sampleRate => 0x02
  | .gainMode => 0x03
  | .gain => 0x04
  | .correction => 0x05
  | .stageGain => 0x06
  | .testMode => 0x07
  | .automaticGain => 0x08
  | .directSampling => 0x09
  | .offsetTuning => 0x0a
  | .crystal => 0x0b
  | .tunerCrystal => 0x0c
  | .gainByIndex => 0x0d
  | .exit => 0x7e
  | .gainByPercentage => 0x7f
  | .wideSamples => 0x80

/-- Every opcode, by ascending byte. -/
def Opcode.all : List Opcode :=
  [.frequency, .sampleRate, .gainMode, .gain, .correction, .stageGain, .testMode, .automaticGain,
    .directSampling, .offsetTuning, .crystal, .tunerCrystal, .gainByIndex, .exit,
    .gainByPercentage, .wideSamples]

def Opcode.ofByte? (byte : UInt8) : Option Opcode :=
  all.find? fun opcode => opcode.toByte == byte

theorem Opcode.mem_all (opcode : Opcode) : opcode ∈ all := by
  cases opcode <;> decide

@[simp]
theorem Opcode.ofByte?_toByte (opcode : Opcode) : ofByte? opcode.toByte = some opcode := by
  cases opcode <;> rfl

/-- The opcodes that are acted on: all that are known, wide samples apart. -/
def supportedOpcodes : List UInt8 :=
  (Opcode.all.filter (· ≠ .wideSamples)).map Opcode.toByte

end TunerRelay.Wire
