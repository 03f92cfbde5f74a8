import Mathlib
import TunerRelay.Proofs.Wire.Records
import TunerRelay.Wire.Command
import TunerRelay.Wire.Header

/-!
# Nothing is lost on the wire

Records and headers have one written form each, and every five or twelve bytes are such a form. What a
client packs into a parameter, a signed number or a stage with a signed gain, is what the command it
asks for has, and no other parameter asks for that command.
-/

namespace TunerRelay.Wire

/-! ### Bytes -/

theorem Record.ofBytes?_eq_some_iff {bytes : List UInt8} {record : Record} :
    ofBytes? bytes = some record ↔ bytes = record.toBytes := by
  refine ⟨toBytes_of_ofBytes?, ?_⟩
  rintro rfl
  exact ofBytes?_toBytes record

theorem Record.isSome_ofBytes?_iff (bytes : List UInt8) :
    (ofBytes? bytes).isSome ↔ bytes.length = size := by
  rw [Option.isSome_iff_ne_none, ne_eq, ofBytes?_eq_none_iff, not_not]

theorem Header.ofBytes?_eq_some_iff {bytes : List UInt8} {header : Header} :
    ofBytes? bytes = some header ↔ bytes = header.toBytes := by
  constructor
  · intro hread
    unfold ofBytes? at hread
    split at hread
    · cases hread
      simp only [toBytes, bigEndian_ofBigEndian, List.cons_append, List.nil_append]
    · cases hread
  · rintro rfl
    exact ofBytes?_toBytes header

theorem Header.isSome_ofBytes?_iff (bytes : List UInt8) :
    (ofBytes? bytes).isSome ↔ bytes.length = 12 := by
  constructor
  · intro hsome
    obtain ⟨header, hread⟩ := Option.isSome_iff_exists.mp hsome
    rw [ofBytes?_eq_some_iff.mp hread, length_toBytes]
  · intro hlength
    match bytes, hlength with
    | [m₁, m₂, m₃, m₄, t₁, t₂, t₃, t₄, g₁, g₂, g₃, g₄], _ => rfl

/-! ### Parameters -/

/-- The parameter in which a client packs a signed number. -/
def packed (value : Int32) : UInt32 := .ofNat (value.toInt % 2 ^ 32).toNat

/-- The parameter in which a client packs a stage, and the gain for it. -/
def packedPair (stage : UInt16) (tenths : Int16) : UInt32 :=
  .ofNat (stage.toNat * 65536 + (tenths.toInt % 65536).toNat)

theorem toInt_signed (parameter : UInt32) :
    (signed parameter).toInt = Int.bmod parameter.toNat (2 ^ 32) :=
  BitVec.toInt_eq_toNat_bmod parameter.toBitVec

theorem toInt_toInt16_lowHalf (parameter : UInt32) :
    (lowHalf parameter).toInt16.toInt = Int.bmod parameter.toNat (2 ^ 16) := by
  calc (lowHalf parameter).toInt16.toInt = Int.bmod (lowHalf parameter).toNat (2 ^ 16) :=
        BitVec.toInt_eq_toNat_bmod (lowHalf parameter).toBitVec
    _ = Int.bmod parameter.toNat (2 ^ 16) := by
        rw [lowHalf, UInt16.toNat_ofNat', Int.natCast_mod]
        exact Int.emod_bmod _ _

theorem toNat_packed (value : Int32) : ((packed value).toNat : Int) = value.toInt % 2 ^ 32 := by
  rw [packed, UInt32.toNat_ofNat']
  omega

theorem toNat_packedPair (stage : UInt16) (tenths : Int16) :
    ((packedPair stage tenths).toNat : Int) = stage.toNat * 65536 + tenths.toInt % 65536 := by
  have hstage := stage.toNat_lt
  rw [packedPair, UInt32.toNat_ofNat']
  omega

theorem signed_eq_iff {parameter : UInt32} {value : Int32} :
    signed parameter = value ↔ parameter = packed value := by
  have hparameter := parameter.toNat_lt
  have hupper := value.toInt_lt
  have hlower := value.le_toInt
  have hpacked := toNat_packed value
  rw [← Int32.toInt_inj, toInt_signed, ← UInt32.toNat_inj, Int.bmod_def]
  omega

theorem highHalf_eq_iff {parameter : UInt32} {stage : UInt16} :
    highHalf parameter = stage ↔ parameter.toNat / 65536 = stage.toNat := by
  have hparameter := parameter.toNat_lt
  rw [← UInt16.toNat_inj, highHalf, UInt16.toNat_ofNat']
  omega

theorem toInt16_lowHalf_eq_iff {parameter : UInt32} {tenths : Int16} :
    (lowHalf parameter).toInt16 = tenths ↔
      (parameter.toNat : Int) % 65536 = tenths.toInt % 65536 := by
  have hupper := tenths.toInt_lt
  have hlower := tenths.le_toInt
  rw [← Int16.toInt_inj, toInt_toInt16_lowHalf, Int.bmod_def]
  omega

theorem halves_eq_iff {parameter : UInt32} {stage : UInt16} {tenths : Int16} :
    highHalf parameter = stage ∧ (lowHalf parameter).toInt16 = tenths ↔
      parameter = packedPair stage tenths := by
  have hpacked := toNat_packedPair stage tenths
  rw [highHalf_eq_iff, toInt16_lowHalf_eq_iff, ← UInt32.toNat_inj]
  omega

/-! ### Commands -/

theorem command?_gain_eq_iff {parameter : UInt32} {tenths : Int32} :
    Record.command? ⟨0x04, parameter⟩ = some (.gain tenths) ↔ parameter = packed tenths := by
  rw [← signed_eq_iff, ← Command.gain.injEq]
  exact Option.some_inj

theorem command?_correction_eq_iff {parameter : UInt32} {ppm : Int32} :
    Record.command? ⟨0x05, parameter⟩ = some (.correction ppm) ↔ parameter = packed ppm := by
  rw [← signed_eq_iff, ← Command.correction.injEq]
  exact Option.some_inj

theorem command?_stageGain_eq_iff {parameter : UInt32} {stage : UInt16} {tenths : Int16} :
    Record.command? ⟨0x06, parameter⟩ = some (.stageGain stage tenths) ↔
      parameter = packedPair stage tenths := by
  rw [← halves_eq_iff, ← Command.stageGain.injEq]
  exact Option.some_inj

/-- The opcodes whose parameters carry signed numbers. -/
def signedOpcodes : List UInt8 := [0x04, 0x05, 0x06]

/-- The record in which a client packs such a command. -/
def Command.signedRecord? : Command → Option Record
  | .gain tenths => some ⟨0x04, packed tenths⟩
  | .correction ppm => some ⟨0x05, packed ppm⟩
  | .stageGain stage tenths => some ⟨0x06, packedPair stage tenths⟩
  | _ => none

theorem signedRecord?_command? {record : Record} (hopcode : record.opcode ∈ signedOpcodes) :
    record.command?.bind Command.signedRecord? = some record := by
  obtain ⟨opcode, parameter⟩ := record
  simp only [signedOpcodes, List.mem_cons, List.not_mem_nil, or_false] at hopcode
  have hsigned : parameter = packed (signed parameter) := signed_eq_iff.mp rfl
  have hhalves : parameter = packedPair (highHalf parameter) (lowHalf parameter).toInt16 :=
    halves_eq_iff.mp ⟨rfl, rfl⟩
  rcases hopcode with rfl | rfl | rfl
  · exact congrArg (fun word => some (Record.mk 0x04 word)) hsigned.symm
  · exact congrArg (fun word => some (Record.mk 0x05 word)) hsigned.symm
  · exact congrArg (fun word => some (Record.mk 0x06 word)) hhalves.symm

theorem injOn_command? : Set.InjOn Record.command? {record | record.opcode ∈ signedOpcodes} := by
  intro one hone other hother hsame
  apply Option.some.inj
  calc some one = one.command?.bind Command.signedRecord? := (signedRecord?_command? hone).symm
    _ = other.command?.bind Command.signedRecord? := by rw [hsame]
    _ = some other := signedRecord?_command? hother

/-- **The wire formats are bijections.** Every five bytes and no others are the written form of a record,
every twelve that of a header, and of one only. A stage with its gain, a gain and a correction are asked
for by the parameter in which they are packed, whatever their values, and by that alone; no two records
with these opcodes ask for the same. -/
theorem formats_bijective :
    (∀ bytes, (Record.ofBytes? bytes).isSome ↔ bytes.length = Record.size) ∧
    (∀ bytes record, Record.ofBytes? bytes = some record ↔ bytes = record.toBytes) ∧
    (∀ bytes, (Header.ofBytes? bytes).isSome ↔ bytes.length = 12) ∧
    (∀ bytes header, Header.ofBytes? bytes = some header ↔ bytes = header.toBytes) ∧
    (∀ parameter stage tenths, Record.command? ⟨0x06, parameter⟩ = some (.stageGain stage tenths) ↔
      parameter = packedPair stage tenths) ∧
    (∀ parameter value, Record.command? ⟨0x04, parameter⟩ = some (.gain value) ↔
      parameter = packed value) ∧
    (∀ parameter value, Record.command? ⟨0x05, parameter⟩ = some (.correction value) ↔
      parameter = packed value) ∧
    Set.InjOn Record.command? {record | record.opcode ∈ signedOpcodes} :=
  ⟨Record.isSome_ofBytes?_iff, fun _ _ => Record.ofBytes?_eq_some_iff,
    Header.isSome_ofBytes?_iff, fun _ _ => Header.ofBytes?_eq_some_iff,
    fun _ _ _ => command?_stageGain_eq_iff, fun _ _ => command?_gain_eq_iff,
    fun _ _ => command?_correction_eq_iff, injOn_command?⟩

end TunerRelay.Wire
