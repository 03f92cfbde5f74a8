import Mathlib
import TunerRelay.Adapter.Reaction
import TunerRelay.Proofs.Tuner.Percentage
import TunerRelay.Proofs.Wire.Formats

/-!
# The command table

Opcode by opcode, what a record comes to at a receiver: at most one request. Numbers are given here by
their values, so that the table can be held against how records are read.
-/

namespace TunerRelay.Adapter

open TunerRelay.Device (Request)
open TunerRelay.Tuner (gainIndex? gainIndex?_eq_none_iff gainIndex?_eq_some_iff takenPosition
  takenPosition_lt)
open TunerRelay.Wire (Record Opcode supportedOpcodes)

/-- Setting the gain to the entry at this position, if the table reaches that far. -/
def entryAt (gains : List Int32) (position : Nat) : List Request :=
  gains[position]?.toList.map .gain

/-- The requests that each opcode makes with this parameter. Gains and corrections are the numbers in
two's complement that the parameter, or its lower half, is congruent to. -/
def commandTable (gains : List Int32) (parameter : UInt32) : List (UInt8 × List Request) :=
  [(0x01, [.frequency parameter]),
    (0x02, [.sampleRate parameter]),
    (0x03, [.gainMode (parameter != 0)]),
    (0x04, [.gain (.ofInt (Int.bmod parameter.toNat (2 ^ 32)))]),
    (0x05, [.correction (.ofInt (Int.bmod parameter.toNat (2 ^ 32)))]),
    (0x06, [.stageGain (.ofNat (parameter.toNat / 2 ^ 16))
      (.ofInt (Int.bmod parameter.toNat (2 ^ 16)))]),
    (0x07, [.testMode (parameter != 0)]),
    (0x08, [.automaticGain (parameter != 0)]),
    (0x09, [.directSampling parameter]),
    (0x0a, [.offsetTuning (parameter != 0)]),
    (0x0b, [.crystals parameter 0]),
    (0x0c, [.crystals 0 parameter]),
    (0x0d, entryAt gains parameter.toNat),
    (0x7e, []),
    (0x7f, entryAt gains (takenPosition parameter.toNat gains.length))]

/-- The requests of a record by the table, none if the table does not list its opcode. -/
def tabled (gains : List Int32) (record : Record) : List Request :=
  ((commandTable gains record.parameter).lookup record.opcode).getD []

/-- The requests that a reaction makes. -/
def Reaction.requests : Reaction → List Request
  | .request asked => [asked]
  | .stop | .nothing => []

/-! ### The shape of the table -/

theorem map_fst_commandTable (gains : List Int32) (parameter : UInt32) :
    (commandTable gains parameter).map Prod.fst = supportedOpcodes := rfl

theorem tabled_of_unsupported (gains : List Int32) {record : Record}
    (hopcode : record.opcode ∉ supportedOpcodes) : tabled gains record = [] := by
  have hnone : (commandTable gains record.parameter).lookup record.opcode = none := by
    refine List.lookup_eq_none_iff.mpr fun entry hentry => ?_
    refine bne_iff_ne.mpr fun hsame => hopcode ?_
    rw [hsame, ← map_fst_commandTable gains record.parameter]
    exact List.mem_map_of_mem hentry
  rw [tabled, hnone, Option.getD_none]

theorem length_entryAt_le (gains : List Int32) (position : Nat) :
    (entryAt gains position).length ≤ 1 := by
  rw [entryAt, List.length_map]
  cases gains[position]? with
  | none => exact Nat.zero_le 1
  | some tenths => exact Nat.le_refl 1

theorem entryAt_eq_nil_iff (gains : List Int32) (position : Nat) :
    entryAt gains position = [] ↔ gains.length ≤ position := by
  rw [entryAt, List.map_eq_nil_iff, Option.toList_eq_nil_iff, List.getElem?_eq_none_iff]

theorem entryAt_of_lt {gains : List Int32} {position : Nat} (hposition : position < gains.length) :
    entryAt gains position = [.gain gains[position]] := by
  rw [entryAt, List.getElem?_eq_getElem hposition]
  rfl

theorem tabled_gainByIndex_eq_nil_iff (gains : List Int32) (parameter : UInt32) :
    tabled gains ⟨0x0d, parameter⟩ = [] ↔ gains.length ≤ parameter.toNat :=
  entryAt_eq_nil_iff gains parameter.toNat

/-- A percentage finds an entry in every table that is not empty. -/
theorem tabled_gainByPercentage_eq_nil_iff (gains : List Int32) (parameter : UInt32) :
    tabled gains ⟨0x7f, parameter⟩ = [] ↔ gains = [] := by
  refine (entryAt_eq_nil_iff gains (takenPosition parameter.toNat gains.length)).trans ?_
  constructor
  · intro hbeyond
    by_contra hgains
    have hinside := takenPosition_lt parameter.toNat (List.length_pos_iff.mpr hgains)
    exact Nat.not_le.mpr hinside hbeyond
  · rintro rfl
    exact Nat.zero_le _

theorem tabled_gainByPercentage {gains : List Int32} (hgains : 0 < gains.length)
    (percent : UInt32) : ∃ tenths ∈ gains, tabled gains ⟨0x7f, percent⟩ = [.gain tenths] := by
  have hposition := takenPosition_lt percent.toNat hgains
  exact ⟨_, List.getElem_mem hposition, entryAt_of_lt hposition⟩

theorem length_of_mem_commandTable {gains : List Int32} {parameter : UInt32}
    {entry : UInt8 × List Request} (hentry : entry ∈ commandTable gains parameter) :
    entry.2.length ≤ 1 := by
  have hindex := length_entryAt_le gains parameter.toNat
  have hpercentage := length_entryAt_le gains (takenPosition parameter.toNat gains.length)
  simp only [commandTable, List.mem_cons, List.not_mem_nil, or_false] at hentry
  rcases hentry with rfl | rfl | rfl | rfl | rfl | rfl | rfl | rfl | rfl | rfl | rfl | rfl | rfl |
    rfl | rfl
  all_goals first | exact Nat.le_refl 1 | exact Nat.zero_le 1 | assumption

theorem length_tabled_le (gains : List Int32) (record : Record) :
    (tabled gains record).length ≤ 1 := by
  unfold tabled
  cases hentry : (commandTable gains record.parameter).lookup record.opcode with
  | none => exact Nat.zero_le 1
  | some requests =>
      obtain ⟨before, after, hsplit, -⟩ := List.lookup_eq_some_iff.mp hentry
      have hmem : (record.opcode, requests) ∈ commandTable gains record.parameter := by
        rw [hsplit]
        exact List.mem_append_right before List.mem_cons_self
      exact length_of_mem_commandTable hmem

/-! ### Records are read by the table -/

theorem signed_eq (parameter : UInt32) :
    Wire.signed parameter = .ofInt (Int.bmod parameter.toNat (2 ^ 32)) := by
  apply Int32.toInt_inj.mp
  rw [Wire.toInt_signed, Int32.toInt_ofInt]
  exact Int.bmod_bmod.symm

theorem toInt16_lowHalf (parameter : UInt32) :
    (Wire.lowHalf parameter).toInt16 = .ofInt (Int.bmod parameter.toNat (2 ^ 16)) := by
  apply Int16.toInt_inj.mp
  rw [Wire.toInt_toInt16_lowHalf, Int16.toInt_ofInt]
  exact Int.bmod_bmod.symm

theorem requests_ofGainAt (gains : List Int32) (index : Nat) :
    (Reaction.ofGainAt gains index).requests = entryAt gains index := by
  unfold Reaction.ofGainAt entryAt
  cases gains[index]? <;> rfl

theorem requests_ofPercentage {gains : List Int32} (hlength : gains.length < 2 ^ 64)
    (percent : UInt32) :
    (Reaction.ofPercentage gains percent).requests =
      entryAt gains (takenPosition percent.toNat gains.length) := by
  have hcount : (UInt64.ofNat gains.length).toNat = gains.length :=
    UInt64.toNat_ofNat_of_lt' hlength
  unfold Reaction.ofPercentage
  cases hindex : gainIndex? percent (UInt64.ofNat gains.length) with
  | none =>
      have hzero := congrArg UInt64.toNat ((gainIndex?_eq_none_iff _ _).mp hindex)
      obtain rfl := List.length_eq_zero_iff.mp (hcount.symm.trans hzero)
      rfl
  | some index =>
      have hposition := (gainIndex?_eq_some_iff.mp hindex).2
      rw [hcount] at hposition
      rw [← hposition]
      exact requests_ofGainAt gains index.toNat

/-- A record is unsupported, or it is read by an opcode other than the one for wide samples. -/
theorem unsupported_or_reads (record : Record) :
    (record.opcode ∉ supportedOpcodes ∧ record.command? = none) ∨
      ∃ opcode : Opcode, opcode ≠ .wideSamples ∧ opcode.toByte = record.opcode ∧
        record.command? = opcode.command? record.parameter := by
  by_cases hopcode : record.opcode ∈ supportedOpcodes
  · obtain ⟨opcode, hsupported, hbyte⟩ := List.mem_map.mp hopcode
    refine .inr ⟨opcode, of_decide_eq_true (List.mem_filter.mp hsupported).2, hbyte, ?_⟩
    rw [Record.command?, ← hbyte, Opcode.ofByte?_toByte, Option.bind_some]
  · refine .inl ⟨hopcode, ?_⟩
    unfold Record.command?
    cases hread : Opcode.ofByte? record.opcode with
    | none => rfl
    | some opcode =>
        have hbyte : opcode.toByte = record.opcode := by simpa using List.find?_some hread
        have hwide : opcode = .wideSamples := by
          by_contra hother
          have hmem : opcode ∈ Opcode.all.filter (· ≠ .wideSamples) :=
            List.mem_filter.mpr ⟨opcode.mem_all, decide_eq_true hother⟩
          exact hopcode (List.mem_map.mpr ⟨opcode, hmem, hbyte⟩)
        rw [hwide]
        rfl

/-- An adapter reacts to a record by the table. -/
theorem requests_ofRecord {gains : List Int32} (hlength : gains.length < 2 ^ 64) (record : Record) :
    (Reaction.ofRecord gains record).requests = tabled gains record := by
  unfold Reaction.ofRecord
  rcases unsupported_or_reads record with ⟨hopcode, hcommand⟩ | ⟨opcode, hother, hbyte, hcommand⟩
  · rw [tabled_of_unsupported gains hopcode, hcommand]
    rfl
  · rw [hcommand, tabled, ← hbyte]
    generalize record.parameter = parameter
    cases opcode with
    | gain => exact congrArg (fun tenths => [Request.gain tenths]) (signed_eq parameter)
    | correction => exact congrArg (fun ppm => [Request.correction ppm]) (signed_eq parameter)
    | stageGain =>
        exact congrArg (fun tenths => [Request.stageGain (Wire.highHalf parameter) tenths])
          (toInt16_lowHalf parameter)
    | gainByIndex => exact requests_ofGainAt gains parameter.toNat
    | gainByPercentage => exact requests_ofPercentage hlength parameter
    | wideSamples => exact absurd rfl hother
    | _ => rfl

theorem ofGainAt_ne_stop (gains : List Int32) (index : Nat) :
    Reaction.ofGainAt gains index ≠ .stop := by
  unfold Reaction.ofGainAt
  cases gains[index]? <;> nofun

theorem ofPercentage_ne_stop (gains : List Int32) (percent : UInt32) :
    Reaction.ofPercentage gains percent ≠ .stop := by
  unfold Reaction.ofPercentage
  split
  · exact ofGainAt_ne_stop gains _
  · nofun

theorem toByte_eq_exit_iff (opcode : Opcode) : opcode.toByte = 0x7e ↔ opcode = .exit := by
  cases opcode <;> decide

/-- One opcode asks the server to stop, and no other does. -/
theorem ofRecord_eq_stop_iff (gains : List Int32) (record : Record) :
    Reaction.ofRecord gains record = .stop ↔ record.opcode = 0x7e := by
  unfold Reaction.ofRecord
  rcases unsupported_or_reads record with ⟨hopcode, hcommand⟩ | ⟨opcode, hother, hbyte, hcommand⟩
  · rw [hcommand]
    refine iff_of_false nofun fun hexit => hopcode ?_
    rw [hexit]
    decide
  · rw [hcommand, ← hbyte, toByte_eq_exit_iff]
    cases opcode with
    | exit => exact iff_of_true rfl rfl
    | gainByIndex => exact iff_of_false (ofGainAt_ne_stop gains _) nofun
    | gainByPercentage => exact iff_of_false (ofPercentage_ne_stop gains _) nofun
    | wideSamples => exact absurd rfl hother
    | _ => exact iff_of_false nofun nofun

end TunerRelay.Adapter
