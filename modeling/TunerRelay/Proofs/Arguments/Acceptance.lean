import Mathlib
import TunerRelay.Report
import TunerRelay.Proofs.Arguments.Pairing
import TunerRelay.Proofs.Arguments.Splitting
import TunerRelay.Proofs.Text.Numerals

/-!
# Which argument strings are accepted

A text is accepted if its tokens pair up, an address and a port are among the values, and the last
value of each known flag is one for its field. The fields are these last values then, and defaults
where a flag is missing. Nothing else about the text matters: not the order of its pairs, and not the
flags that no field belongs to.
-/

namespace TunerRelay.Arguments

open Text (Reads Spells)

/-- The number that the last value for this flag spells. -/
def LastNumber (tokens : List (List Char)) (name : Char) (signed : Bool) (number : Int) : Prop :=
  ∃ value, LastValue tokens name value ∧ Spells signed value number

def LastNumberOr (tokens : List (List Char)) (name : Char) (signed : Bool)
    (default number : Int) : Prop :=
  LastNumber tokens name signed number ∨ ¬ Occurs tokens name ∧ number = default

/-- The last value for this flag, if there is one, spells a number between the bounds. -/
def NumberWithin (tokens : List (List Char)) (name : Char) (signed : Bool)
    (low high : Int) : Prop :=
  ∀ value, LastValue tokens name value →
    ∃ number, Spells signed value number ∧ low ≤ number ∧ number ≤ high

structure Acceptable (tokens : List (List Char)) : Prop where
  paired : Paired tokens
  address : ∃ value, LastValue tokens 'a' value ∧ value.length < 256
  port : ∃ number, LastNumber tokens 'p' false number ∧ 0 ≤ number ∧ number ≤ 65535
  gain : NumberWithin tokens 'g' true (-2 ^ 31) (2 ^ 31 - 1)
  ppm : NumberWithin tokens 'P' true (-2 ^ 31) (2 ^ 31 - 1)
  sampleRate : NumberWithin tokens 's' false 0 (2 ^ 64 - 1)
  frequency : NumberWithin tokens 'f' false 0 (2 ^ 64 - 1)

/-- Each field is the last value for its flag, or its default. -/
structure Determines (tokens : List (List Char)) (arguments : Arguments) : Prop where
  address : LastValue tokens 'a' arguments.address.toList
  port : LastNumber tokens 'p' false arguments.port.toNat
  gain : LastNumberOr tokens 'g' true 24 arguments.gain.toInt
  ppm : LastNumberOr tokens 'P' true 0 arguments.ppm.toInt
  sampleRate : LastNumberOr tokens 's' false 2048000 arguments.sampleRate.toNat
  frequency : LastNumberOr tokens 'f' false 100000000 arguments.frequency.toNat

/-! ### One field -/

theorem bind_eq_ok_iff {ε α β : Type} {first : Except ε α} {next : α → Except ε β} {result : β} :
    first >>= next = .ok result ↔ ∃ value, first = .ok value ∧ next value = .ok result := by
  cases first with
  | error fault => simp [bind, Except.bind]
  | ok value => simp [bind, Except.bind]

theorem required_eq_ok_iff {found : List Entry} {name : Char} {value : List Char} :
    required found name = .ok value ↔ valueOf? found name = some value := by
  unfold required
  cases valueOf? found name <;> simp

theorem number_eq_ok_iff {α : Type} {read? : List Char → Option α} {name : Char}
    {value : List Char} {result : α} :
    number read? name value = .ok result ↔ read? value = some result := by
  unfold number
  cases read? value <;> simp

theorem numberOr_eq_ok_iff {α : Type} {read? : List Char → Option α} {found : List Entry}
    {name : Char} {default result : α} :
    numberOr read? found name default = .ok result ↔
      (∃ value, valueOf? found name = some value ∧ read? value = some result) ∨
        valueOf? found name = none ∧ result = default := by
  unfold numberOr
  cases valueOf? found name with
  | none => simp [eq_comm]
  | some value => simp [number_eq_ok_iff]

section Numbers

variable {α : Type} {signed : Bool} {low high : Int} {read? : List Char → Option α}
  {meaning : α → Int} {tokens : List (List Char)} {found : List Entry}

theorem Pairs.lastNumber_iff (hpairs : Pairs tokens found)
    (hreads : Reads signed low high read? meaning) {name : Char} {result : α} :
    LastNumber tokens name signed (meaning result) ↔
      ∃ value, valueOf? found name = some value ∧ read? value = some result := by
  simp only [LastNumber, hpairs.valueOf?_eq_some_iff, hreads.eq_some_iff]

theorem Pairs.lastNumberOr_iff (hpairs : Pairs tokens found)
    (hreads : Reads signed low high read? meaning) (hinjective : Function.Injective meaning)
    {name : Char} {default result : α} :
    LastNumberOr tokens name signed (meaning default) (meaning result) ↔
      numberOr read? found name default = .ok result := by
  rw [numberOr_eq_ok_iff, LastNumberOr, hpairs.lastNumber_iff hreads, hpairs.valueOf?_eq_none_iff,
    hinjective.eq_iff]

theorem Pairs.numberWithin_iff (hpairs : Pairs tokens found)
    (hreads : Reads signed low high read? meaning) {name : Char} (default : α) :
    NumberWithin tokens name signed low high ↔
      ∃ result, numberOr read? found name default = .ok result := by
  simp only [NumberWithin, ← hpairs.valueOf?_eq_some_iff, ← hreads.exists_iff, numberOr_eq_ok_iff]
  cases valueOf? found name with
  | none => simp
  | some value => simp

end Numbers

/-! ### All fields -/

theorem ofEntries_eq_ok_iff {found : List Entry} {arguments : Arguments} :
    ofEntries found = .ok arguments ↔
      valueOf? found 'a' = some arguments.address.toList ∧
      arguments.address.toList.length < addressLimit ∧
      (∃ value, valueOf? found 'p' = some value ∧ Text.uint16? value = some arguments.port) ∧
      numberOr Text.int32? found 'g' defaultGain = .ok arguments.gain ∧
      numberOr Text.int32? found 'P' defaultPpm = .ok arguments.ppm ∧
      numberOr Text.uint64? found 's' defaultSampleRate = .ok arguments.sampleRate ∧
      numberOr Text.uint64? found 'f' defaultFrequency = .ok arguments.frequency := by
  unfold ofEntries
  simp only [bind_eq_ok_iff, required_eq_ok_iff]
  constructor
  · rintro ⟨address, haddress, hrest⟩
    split at hrest
    · nomatch hrest
    · rename_i hlimit
      simp only [bind_eq_ok_iff, required_eq_ok_iff, number_eq_ok_iff] at hrest
      obtain ⟨gain, hgain, rate, hrate, hertz, hhertz, value, hvalue, port, hport, ppm, hppm,
        hresult⟩ := hrest
      obtain rfl := Except.ok.inj hresult
      rw [String.toList_ofList]
      exact ⟨haddress, Nat.lt_of_not_le hlimit, ⟨value, hvalue, hport⟩, hgain, hppm, hrate, hhertz⟩
  · rintro ⟨haddress, hlimit, ⟨value, hvalue, hport⟩, hgain, hppm, hrate, hhertz⟩
    refine ⟨arguments.address.toList, haddress, ?_⟩
    rw [if_neg (Nat.not_le_of_lt hlimit), String.ofList_toList]
    simp only [bind_eq_ok_iff, required_eq_ok_iff, number_eq_ok_iff]
    exact ⟨_, hgain, _, hrate, _, hhertz, value, hvalue, _, hport, _, hppm, rfl⟩

theorem parse_eq_ok_iff {text : String} {arguments : Arguments} :
    parse text = .ok arguments ↔
      ∃ found, Pairs (tokens text.toList) found ∧ ofEntries found = .ok arguments := by
  rw [parse, bind_eq_ok_iff]
  simp only [entries_eq_ok_iff]

theorem Pairs.ofEntries_eq_ok_iff {tokens : List (List Char)} {found : List Entry}
    (hpairs : Pairs tokens found) {arguments : Arguments} :
    ofEntries found = .ok arguments ↔
      arguments.address.toList.length < 256 ∧ Determines tokens arguments := by
  have hint : Function.Injective Int32.toInt := fun _ _ => Int32.toInt_inj.mp
  have hword : Function.Injective fun word : UInt64 => (word.toNat : Int) :=
    fun _ _ hsame => UInt64.toNat_inj.mp (Int.ofNat_inj.mp hsame)
  rw [Arguments.ofEntries_eq_ok_iff, hpairs.valueOf?_eq_some_iff,
    ← hpairs.lastNumber_iff Text.reads_uint16, ← hpairs.lastNumberOr_iff Text.reads_int32 hint,
    ← hpairs.lastNumberOr_iff Text.reads_int32 hint,
    ← hpairs.lastNumberOr_iff Text.reads_uint64 hword,
    ← hpairs.lastNumberOr_iff Text.reads_uint64 hword]
  constructor
  · rintro ⟨haddress, hlimit, hport, hgain, hppm, hrate, hhertz⟩
    exact ⟨hlimit, haddress, hport, hgain, hppm, hrate, hhertz⟩
  · rintro ⟨hlimit, haddress, hport, hgain, hppm, hrate, hhertz⟩
    exact ⟨haddress, hlimit, hport, hgain, hppm, hrate, hhertz⟩

/-- Whether a value is within bounds is asked field by field, so one field at fault is enough to
refuse the text, and no field at fault leaves nothing to refuse. -/
theorem acceptable_iff {tokens : List (List Char)} :
    Acceptable tokens ↔ ∃ found arguments, Pairs tokens found ∧ ofEntries found = .ok arguments := by
  constructor
  · rintro ⟨hpaired, ⟨address, haddress, hlimit⟩, ⟨number, ⟨value, hvalue, hspells⟩, hbounds⟩,
      hgain, hppm, hrate, hhertz⟩
    obtain ⟨found, hpairs⟩ := paired_iff.mp hpaired
    obtain ⟨gain, hgain⟩ := (hpairs.numberWithin_iff Text.reads_int32 defaultGain).mp hgain
    obtain ⟨ppm, hppm⟩ := (hpairs.numberWithin_iff Text.reads_int32 defaultPpm).mp hppm
    obtain ⟨rate, hrate⟩ := (hpairs.numberWithin_iff Text.reads_uint64 defaultSampleRate).mp hrate
    obtain ⟨hertz, hhertz⟩ := (hpairs.numberWithin_iff Text.reads_uint64 defaultFrequency).mp hhertz
    obtain ⟨port, hport⟩ := (Text.reads_uint16.exists_iff value).mpr ⟨number, hspells, hbounds⟩
    refine ⟨found, ⟨gain, rate, hertz, String.ofList address, port, ppm⟩, hpairs, ?_⟩
    rw [Arguments.ofEntries_eq_ok_iff, String.toList_ofList]
    exact ⟨hpairs.valueOf?_eq_some_iff.mpr haddress, hlimit,
      ⟨value, hpairs.valueOf?_eq_some_iff.mpr hvalue, hport⟩, hgain, hppm, hrate, hhertz⟩
  · rintro ⟨found, arguments, hpairs, hread⟩
    obtain ⟨haddress, hlimit, ⟨value, hvalue, hport⟩, hgain, hppm, hrate, hhertz⟩ :=
      Arguments.ofEntries_eq_ok_iff.mp hread
    obtain ⟨number, hspells, hbounds⟩ := (Text.reads_uint16.exists_iff value).mp ⟨_, hport⟩
    exact {
      paired := paired_iff.mpr ⟨found, hpairs⟩
      address := ⟨_, hpairs.valueOf?_eq_some_iff.mp haddress, hlimit⟩
      port := ⟨number, ⟨value, hpairs.valueOf?_eq_some_iff.mp hvalue, hspells⟩, hbounds⟩
      gain := (hpairs.numberWithin_iff Text.reads_int32 defaultGain).mpr ⟨_, hgain⟩
      ppm := (hpairs.numberWithin_iff Text.reads_int32 defaultPpm).mpr ⟨_, hppm⟩
      sampleRate := (hpairs.numberWithin_iff Text.reads_uint64 defaultSampleRate).mpr ⟨_, hrate⟩
      frequency := (hpairs.numberWithin_iff Text.reads_uint64 defaultFrequency).mpr ⟨_, hhertz⟩ }

/-- The tokens of a text are settled by its spaces and quotes alone. They decide whether the text is
accepted and which arguments it stands for, and a text that is refused is always a case of wrong
arguments. -/
theorem accepted_iff_grammatical (text : String) :
    ∃ tokens, (∀ split, Splits text.toList split ↔ split = tokens) ∧
      ((∃ arguments, parse text = .ok arguments) ↔ Acceptable tokens) ∧
      (∀ arguments, parse text = .ok arguments → Determines tokens arguments) ∧
      ∀ fault, parse text = .error fault → fault.report.code = .wrongArguments := by
  refine ⟨tokens text.toList, fun split => splits_iff, ?_, ?_, fun fault _ => rfl⟩
  · rw [acceptable_iff, exists_comm]
    simp only [parse_eq_ok_iff]
  · intro arguments hparse
    obtain ⟨found, hpairs, hread⟩ := parse_eq_ok_iff.mp hparse
    exact (hpairs.ofEntries_eq_ok_iff.mp hread).2

end TunerRelay.Arguments
