import Mathlib
import TunerRelay.Proofs.Receiver.Latest
import TunerRelay.Proofs.Session.Preparing
import TunerRelay.Proofs.Text.Numerals

/-!
# What a session starts from

A session sets the receiver up before it opens the server. Whether that succeeds is a matter of its
arguments alone, and so are the settings that it leaves, but for two: automatic gain keeps the last
gain, which the capture tool is not told then, and a correction of zero is not set at all. So a
correction of an earlier session lives on in every session that asks for none.
-/

namespace TunerRelay.Session

open TunerRelay.Receiver (Settings)
open TunerRelay.Device (Request Tuner)

/-- Values that the capture tool takes. -/
def InRange (value : UInt64) : Prop := 0 < value.toNat ∧ value.toNat < 2 ^ 32

instance (value : UInt64) : Decidable (InRange value) := inferInstanceAs (Decidable (_ ∧ _))

/-- The settings that a session with these arguments starts from. -/
def configured (arguments : Arguments) (settings : Settings) : Settings :=
  { settings with
    frequency := wordOf arguments.frequency
    sampleRate := wordOf arguments.sampleRate
    manualGain := arguments.gain != 0
    gain := if arguments.gain = 0 then settings.gain else arguments.gain
    ppm := if arguments.ppm = 0 then settings.ppm else arguments.ppm }

/-! ### The setup of a capture tool -/

theorem inRange_iff (value : UInt64) : InRange value ↔ ¬ Exceeds value ∧ wordOf value ≠ 0 := by
  have hfits : ¬ Exceeds value ↔ value.toNat < 2 ^ 32 := by
    unfold Exceeds
    omega
  rw [InRange, hfits, and_comm, and_congr_right_iff]
  intro hlt
  have hword : (wordOf value).toNat = value.toNat := UInt32.toNat_ofNat_of_lt' hlt
  rw [Nat.pos_iff_ne_zero, ne_eq, ne_eq, ← UInt32.toNat_inj, hword]
  rfl

theorem exists_refusal_iff (receiver : Receiver) (request : Request) :
    (∃ fault, (Tuner.perform request receiver).1 = .error fault) ↔
      Receiver.accepts request = false := by
  have hanswer := receiver.perform_eq_ok_iff request
  change (∃ fault, (receiver.perform request).1 = .error fault) ↔ _
  rw [← Bool.not_eq_true, ← hanswer]
  cases (receiver.perform request).1 with
  | error fault => exact iff_of_true ⟨fault, rfl⟩ nofun
  | ok => exact iff_of_false nofun (not_not_intro rfl)

/-- Such a receiver answers to values alone, whatever settings it has. -/
theorem verdict_eq_none_iff (arguments : Arguments) (receiver : Receiver) :
    verdict arguments (answersOf arguments receiver) = none ↔
      InRange arguments.sampleRate ∧ InRange arguments.frequency := by
  rw [← not_iff_not, ← ne_eq, verdict_ne_none_iff, answersOf, exists_refusal_iff,
    exists_refusal_iff, inRange_iff, inRange_iff]
  simp only [Receiver.accepts, bne_eq_false_iff_eq]
  tauto

theorem prepare_eq_configuring_iff {arguments : Arguments} {service : Service Receiver} :
    (prepare arguments service).1 = .configuring [] ↔
      InRange arguments.sampleRate ∧ InRange arguments.frequency := by
  rw [prepare_eq, ← verdict_eq_none_iff arguments service.device]
  cases verdict arguments (answersOf arguments service.device) with
  | none => exact iff_of_true rfl rfl
  | some failure => exact iff_of_false nofun nofun

/-- All requests of a whole setup are accepted. -/
theorem accepts_requestsUntil {arguments : Arguments}
    (hrange : InRange arguments.sampleRate ∧ InRange arguments.frequency) :
    ∀ request ∈ requestsUntil arguments none, Receiver.accepts request = true := by
  have hrate := ((inRange_iff _).mp hrange.1).2
  have hfrequency := ((inRange_iff _).mp hrange.2).2
  by_cases hppm : arguments.ppm = 0 <;> by_cases hgain : arguments.gain = 0 <;>
    simp [requestsUntil, corrections, demanded, tunings, Receiver.accepts, hrate, hfrequency, hppm,
      hgain]

theorem latest_requestsUntil {arguments : Arguments} (settings : Settings)
    (hrange : InRange arguments.sampleRate ∧ InRange arguments.frequency) :
    settings.latest (requestsUntil arguments none) = configured arguments settings := by
  have hall := List.filter_eq_self.mpr (accepts_requestsUntil hrange)
  simp only [Settings.latest, Receiver.latest, hall]
  unfold requestsUntil corrections demanded tunings configured
  by_cases hppm : arguments.ppm = 0 <;> by_cases hgain : arguments.gain = 0 <;>
    simp only [hppm, hgain, if_true, if_false] <;> rfl

theorem settings_prepare {arguments : Arguments} (service : Service Receiver)
    (hrange : InRange arguments.sampleRate ∧ InRange arguments.frequency) :
    (prepare arguments service).2.device.settings =
      configured arguments service.device.settings := by
  have hverdict := (verdict_eq_none_iff arguments service.device).mpr hrange
  calc (prepare arguments service).2.device.settings
      = (Device.after (requestsUntil arguments none) service.device).settings := by
        rw [prepare_eq, hverdict]
        rfl
    _ = service.device.settings.latest (requestsUntil arguments none) := by
        rw [Receiver.device_after_eq, Receiver.settings_after]
    _ = configured arguments service.device.settings := latest_requestsUntil _ hrange

/-! ### Sessions after different courses -/

theorem Concerns.deviceIndex_eq {receiver next : Receiver} (hconcerns : Concerns receiver next) :
    next.settings.deviceIndex = receiver.settings.deviceIndex := by
  cases hconcerns with
  | stay => rfl
  | request request => rw [receiver.settings_perform request, Settings.latest]
  | capture place signal => rw [(Receiver.Capture.receiver_step signal place receiver).1]

theorem deviceIndex_run (receiver : Receiver) (moves : List Course.Move) :
    ((Course.atRest receiver).run moves).service.device.settings.deviceIndex =
      receiver.settings.deviceIndex :=
  Course.run_induction (fun later => later.settings.deviceIndex = receiver.settings.deviceIndex)
    (fun _ _ hconcerns hsame => hconcerns.deviceIndex_eq.trans hsame) rfl moves

theorem toString_injective {left right : Int32} (hsame : toString left = toString right) :
    left = right := by
  have hread : ∀ number : Int32, Text.int32? (toString number).toList = some number :=
    fun number => (Text.reads_int32.eq_some_iff _ number).mpr (Text.spells_toString_int _)
  exact Option.some.inj ((hread left).symm.trans (hsame ▸ hread right))

/-- How a correction is mentioned tells which one it is. -/
theorem correction_eq_iff {left right : Int32} :
    (if left = 0 then [] else ["-p", toString left]) =
      (if right = 0 then [] else ["-p", toString right]) ↔ left = right := by
  constructor
  · intro hsame
    by_cases hleft : left = 0 <;> by_cases hright : right = 0
    · rw [hleft, hright]
    · simp [hleft, hright] at hsame
    · simp [hleft, hright] at hsame
    · rw [if_neg hleft, if_neg hright] at hsame
      exact toString_injective (List.head_eq_of_cons_eq (List.tail_eq_of_cons_eq hsame))
  · rintro rfl
    rfl

theorem toolArguments_eq_iff {left right : Settings} (hindex : left.deviceIndex = right.deviceIndex)
    (hfrequency : left.frequency = right.frequency) (hrate : left.sampleRate = right.sampleRate)
    (hmanual : left.manualGain = right.manualGain)
    (hgain : left.manualGain = true → left.gain = right.gain) :
    left.toolArguments = right.toolArguments ↔ left.ppm = right.ppm := by
  have hgains : (if left.manualGain then
        ["-g", String.ofList (Receiver.decibels left.gain).shortest] else []) =
      if right.manualGain then
        ["-g", String.ofList (Receiver.decibels right.gain).shortest] else [] := by
    rw [← hmanual]
    by_cases hmode : left.manualGain = true
    · rw [if_pos hmode, if_pos hmode, hgain hmode]
    · rw [if_neg hmode, if_neg hmode]
  unfold Settings.toolArguments
  rw [hindex, hfrequency, hrate, hgains, List.append_left_inj, List.append_right_inj,
    correction_eq_iff]

theorem toolArguments_configured_eq_iff {left right : Settings} {arguments : Arguments}
    (hindex : left.deviceIndex = right.deviceIndex) :
    (configured arguments left).toolArguments = (configured arguments right).toolArguments ↔
      arguments.ppm ≠ 0 ∨ left.ppm = right.ppm := by
  have hgain : (arguments.gain != 0) = true →
      (configured arguments left).gain = (configured arguments right).gain := by
    intro hmanual
    have hset : arguments.gain ≠ 0 := bne_iff_ne.mp hmanual
    rw [configured, configured, if_neg hset, if_neg hset]
  have hkept : (configured arguments left).deviceIndex = (configured arguments right).deviceIndex :=
    hindex
  rw [toolArguments_eq_iff hkept rfl rfl rfl hgain]
  by_cases hppm : arguments.ppm = 0 <;> simp [configured, hppm]

/-- **A session starts from its arguments, but for a correction that it does not ask for.** Two
courses of sessions and commands on one receiver, whatever they are, make no difference to whether a
session gets its receiver set up, nor to the command line of the capture that it starts, as long as
the session asks for a correction. If it asks for none then the one that is left in force stays. -/
theorem setup_erases_all_but_correction (receiver : Receiver) (first second : List Course.Move)
    (arguments : Arguments) :
    let one := ((Course.atRest receiver).run first).service
    let other := ((Course.atRest receiver).run second).service
    ((prepare arguments one).1 = .configuring [] ↔
      InRange arguments.sampleRate ∧ InRange arguments.frequency) ∧
    ((prepare arguments one).1 = .configuring [] →
      ((prepare arguments one).2.device.settings.toolArguments =
          (prepare arguments other).2.device.settings.toolArguments ↔
        arguments.ppm ≠ 0 ∨ one.device.settings.ppm = other.device.settings.ppm)) := by
  intro one other
  refine ⟨prepare_eq_configuring_iff, fun hplace => ?_⟩
  have hrange := prepare_eq_configuring_iff.mp hplace
  rw [settings_prepare one hrange, settings_prepare other hrange]
  exact toolArguments_configured_eq_iff ((deviceIndex_run receiver first).trans
    (deviceIndex_run receiver second).symm)

def supervise (signals : List Relay.Signal) : List Course.Move :=
  signals.map (Course.Move.work (.supervisor 0))

def serveReader (signals : List Relay.Signal) : List Course.Move :=
  signals.map (Course.Move.work (.reader 0))

/-- A session whose client sets the correction to 5 and leaves. -/
def correctedMoves : List Course.Move :=
  [[.begin plainArguments], List.replicate 15 (.advance .nothing),
    supervise (Relay.servingSignals 7),
    serveReader [.nothing, .nothing, .received [5, 0, 0, 0, 5], .nothing, .nothing, .nothing,
      .nothing, .nothing],
    serveReader [.nothing, .nothing, .failure "closed", .nothing, .nothing],
    supervise [.nothing, .nothing, .nothing, .nothing, .nothing, .nothing],
    [.capture .silence], List.replicate 8 (.advance .nothing)].flatten

theorem correctedMoves_run :
    let used := (Course.atRest (.ofBanner "rtl_sdr" 0 {})).run correctedMoves
    used.service.events = [.opened, .closed .ok] ∧ used.isRunning = false ∧
      used.service.device.settings = { ppm := 5 } := by
  decide +kernel

/-- The correction that a client set is in force in the next session, which asks for none. -/
theorem correction_outlives_session :
    let fresh := Course.atRest (.ofBanner "rtl_sdr" 0 {})
    let used := fresh.run correctedMoves
    (used.service.events = [.opened, .closed .ok] ∧ used.isRunning = false) ∧
      (prepare plainArguments fresh.service).1 = .configuring [] ∧
      (prepare plainArguments used.service).1 = .configuring [] ∧
      (prepare plainArguments fresh.service).2.device.settings.toolArguments =
        ["-d", "0", "-f", "100000000", "-s", "2048000", "-"] ∧
      (prepare plainArguments used.service).2.device.settings.toolArguments =
        ["-d", "0", "-f", "100000000", "-s", "2048000", "-p", "5", "-"] := by
  obtain ⟨hevents, hover, hused⟩ := correctedMoves_run
  have hrange : InRange plainArguments.sampleRate ∧ InRange plainArguments.frequency := by decide
  refine ⟨⟨hevents, hover⟩, prepare_eq_configuring_iff.mpr hrange,
    prepare_eq_configuring_iff.mpr hrange, ?_, ?_⟩
  · rw [settings_prepare _ hrange]
    decide +kernel
  · rw [settings_prepare _ hrange, hused]
    decide +kernel

end TunerRelay.Session
