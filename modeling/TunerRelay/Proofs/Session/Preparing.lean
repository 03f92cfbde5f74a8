import Mathlib
import TunerRelay.Device.Logged
import TunerRelay.Device.Recorder
import TunerRelay.Proofs.Adapter.Dispatch
import TunerRelay.Session.Basic

/-!
# Where a setup fails

A session makes its requests one after another, and only sample rate and frequency have to be accepted.
So a setup is decided by four questions in order: whether the rate fits a word, whether the receiver
takes it, and the same of the frequency. The requests that are only attempted are made on the way, and
nothing depends on how they are answered.
-/

namespace TunerRelay.Session

open TunerRelay.Device (Request Tuner Fault Logged Recorder)

variable {σ τ : Type} [Tuner σ] [Tuner τ]

/-! ### Steps one after another -/

/-- One step of a session that is still being set up. -/
def pursue (arguments : Arguments) (session : Place × Service σ) : Place × Service σ :=
  match session.1 with
  | .configuring (_ :: _) => step arguments (.outside .nothing) session.1 session.2
  | _ => session

/-- A session that has been set up, or has failed in that. -/
def prepare (arguments : Arguments) (service : Service σ) : Place × Service σ :=
  (pursue arguments)^[(Setup.ofArguments arguments).length] (start arguments, service)

/-- These steps on a receiver, up to the first that fails. -/
def Setup.performAll : List Setup → σ → Option Failure × σ
  | [], device => (none, device)
  | setup :: rest, device =>
    match setup.perform device with
    | (none, device) => performAll rest device
    | (some failure, device) => (some failure, device)

/-- Where a session stands when it has been set up with this failure or without one. -/
def placeAfter : Option Failure → Place
  | none => .configuring []
  | some failure => .releasing failure

theorem pursue_iterate_releasing (arguments : Arguments) (failure : Failure) (service : Service σ)
    (count : Nat) :
    (pursue arguments)^[count] (.releasing failure, service) = (.releasing failure, service) :=
  Function.iterate_fixed rfl count

theorem pursue_iterate (arguments : Arguments) (setups : List Setup) (service : Service σ) :
    (pursue arguments)^[setups.length] (.configuring setups, service) =
      (placeAfter (Setup.performAll setups service.device).1,
        service.withWorld { service.relay.hub.world with
          device := (Setup.performAll setups service.device).2 }) := by
  induction setups generalizing service with
  | nil => rfl
  | cons setup rest ih =>
      have hstep : pursue arguments (.configuring (setup :: rest), service) =
          configure setup rest service := rfl
      rw [List.length_cons, Function.iterate_succ_apply, hstep, configure, Setup.performAll]
      rcases setup.perform service.device with ⟨_ | failure, device⟩
      · exact ih _
      · exact pursue_iterate_releasing arguments failure _ rest.length

theorem Setup.performAll_attempts (requests : List Request) (rest : List Setup) (device : σ) :
    performAll (requests.map .attempt ++ rest) device =
      performAll rest (Device.after requests device) := by
  induction requests generalizing device with
  | nil => rfl
  | cons request requests ih => exact ih _

/-! ### What a setup asks, and what decides it -/

def Exceeds (value : UInt64) : Prop := 2 ^ 32 - 1 < value.toNat

instance (value : UInt64) : Decidable (Exceeds value) := Nat.decLt _ _

/-- The word that a value is asked for with, if it fits. -/
def wordOf (value : UInt64) : UInt32 := UInt32.ofNat value.toNat

theorem word?_eq (value : UInt64) :
    word? value = if Exceeds value then none else some (wordOf value) := by
  by_cases hvalue : Exceeds value
  · rw [if_pos hvalue]
    exact if_neg (Nat.not_lt.mpr hvalue)
  · rw [if_neg hvalue]
    exact if_pos (Nat.lt_of_not_le hvalue)

/-- Requests before the sample rate. -/
def corrections (arguments : Arguments) : List Request :=
  if arguments.ppm = 0 then [] else [.correction arguments.ppm]

/-- Requests after the frequency. -/
def tunings (arguments : Arguments) : List Request :=
  [.gainMode (arguments.gain != 0)] ++
    (if arguments.gain = 0 then [] else [.gain arguments.gain]) ++ [.resetBuffer]

/-- Requests from the sample rate on. -/
def demanded (arguments : Arguments) : List Request :=
  .sampleRate (wordOf arguments.sampleRate) :: .frequency (wordOf arguments.frequency) ::
    tunings arguments

/-- How many requests have been made from the sample rate on when a setup fails so: none after one that
is refused, and not one whose value is too large. -/
def Failure.demands : Failure → Nat
  | .sampleRateOutOfRange _ => 0
  | .sampleRateRefused _ _ | .frequencyOutOfRange _ => 1
  | _ => 2

/-- The requests of a setup that ends so. -/
def requestsUntil (arguments : Arguments) : Option Failure → List Request
  | none => corrections arguments ++ demanded arguments
  | some failure => corrections arguments ++ (demanded arguments).take failure.demands

/-- How a receiver answers to sample rate and frequency when it is asked for them in turn, or would if
the setup came that far. -/
structure Answers where
  rate : Except Fault Unit
  frequency : Except Fault Unit

def answersOf (arguments : Arguments) (device : σ) : Answers :=
  let corrected := Device.after (corrections arguments) device
  let rated := Tuner.perform (.sampleRate (wordOf arguments.sampleRate)) corrected
  { rate := rated.1
    frequency := (Tuner.perform (.frequency (wordOf arguments.frequency)) rated.2).1 }

/-- Why a setting that has to be accepted makes a setup fail, if it does: its value is too large, or this
is how it is refused. -/
def judge (value : UInt64) (tooLarge : Failure) (refused : Fault → Failure)
    (answer : Except Fault Unit) : Option Failure :=
  if Exceeds value then some tooLarge
  else match answer with
    | .error fault => some (refused fault)
    | .ok () => none

/-- The first thing that is wrong: the rate, the answer to it, the frequency, the answer to that. -/
def verdict (arguments : Arguments) (answers : Answers) : Option Failure :=
  (judge arguments.sampleRate (.sampleRateOutOfRange arguments.sampleRate)
    (.sampleRateRefused (wordOf arguments.sampleRate)) answers.rate).or
  (judge arguments.frequency (.frequencyOutOfRange arguments.frequency)
    (.frequencyRefused (wordOf arguments.frequency)) answers.frequency)

theorem judge_ne_none_iff (value : UInt64) (tooLarge : Failure) (refused : Fault → Failure)
    (answer : Except Fault Unit) :
    judge value tooLarge refused answer ≠ none ↔ Exceeds value ∨ ∃ fault, answer = .error fault := by
  unfold judge
  by_cases hvalue : Exceeds value
  · rw [if_pos hvalue]
    exact iff_of_true nofun (.inl hvalue)
  · rw [if_neg hvalue]
    cases answer with
    | error fault => exact iff_of_true nofun (.inr ⟨fault, rfl⟩)
    | ok => exact iff_of_false (not_not_intro rfl) (not_or.mpr ⟨hvalue, nofun⟩)

theorem eq_of_judge {value : UInt64} {tooLarge failure : Failure} {refused : Fault → Failure}
    {answer : Except Fault Unit} (hjudged : judge value tooLarge refused answer = some failure) :
    failure = tooLarge ∨ ∃ fault, failure = refused fault := by
  unfold judge at hjudged
  split at hjudged
  · exact .inl (Option.some.inj hjudged).symm
  · cases answer with
    | error fault => exact .inr ⟨fault, (Option.some.inj hjudged).symm⟩
    | ok => exact nomatch hjudged

theorem verdict_ne_none_iff (arguments : Arguments) (answers : Answers) :
    verdict arguments answers ≠ none ↔
      Exceeds arguments.sampleRate ∨ (∃ fault, answers.rate = .error fault) ∨
        Exceeds arguments.frequency ∨ ∃ fault, answers.frequency = .error fault := by
  rw [verdict, ne_eq, Option.or_eq_none_iff, not_and_or, ← ne_eq, ← ne_eq, judge_ne_none_iff,
    judge_ne_none_iff, or_assoc]

/-! ### What becomes of a setup -/

/-- A step that asks for this value and has to be accepted. -/
structure Setup.Demands (setup : Setup) (value : UInt64) (request : Request) (tooLarge : Failure)
    (refused : Fault → Failure) : Prop where
  request_eq : setup.request = if Exceeds value then .error tooLarge else .ok request
  accepted : setup.failure? (.ok ()) = none
  refused : ∀ fault, setup.failure? (.error fault) = some (refused fault)

theorem ofWord?_eq (value : UInt64) (tooLarge : Failure) (request : UInt32 → Request) :
    (match word? value with
      | some word => Except.ok (request word)
      | none => .error tooLarge) =
      if Exceeds value then .error tooLarge else .ok (request (wordOf value)) := by
  rw [word?_eq]
  by_cases hvalue : Exceeds value
  · simp only [if_pos hvalue]
  · simp only [if_neg hvalue]

theorem Setup.demands_sampleRate (rate : UInt64) :
    (Setup.sampleRate rate).Demands rate (.sampleRate (wordOf rate)) (.sampleRateOutOfRange rate)
      (.sampleRateRefused (wordOf rate)) :=
  ⟨ofWord?_eq rate _ .sampleRate, rfl, fun _ => rfl⟩

theorem Setup.demands_frequency (hertz : UInt64) :
    (Setup.frequency hertz).Demands hertz (.frequency (wordOf hertz)) (.frequencyOutOfRange hertz)
      (.frequencyRefused (wordOf hertz)) :=
  ⟨ofWord?_eq hertz _ .frequency, rfl, fun _ => rfl⟩

/-- Such a step ends the setup before its request or right after it, or lets it go on. -/
theorem Setup.Demands.performAll_cons {setup : Setup} {value : UInt64} {request : Request}
    {tooLarge : Failure} {refused : Fault → Failure}
    (hdemands : setup.Demands value request tooLarge refused) (rest : List Setup) (device : σ) :
    let judged := judge value tooLarge refused (Tuner.perform request device).1
    let performed := performAll (setup :: rest) device
    (judged = some tooLarge ∧ performed = (some tooLarge, device)) ∨
      (∃ fault, judged = some (refused fault) ∧
        performed = (some (refused fault), (Tuner.perform request device).2)) ∨
      (judged = none ∧ performed = performAll rest (Tuner.perform request device).2) := by
  by_cases hvalue : Exceeds value
  · refine .inl ⟨if_pos hvalue, ?_⟩
    simp only [performAll, perform, hdemands.request_eq, if_pos hvalue]
  · rcases hanswer : Tuner.perform request device with ⟨fault | ⟨⟩, next⟩
    · refine .inr (.inl ⟨fault, if_neg hvalue, ?_⟩)
      simp only [performAll, perform, hdemands.request_eq, if_neg hvalue, hanswer, hdemands.refused]
    · refine .inr (.inr ⟨if_neg hvalue, ?_⟩)
      simp only [performAll, perform, hdemands.request_eq, if_neg hvalue, hanswer,
        hdemands.accepted]

theorem ofArguments_eq (arguments : Arguments) :
    Setup.ofArguments arguments =
      (corrections arguments).map .attempt ++
        .sampleRate arguments.sampleRate :: .frequency arguments.frequency ::
          (tunings arguments).map .attempt := by
  unfold Setup.ofArguments corrections tunings
  split <;> split <;> rfl

/-- A setup ends with the verdict on the answers, and has made the requests until then. -/
theorem performAll_ofArguments (arguments : Arguments) (device : σ) :
    Setup.performAll (Setup.ofArguments arguments) device =
      (verdict arguments (answersOf arguments device),
        Device.after (requestsUntil arguments (verdict arguments (answersOf arguments device)))
          device) := by
  have hwhole : Device.after (requestsUntil arguments none) device =
      Device.after (demanded arguments) (Device.after (corrections arguments) device) :=
    Device.after_append ..
  have hcut : ∀ failure, Device.after (requestsUntil arguments (some failure)) device =
      Device.after ((demanded arguments).take failure.demands)
        (Device.after (corrections arguments) device) := fun _ => Device.after_append ..
  rw [ofArguments_eq, Setup.performAll_attempts]
  unfold verdict answersOf
  generalize Device.after (corrections arguments) device = corrected at hwhole hcut ⊢
  -- each of the two settings has a value that is too large, is refused, or is accepted
  rcases (Setup.demands_sampleRate arguments.sampleRate).performAll_cons
      (.frequency arguments.frequency :: (tunings arguments).map .attempt) corrected with
    ⟨hjudged, hperformed⟩ | ⟨fault, hjudged, hperformed⟩ | ⟨hjudged, hperformed⟩
  · rw [hjudged, hperformed, Option.some_or, hcut]
    rfl
  · rw [hjudged, hperformed, Option.some_or, hcut]
    rfl
  · rw [hjudged, hperformed, Option.none_or]
    rcases (Setup.demands_frequency arguments.frequency).performAll_cons
        ((tunings arguments).map .attempt)
        (Tuner.perform (.sampleRate (wordOf arguments.sampleRate)) corrected).2 with
      ⟨hjudged, hperformed⟩ | ⟨fault, hjudged, hperformed⟩ | ⟨hjudged, hperformed⟩
    · rw [hjudged, hperformed, hcut]
      rfl
    · rw [hjudged, hperformed, hcut]
      rfl
    · rw [hjudged, hperformed, hwhole, ← List.append_nil (List.map _ _),
        Setup.performAll_attempts]
      rfl

/-- What becomes of a session in its setup is decided by its arguments and two answers. -/
theorem prepare_eq (arguments : Arguments) (service : Service σ) :
    prepare arguments service =
      (placeAfter (verdict arguments (answersOf arguments service.device)),
        service.withWorld { service.relay.hub.world with
          device := Device.after
            (requestsUntil arguments (verdict arguments (answersOf arguments service.device)))
            service.device }) := by
  rw [prepare, start, pursue_iterate, performAll_ofArguments]

theorem requests_prepare (arguments : Arguments) (service : Service (Logged σ)) :
    (prepare arguments service).2.device.requests = service.device.requests ++
      requestsUntil arguments (verdict arguments (answersOf arguments service.device)) := by
  rw [prepare_eq]
  exact Logged.requests_after _ service.device

theorem placeAfter_eq_releasing_iff {failure? : Option Failure} {failure : Failure} :
    placeAfter failure? = .releasing failure ↔ failure? = some failure := by
  cases failure? with
  | none => exact iff_of_false nofun nofun
  | some other => exact ⟨fun hplace => by cases hplace; rfl, fun hsome => by cases hsome; rfl⟩

/-! ### The code that a setup fails with -/

/-- The bus has failed in a way that a lack of power explains. -/
def LacksPower (fault : Fault) : Prop := fault.usbCode? = some (-1) ∨ fault.usbCode? = some (-7)

theorem code_eq_notEnoughPower_iff (failure : Failure) :
    failure.code = .notEnoughPower ↔
      ∃ rate fault, failure = .sampleRateRefused rate fault ∧ LacksPower fault := by
  cases failure with
  | sampleRateRefused rate fault =>
      cases hcode : fault.usbCode? with
      | none => simp [Failure.code, LacksPower, hcode]
      | some code => simp [Failure.code, LacksPower, hcode, powerErrors, or_iff_not_imp_left]
  | _ => simp [Failure.code]

theorem code_sampleRateRefused (rate : UInt32) (fault : Fault) :
    (Failure.sampleRateRefused rate fault).code = .notEnoughPower ∨
      (Failure.sampleRateRefused rate fault).code = .wrongArguments := by
  simp only [Failure.code]
  cases fault.usbCode? with
  | none => exact .inr rfl
  | some code => exact ite_eq_or_eq ..

/-- No setup fails with another code. -/
theorem code_of_verdict {arguments : Arguments} {answers : Answers} {failure : Failure}
    (hverdict : verdict arguments answers = some failure) :
    failure.code = .notEnoughPower ∨ failure.code = .wrongArguments := by
  rcases Option.or_eq_some_iff.mp hverdict with hrate | ⟨-, hfrequency⟩
  · rcases eq_of_judge hrate with rfl | ⟨fault, rfl⟩
    · exact .inr rfl
    · exact code_sampleRateRefused _ fault
  · rcases eq_of_judge hfrequency with rfl | ⟨fault, rfl⟩ <;> exact .inr rfl

/-- **A setup fails where it must.** It fails just when sample rate or frequency do not fit a word or are
refused, with the first of these in that order. The code is the one for a lack of power just when a
rate is refused for it, and else that of wrong arguments. The requests are the correction if there is
one, rate, frequency, the kind of gain, the gain if it is manual, and a reset, up to what the setup
fails of. Two receivers that give the same answers to rate and frequency are asked the same and come
to the same end, whatever they answer to the rest. -/
theorem setup_fails_where_it_must (arguments : Arguments) (service : Service (Logged σ))
    (other : Service (Logged τ)) :
    let answers := answersOf arguments service.device
    let session := prepare arguments service
    session.1 = placeAfter (verdict arguments answers) ∧
      ((∃ failure, session.1 = .releasing failure) ↔
        Exceeds arguments.sampleRate ∨ (∃ fault, answers.rate = .error fault) ∨
          Exceeds arguments.frequency ∨ ∃ fault, answers.frequency = .error fault) ∧
      (∀ failure, session.1 = .releasing failure →
        (failure.code = .notEnoughPower ∨ failure.code = .wrongArguments) ∧
          (failure.code = .notEnoughPower ↔
            ∃ rate fault, failure = .sampleRateRefused rate fault ∧ LacksPower fault)) ∧
      session.2.device.requests =
        service.device.requests ++ requestsUntil arguments (verdict arguments answers) ∧
      (answersOf arguments other.device = answers →
        (prepare arguments other).1 = session.1 ∧
          (prepare arguments other).2.device.requests =
            other.device.requests ++ requestsUntil arguments (verdict arguments answers)) := by
  intro answers session
  have hplace : session.1 = placeAfter (verdict arguments answers) :=
    congrArg Prod.fst (prepare_eq arguments service)
  refine ⟨hplace, ?_, ?_, requests_prepare arguments service, ?_⟩
  · rw [← verdict_ne_none_iff, Option.ne_none_iff_exists', hplace]
    exact exists_congr fun failure => placeAfter_eq_releasing_iff
  · intro failure hfailure
    exact ⟨code_of_verdict (placeAfter_eq_releasing_iff.mp (hplace.symm.trans hfailure)),
      code_eq_notEnoughPower_iff failure⟩
  · intro hsame
    refine ⟨?_, ?_⟩
    · rw [hplace, prepare_eq, hsame]
    · rw [requests_prepare, hsame]

/-- What a request comes to that fails so, if it fails. -/
def answerOf : Option Fault → Except Fault Unit
  | some fault => .error fault
  | none => .ok ()

theorem faults_after (requests : List Request) (logged : Logged Recorder) :
    (Device.after requests logged).device.faults = logged.device.faults := by
  induction requests generalizing logged with
  | nil => rfl
  | cons request rest ih => exact (ih _).trans (logged.device.kept request).2.2

theorem answer_perform {request : Request} (logged : Logged Recorder) (hrequest : request ≠ .cancel) :
    (Tuner.perform request logged).1 = answerOf (logged.device.faults request) := by
  have hanswer : (logged.device.perform request).1 = answerOf (logged.device.faults request) := by
    cases request with
    | cancel => exact absurd rfl hrequest
    | _ =>
        simp only [Recorder.perform]
        split <;> rename_i hfault <;> rw [hfault] <;> rfl
  exact hanswer

/-- If faults are fixed beforehand, then only those of rate and frequency decide a setup. -/
theorem answersOf_recorder (arguments : Arguments) (logged : Logged Recorder) :
    answersOf arguments logged =
      { rate := answerOf (logged.device.faults (.sampleRate (wordOf arguments.sampleRate)))
        frequency := answerOf (logged.device.faults (.frequency (wordOf arguments.frequency))) } := by
  have hafter : ∀ (requests : List Request) (request : Request), request ≠ .cancel →
      (Tuner.perform request (Device.after requests logged)).1 =
        answerOf (logged.device.faults request) := by
    intro requests request hrequest
    rw [answer_perform _ hrequest, faults_after]
  have hfrequency := hafter (corrections arguments ++ [.sampleRate (wordOf arguments.sampleRate)])
    (.frequency (wordOf arguments.frequency)) nofun
  rw [Device.after_append] at hfrequency
  exact congrArg₂ Answers.mk (hafter (corrections arguments) _ nofun) hfrequency

/-- A receiver that fails these requests so, before its first session. -/
def served (faults : Request → Option Fault) : Service (Logged Recorder) :=
  .ofDevice { device := { gains := [0, 100], number := 5, faults } }

def timesOut : Request → Option Fault
  | .sampleRate _ => some (.usb (-7))
  | _ => none

/-- The same, and whatever a setup only attempts fails too. -/
def takesFrequency : Request → Option Fault
  | .sampleRate _ => some (.usb (-7))
  | .frequency _ => none
  | _ => some (.usb (-9))

/-- Automatic gain and no correction. -/
def plainArguments : Arguments :=
  { gain := 0, sampleRate := 2048000, frequency := 100000000, address := "127.0.0.1",
    port := 1234, ppm := 0 }

def correctedArguments : Arguments := { plainArguments with gain := 100, ppm := 3 }

theorem setup_fails_for_lack_of_power :
    answersOf correctedArguments (served takesFrequency).device =
        answersOf correctedArguments (served timesOut).device ∧
      (∃ failure, (prepare correctedArguments (served timesOut)).1 = .releasing failure ∧
        failure.code = .notEnoughPower) ∧
      (prepare correctedArguments (served takesFrequency)).1 =
        (prepare correctedArguments (served timesOut)).1 ∧
      (prepare correctedArguments (served takesFrequency)).2.device.requests =
        [.correction 3, .sampleRate 2048000] := by
  have hsame : answersOf correctedArguments (served takesFrequency).device =
      answersOf correctedArguments (served timesOut).device := by
    rw [answersOf_recorder, answersOf_recorder]
    rfl
  obtain ⟨hplace, -, hcode, -, htwo⟩ :=
    setup_fails_where_it_must correctedArguments (served timesOut) (served takesFrequency)
  obtain ⟨hend, hrequests⟩ := htwo hsame
  have hfailed : (prepare correctedArguments (served timesOut)).1 =
      .releasing (.sampleRateRefused 2048000 (.usb (-7))) := hplace.trans rfl
  exact ⟨hsame, ⟨_, hfailed, (hcode _ hfailed).2.mpr ⟨_, _, rfl, .inr rfl⟩⟩, hend, hrequests⟩

end TunerRelay.Session
