import TunerRelay.Arguments.Basic
import TunerRelay.Device.Request
import TunerRelay.Session.Failure

/-!
How the receiver is set up for a session: sample rate and frequency have to be accepted, while the
other settings are only attempted.
-/

namespace TunerRelay.Session

open TunerRelay.Device (Request Tuner)

inductive Setup where
  /-- A request whose failure does no harm. -/
  | attempt (request : Request)
  | sampleRate (rate : UInt64)
  | frequency (hertz : UInt64)
deriving DecidableEq, Repr

/-- The steps for these arguments, in order. A gain of zero is automatic gain. -/
def Setup.ofArguments (arguments : Arguments) : List Setup :=
  (if arguments.ppm = 0 then [] else [.attempt (.correction arguments.ppm)])
    ++ [.sampleRate arguments.sampleRate, .frequency arguments.frequency,
      .attempt (.gainMode (arguments.gain != 0))]
    ++ (if arguments.gain = 0 then [] else [.attempt (.gain arguments.gain)])
    ++ [.attempt .resetBuffer]

/-- The value as a word of 32 bits, if it fits. -/
def word? (value : UInt64) : Option UInt32 :=
  if value.toNat < UInt32.size then some (UInt32.ofNat value.toNat) else none

/-- The request that a step makes, unless its value does not fit. -/
def Setup.request : Setup → Except Failure Request
  | .attempt request => .ok request
  | .sampleRate rate =>
    match word? rate with
    | some word => .ok (.sampleRate word)
    | none => .error (.sampleRateOutOfRange rate)
  | .frequency hertz =>
    match word? hertz with
    | some word => .ok (.frequency word)
    | none => .error (.frequencyOutOfRange hertz)

/-- The failure of a session whose receiver gives this answer to a step. -/
def Setup.failure? : Setup → Except Device.Fault Unit → Option Failure
  | .attempt _, _ | _, .ok () => none
  | .sampleRate rate, .error fault =>
    some (.sampleRateRefused (UInt32.ofNat rate.toNat) fault)
  | .frequency hertz, .error fault =>
    some (.frequencyRefused (UInt32.ofNat hertz.toNat) fault)

/-- One step with this receiver, and the failure that the session meets in it. -/
def Setup.perform {σ : Type} [Tuner σ] (setup : Setup) (device : σ) : Option Failure × σ :=
  match setup.request with
  | .error failure => (some failure, device)
  | .ok request =>
    let (answer, device) := Tuner.perform request device
    (setup.failure? answer, device)

end TunerRelay.Session
