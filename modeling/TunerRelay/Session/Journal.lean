import TunerRelay.Receiver.Settings
import TunerRelay.Session.Setup

/-!
What a session writes to the log while it sets the receiver up.
-/

namespace TunerRelay.Session

open TunerRelay.Device (Request Tuner)

def note (text : String) : Log.Entry := { level := .info, scope := .session, text }

/-- Tenths of a decibel with one place after the point. -/
def decibelText (tenths : Int32) : String :=
  String.ofList (Receiver.decibels tenths).oneDecimal ++ " dB"

/-- What was attempted in vain. -/
def vainAttempt : Request → String
  | .correction ppm => "Failed to set ppm to " ++ toString ppm
  | .gainMode true => "Failed to enable manual gain"
  | .gainMode false => "Failed to enable automatic gain"
  | .gain _ => "Failed to set tuner gain"
  | _ => "Failed to reset buffers"

/-- What is logged of a step of the set-up that does not fail the session. -/
def Setup.entries (setup : Setup) (answer : Except Device.Fault Unit) : List Log.Entry :=
  match setup, answer with
  | .sampleRate rate, _ => [note ("Set sample rate to " ++ toString rate)]
  | .attempt (.gain tenths), .ok () => [note ("Tuner gain set to " ++ decibelText tenths)]
  | .attempt request, .error fault =>
    [{ level := .warn, scope := .session, text := vainAttempt request ++ ": " ++ fault.message }]
  | _, _ => []

/-- What is logged of these steps with this receiver, up to one that fails the session. -/
def setupEntries {σ : Type} [Tuner σ] : List Setup → σ → List Log.Entry
  | [], _ => []
  | setup :: rest, device =>
    match setup.request with
    | .error _ => []
    | .ok request =>
      let (answer, device) := Tuner.perform request device
      if (setup.failure? answer).isSome then []
      else setup.entries answer ++ setupEntries rest device

end TunerRelay.Session
