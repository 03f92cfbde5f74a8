import TunerRelay.Device.Request
import TunerRelay.Tuner.Gain
import TunerRelay.Wire.Command

/-!
What a command comes to at a receiver: at most one request, or the end of the session.
-/

namespace TunerRelay.Adapter

open TunerRelay.Device (Request)
open TunerRelay.Tuner (gainIndex?)
open TunerRelay.Wire (Command Record)

inductive Reaction where
  | request (request : Request)
  /-- The server is to stop. -/
  | stop
  | nothing
deriving DecidableEq, Repr

/-- Setting the gain to an entry of the table, if there is one at that position. -/
def Reaction.ofGainAt (gains : List Int32) (index : Nat) : Reaction :=
  match gains[index]? with
  | some tenths => .request (.gain tenths)
  | none => .nothing

def Reaction.ofPercentage (gains : List Int32) (percent : UInt32) : Reaction :=
  match gainIndex? percent (UInt64.ofNat gains.length) with
  | some index => .ofGainAt gains index.toNat
  | none => .nothing

/-- The reaction of a receiver with this gain table. -/
def Reaction.ofCommand (gains : List Int32) : Command → Reaction
  | .frequency hertz => .request (.frequency hertz)
  | .sampleRate rate => .request (.sampleRate rate)
  | .gainMode mode => .request (.gainMode (mode != 0))
  | .gain tenths => .request (.gain tenths)
  | .correction ppm => .request (.correction ppm)
  | .stageGain stage tenths => .request (.stageGain stage tenths)
  | .testMode on => .request (.testMode on)
  | .automaticGain on => .request (.automaticGain on)
  | .directSampling mode => .request (.directSampling mode)
  | .offsetTuning on => .request (.offsetTuning on)
  | .crystal hertz => .request (.crystals hertz 0)
  | .tunerCrystal hertz => .request (.crystals 0 hertz)
  | .gainByIndex index => .ofGainAt gains index.toNat
  | .exit => .stop
  | .gainByPercentage percent => .ofPercentage gains percent

def Reaction.ofRecord (gains : List Int32) (record : Record) : Reaction :=
  match record.command? with
  | some command => .ofCommand gains command
  | none => .nothing

end TunerRelay.Adapter
