import TunerRelay.Device.Fault

/-!
The operations that the relay asks of a receiver, and what a receiver is to it.
-/

namespace TunerRelay.Device

inductive Request where
  | sampleRate (rate : UInt32)
  | frequency (hertz : UInt32)
  /-- Automatic gain unless manual. -/
  | gainMode (manual : Bool)
  /-- Tenths of a decibel. -/
  | gain (tenths : Int32)
  | correction (ppm : Int32)
  | stageGain (stage : UInt16) (tenths : Int16)
  | testMode (on : Bool)
  | automaticGain (on : Bool)
  | directSampling (mode : UInt32)
  | offsetTuning (on : Bool)
  /-- A frequency of zero leaves that crystal as it is. -/
  | crystals (receiver tuner : UInt32)
  | resetBuffer
  /-- Deliver samples until cancelled. -/
  | stream
  | cancel
  | close
deriving DecidableEq, Repr

/-- A receiver: what it tells about its tuner, and how it answers requests. -/
class Tuner (σ : Type) where
  gains : σ → List Int32
  number : σ → UInt32
  perform : Request → σ → Except Fault Unit × σ

end TunerRelay.Device
