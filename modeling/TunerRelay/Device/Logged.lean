import TunerRelay.Device.Request

/-!
A receiver with a record of all that was asked of it.
-/

namespace TunerRelay.Device

structure Logged (σ : Type) where
  device : σ
  /-- All requests so far, in order. -/
  requests : List Request := []

variable {σ : Type} [Tuner σ]

/-- Requests that fail are recorded, too. -/
def Logged.perform (request : Request) (logged : Logged σ) : Except Fault Unit × Logged σ :=
  let (answer, device) := Tuner.perform request logged.device
  (answer, { device, requests := logged.requests ++ [request] })

instance : Tuner (Logged σ) where
  gains logged := Tuner.gains logged.device
  number logged := Tuner.number logged.device
  perform := Logged.perform

end TunerRelay.Device
