import TunerRelay.Device.Request

/-!
A receiver that records what is asked of it and fails as it is told to.
-/

namespace TunerRelay.Device

structure Recorder where
  gains : List Int32
  number : UInt32
  faults : Request → Option Fault
  /-- Requests since the record was last read, cancellations apart. -/
  requests : List Request := []
  /-- Cancellations since then. -/
  cancels : Nat := 0

/-- Requests that fail are recorded too. Cancellations are counted and never fail. -/
def Recorder.perform (request : Request) (recorder : Recorder) : Except Fault Unit × Recorder :=
  match request with
  | .cancel => (.ok (), { recorder with cancels := recorder.cancels + 1 })
  | request =>
    let recorded := { recorder with requests := recorder.requests ++ [request] }
    match recorder.faults request with
    | some fault => (.error fault, recorded)
    | none => (.ok (), recorded)

/-- The record, emptied. -/
def Recorder.forget (recorder : Recorder) : Recorder :=
  { recorder with requests := [], cancels := 0 }

instance : Tuner Recorder where
  gains := Recorder.gains
  number := Recorder.number
  perform := Recorder.perform

end TunerRelay.Device
