import TunerRelay.Log.Basic
import TunerRelay.Report
import TunerRelay.Server.Fault

/-!
Why a session failed, and how that is reported.
-/

namespace TunerRelay.Session

inductive Failure where
  | sampleRateOutOfRange (rate : UInt64)
  | sampleRateRefused (rate : UInt32) (fault : Device.Fault)
  | frequencyOutOfRange (hertz : UInt64)
  | frequencyRefused (hertz : UInt32) (fault : Device.Fault)
  | notOpened (fault : Server.Fault)
  | notServed (fault : Server.Fault)
  | streaming (fault : Device.Fault)
deriving DecidableEq, Repr

/-- Bus errors that come from a lack of power when a sample rate is set. -/
def powerErrors : List Int32 := [-1, -7]

def Failure.code : Failure → ExitCode
  | .sampleRateRefused _ fault =>
    match fault.usbCode? with
    | some code => if code ∈ powerErrors then .notEnoughPower else .wrongArguments
    | none => .wrongArguments
  | .sampleRateOutOfRange _ | .frequencyOutOfRange _ | .frequencyRefused _ _ | .notOpened _ =>
    .wrongArguments
  | .notServed _ | .streaming _ => .unknown

def Failure.message : Failure → String
  | .sampleRateOutOfRange rate => "sample rate " ++ toString rate ++ " out of range"
  | .frequencyOutOfRange hertz => "frequency " ++ toString hertz ++ " out of range"
  | .sampleRateRefused _ fault | .frequencyRefused _ fault => fault.message
  | .notOpened fault | .notServed fault => fault.message
  | .streaming fault => "streaming failed: " ++ fault.message

def Failure.report (failure : Failure) : Report :=
  { code := failure.code, message := failure.message }

/-- The exit code of a session. -/
def exitCode : Except Failure Unit → ExitCode
  | .ok () => .ok
  | .error failure => failure.code

/-- What is logged of a failure. A value that the receiver refuses has an entry of its own. -/
def Failure.entries (failure : Failure) : List Log.Entry :=
  let refusal := match failure with
    | .sampleRateRefused rate fault =>
      ["Failed to set sample rate to " ++ toString rate ++ ": " ++ fault.message]
    | .frequencyRefused hertz fault =>
      ["Failed to set frequency to " ++ toString hertz ++ ": " ++ fault.message]
    | _ => []
  (refusal ++ ["Session failed: " ++ failure.report.text]).map fun text =>
    { level := .error, scope := .session, text }

end TunerRelay.Session
