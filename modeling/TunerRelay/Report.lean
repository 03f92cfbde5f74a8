import TunerRelay.Arguments.Parse
import TunerRelay.Device.Fault
import TunerRelay.ExitCode

/-!
A failure as it is reported to the host: an exit code, and a message that says more.
-/

namespace TunerRelay

structure Report where
  code : ExitCode
  message : String
deriving DecidableEq, Repr

def Report.text (report : Report) : String := report.code.text ++ ": " ++ report.message

def Report.wrongArguments (message : String) : Report := { code := .wrongArguments, message }

def Arguments.Fault.report (fault : Arguments.Fault) : Report := .wrongArguments fault.message

def Device.Fault.report (fault : Device.Fault) : Report :=
  { code := fault.exitCode, message := fault.message }

end TunerRelay
