import TunerRelay.ExitCode

/-!
Why an operation on a receiver failed, and how that is reported.
-/

namespace TunerRelay.Device

inductive Fault where
  | usb (code : Int32)
  | noDevices
  | unsupported (feature : String)
  | invalidArgument (what : String)
  | process (what : String)
  | io (what : String)
deriving DecidableEq, Repr

def Fault.message : Fault → String
  | .usb code => "usb error " ++ toString code
  | .noDevices => "no supported devices found"
  | .unsupported feature => feature ++ " is not supported by this device"
  | .invalidArgument what => "invalid argument: " ++ what
  | .process what => "device process failed: " ++ what
  | .io what => "io error: " ++ what

/-- The code of a failure that came from the bus. -/
def Fault.usbCode? : Fault → Option Int32
  | .usb code => some code
  | .noDevices => some (-4)
  | _ => none

def Fault.exitCode : Fault → ExitCode
  | .usb code => .ofUsb code
  | .noDevices => .noDevicesFound
  | .unsupported _ | .invalidArgument _ => .wrongArguments
  | .process _ | .io _ => .failedToOpenDevice

end TunerRelay.Device
