/-!
The result that a session, and in the end the program, reports to whoever started it.
-/

namespace TunerRelay

inductive ExitCode where
  | ok
  | wrongArguments
  | invalidFileDescriptor
  | noDevicesFound
  | failedToOpenDevice
  | cannotRestart
  | cannotClose
  | unknown
  | signalCaught
  | notEnoughPower
  | platformNotSupported
deriving DecidableEq, Repr

def ExitCode.number : ExitCode → Int32
  | .ok => 0
  | .wrongArguments => 1
  | .invalidFileDescriptor => 2
  | .noDevicesFound => 3
  | .failedToOpenDevice => 4
  | .cannotRestart => 5
  | .cannotClose => 6
  | .unknown => 7
  | .signalCaught => 8
  | .notEnoughPower => 9
  | .platformNotSupported => 10

/-- Every code, by ascending number. -/
def ExitCode.all : List ExitCode :=
  [.ok, .wrongArguments, .invalidFileDescriptor, .noDevicesFound, .failedToOpenDevice,
    .cannotRestart, .cannotClose, .unknown, .signalCaught, .notEnoughPower, .platformNotSupported]

def ExitCode.ofNumber? (number : Int32) : Option ExitCode :=
  all.find? fun code => code.number == number

@[simp]
theorem ExitCode.ofNumber?_number (code : ExitCode) : ofNumber? code.number = some code := by
  cases code <;> rfl

/-- Sorts a driver's return code. A number that is an exit code stands for itself; the negative ones
are bus errors, grouped by what the user can do about them. -/
def ExitCode.ofUsb (code : Int32) : ExitCode :=
  match ofNumber? code with
  | some exit => exit
  | none =>
    if code ∈ [-1, -4, -5, -7, -8, -12] then .noDevicesFound
    else if code = -3 then .invalidFileDescriptor
    else if code = -6 then .failedToOpenDevice
    else .unknown

def ExitCode.description : ExitCode → String
  | .ok => "ok"
  | .wrongArguments => "wrong arguments"
  | .invalidFileDescriptor => "invalid file descriptor or permission denied"
  | .noDevicesFound => "no devices found"
  | .failedToOpenDevice => "failed to open device"
  | .cannotRestart => "cannot restart"
  | .cannotClose => "cannot close"
  | .unknown => "unknown error"
  | .signalCaught => "signal caught"
  | .notEnoughPower => "not enough power for the device"
  | .platformNotSupported => "platform not supported"

def ExitCode.text (code : ExitCode) : String :=
  code.description ++ " (" ++ toString code.number ++ ")"

end TunerRelay
