import TunerRelay.Device.Request
import TunerRelay.Receiver.Banner
import TunerRelay.Receiver.Settings
import TunerRelay.Text.Lines

/-!
A receiver that is driven through a command-line tool. Settings that the tool takes on its command
line are kept and take effect with its next start; a generation number counts their changes.
-/

namespace TunerRelay

structure Receiver where
  toolPath : String
  banner : Receiver.Banner
  settings : Receiver.Settings
  /-- Changes of the settings so far. -/
  generation : UInt64 := 0
  cancelled : Bool := false
  bytesCaptured : UInt64 := 0
  buffersProcessed : UInt64 := 0
  restarts : UInt64 := 0
deriving DecidableEq, Repr

namespace Receiver

open TunerRelay.Device (Request Fault)

def ofBanner (toolPath : String) (deviceIndex : UInt32) (banner : Banner) : Receiver :=
  { toolPath, banner, settings := { deviceIndex } }

/-- New settings move the generation only if they differ from the old ones. -/
def update (receiver : Receiver) (settings : Settings) : Receiver :=
  if settings = receiver.settings then receiver
  else { receiver with settings, generation := receiver.generation + 1 }

/-- Settings that a request leads to, or why it is refused. -/
def Settings.apply (settings : Settings) : Request → Except Fault Settings
  | .sampleRate rate =>
    if rate = 0 then .error (.invalidArgument "sample rate 0")
    else .ok { settings with sampleRate := rate }
  | .frequency hertz =>
    if hertz = 0 then .error (.invalidArgument "frequency 0")
    else .ok { settings with frequency := hertz }
  | .gainMode manual => .ok { settings with manualGain := manual }
  | .gain tenths => .ok { settings with gain := tenths }
  | .correction ppm => .ok { settings with ppm }
  | .stageGain _ _ => .error (.unsupported "IF gain")
  | .testMode _ => .error (.unsupported "test mode")
  | .automaticGain _ => .error (.unsupported "RTL AGC")
  | .directSampling _ => .error (.unsupported "direct sampling")
  | .offsetTuning _ => .error (.unsupported "offset tuning")
  | .crystals _ _ => .error (.unsupported "crystal frequency")
  | .resetBuffer | .stream | .cancel | .close => .ok settings

/-- Whether streaming is cancelled after a request. Resetting the buffer arms it anew. -/
def cancelledAfter (cancelled : Bool) : Request → Bool
  | .resetBuffer => false
  | .cancel | .close => true
  | _ => cancelled

def perform (request : Request) (receiver : Receiver) : Except Fault Unit × Receiver :=
  match receiver.settings.apply request with
  | .error fault => (.error fault, receiver)
  | .ok settings =>
    (.ok (),
      { receiver.update settings with cancelled := cancelledAfter receiver.cancelled request })

instance : Device.Tuner Receiver where
  gains receiver := receiver.banner.gains
  number receiver := receiver.banner.tuner
  perform := perform

/-- Why the tool cannot be started. -/
def cannotStart (toolPath reason : String) : Fault :=
  .process ("failed to spawn " ++ toolPath ++ ": " ++ reason)

/-- What the tool does when it is run: it prints a banner, or there is no such tool. -/
inductive ProbeRun where
  | printed (stream : List UInt8)
  | notStarted (reason : String)
deriving DecidableEq, Repr

/-- A receiver behind the tool, unless the tool says that there is none. -/
def probe (toolPath : String) (deviceIndex : UInt32) : ProbeRun → Except Fault Receiver
  | .notStarted reason => .error (cannotStart toolPath reason)
  | .printed stream =>
    let banner := Banner.ofLines (Text.lines stream)
    if banner.noDevices then .error .noDevices else .ok (ofBanner toolPath deviceIndex banner)

end Receiver

end TunerRelay
