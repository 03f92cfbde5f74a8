import TunerRelay.Decimal.Shortest

/-!
The settings that a capture is started with, and the command line that says so to the capture tool.
-/

namespace TunerRelay.Receiver

structure Settings where
  deviceIndex : UInt32 := 0
  frequency : UInt32 := 100000000
  sampleRate : UInt32 := 2048000
  manualGain : Bool := false
  /-- Tenths of a decibel. -/
  gain : Int32 := 0
  ppm : Int32 := 0
deriving DecidableEq, Repr

/-- Tenths of a decibel as a number of decibels. -/
def decibels (tenths : Int32) : Decimal.Single := (Decimal.Single.ofInt tenths.toInt).overTen

/-- Without a gain the tool chooses it, and a correction of zero is not mentioned. The samples go to
standard output. -/
def Settings.toolArguments (settings : Settings) : List String :=
  ["-d", toString settings.deviceIndex, "-f", toString settings.frequency,
    "-s", toString settings.sampleRate]
    ++ (if settings.manualGain then ["-g", String.ofList (decibels settings.gain).shortest] else [])
    ++ (if settings.ppm = 0 then [] else ["-p", toString settings.ppm])
    ++ ["-"]

/-- The command line of a run that only prints the banner. -/
def probeArguments (deviceIndex : UInt32) : List String :=
  ["-d", toString deviceIndex, "-n", "1", "-"]

end TunerRelay.Receiver
