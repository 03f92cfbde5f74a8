import TunerRelay.Configuration
import TunerRelay.Receiver.Basic
import TunerRelay.Server.Journal
import TunerRelay.Session.Journal

/-!
What the program writes to the log, part by part.
-/

namespace TunerRelay.Program

open TunerRelay.Log (Entry)

def note (text : String) : Entry := { level := .info, scope := .program, text }

def complaint (text : String) : Entry := { level := .error, scope := .program, text }

def rule : String := "==========================================="

def titleEntries : List Entry :=
  [rule, "   rtl-tcp server", "   RTL-SDR IQ streaming over TCP", rule].map note

def toolEntries (configuration : Configuration) : List Entry :=
  ["Configuration:", "  rtl_sdr path: " ++ configuration.toolPath,
    "  Device index: " ++ toString configuration.deviceIndex].map note

/-- Zero is automatic gain. -/
def gainText (tenths : Int32) : String :=
  if tenths = 0 then "auto" else Session.decibelText tenths

def argumentEntries (arguments : Arguments) : List Entry :=
  ["  Listen: " ++ arguments.address ++ ":" ++ toString arguments.port,
    "  Frequency: " ++ toString arguments.frequency ++ " Hz",
    "  Sample rate: " ++ toString arguments.sampleRate ++ " S/s",
    "  Gain: " ++ gainText arguments.gain, "  PPM error: " ++ toString arguments.ppm].map note

/-! The receiver. -/

def receiverNote (text : String) : Entry := { level := .info, scope := .receiver, text }

/-- How the line begins that announces the probe. -/
def probeOpening : String := "Probing RTL-SDR"

/-- Whether an entry announces that the receiver is probed. -/
def announcesProbe (entry : Entry) : Bool :=
  probeOpening.toList.isPrefixOf entry.text.toList

def probeEntry (toolPath : String) (deviceIndex : UInt32) : Entry :=
  receiverNote (probeOpening ++ " device " ++ toString deviceIndex ++ " via " ++ toolPath)

/-- The banner, line by line. -/
def bannerEntries : Receiver.ProbeRun → List Entry
  | .notStarted _ => []
  | .printed stream =>
    (Text.lines stream).map fun line =>
      { level := .debug, scope := .receiver, text := "[rtl_sdr probe] " ++ line }

def foundEntries (banner : Receiver.Banner) : List Entry :=
  (banner.deviceName.toList.map fun name => receiverNote ("  Device: " ++ name))
    ++ [receiverNote ("  Tuner: " ++ banner.tunerName.getD "unknown" ++ " (type "
      ++ toString banner.tuner ++ "), " ++ toString banner.gains.length ++ " gain steps")]

def probeAdvice : String :=
  "Make sure the RTL-SDR device is connected and rtl_sdr is installed."

def quoted (text : String) : String := "\"" ++ text ++ "\""

/-- The start of a capture. -/
def captureEntries (receiver : Receiver) : List Entry :=
  let command := receiver.toolPath :: receiver.settings.toolArguments
  [receiverNote ("Executing: " ++ String.intercalate " " (command.map quoted)),
    receiverNote ("IQ capture started: " ++ toString receiver.settings.frequency ++ " Hz @ "
      ++ toString receiver.settings.sampleRate ++ " S/s")]

def captureEndEntry (receiver : Receiver) : Entry :=
  receiverNote ("IQ capture stopped. Bytes: " ++ toString receiver.bytesCaptured
    ++ " | Buffers: " ++ toString receiver.buffersProcessed)

/-! Sessions. -/

def readyEntry : Entry := note "Ready, waiting for a client. Press Ctrl+C to stop."

/-- A signal comes while the server waits for a client: the session is closed, and streaming ends. -/
def signalEntries (receiver : Receiver) : List Entry :=
  note "Signal caught, exiting" :: Session.note "Close requested"
    :: Server.Phase.asyncStarted.stopEntries ++ Server.shutdownEntries ++ [captureEndEntry receiver]

/-- Streaming has ended, and the adapter is deactivated. -/
def streamedEntries : List Entry :=
  [Session.note "Device streaming finished",
    { level := .debug, scope := .adapter, text := "Device adapter deactivated" }]

/-- The release of a server that still waits for a client, or that a signal has stopped. -/
def releaseEntries (interrupted : Bool) (counters : Server.Counters) : List Entry :=
  (if interrupted then Server.Phase.uninitialized.stopEntries
    else Server.Phase.asyncStarted.stopEntries ++ Server.shutdownEntries)
    ++ [counters.farewellEntry]

/-- The session is over. -/
def resultEntries : Except Session.Failure Unit → List Entry
  | .ok () => [note "Session closed"]
  | .error failure =>
    failure.entries
      ++ [{ level := .warn, scope := .program, text := "Session closed: " ++ failure.code.text }]

/-- The last entry of all. -/
def farewellEntry (counters : Server.Counters) : Entry :=
  note ("Shutdown complete. Clients: " ++ toString counters.clients ++ " | Sent: "
    ++ toString counters.sent ++ " bytes | Dropped chunks: " ++ toString counters.dropped)

end TunerRelay.Program
