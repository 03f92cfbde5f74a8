import TunerRelay.Receiver.Basic

/-!
The capture loop: it starts the tool, hands on what the tool prints, and starts it again when the
settings have changed. Each step reads or writes one of the receiver's cells, so that requests from
elsewhere may fall between any two of them.
-/

namespace TunerRelay.Receiver

open TunerRelay.Device (Fault)

/-- Where the capture loop stands. -/
inductive Place where
  /-- About to look whether streaming is cancelled, and to start the tool if not. -/
  | starting
  /-- About to note the generation. -/
  | sampling
  /-- About to start the tool with the settings then in force. -/
  | launching (generation : UInt64)
  /-- The tool runs with these settings; about to look whether streaming is cancelled. -/
  | running (generation : UInt64) (settings : Settings)
  /-- About to compare the generation with the one noted. -/
  | comparing (generation : UInt64) (settings : Settings)
  /-- About to read what the tool prints. -/
  | reading (generation : UInt64) (settings : Settings)
  /-- About to hand on a chunk. -/
  | delivering (generation : UInt64) (settings : Settings)
  /-- The output has ended; about to look whether streaming is cancelled. -/
  | drained (generation : UInt64) (settings : Settings)
  /-- The output has ended and nobody cancelled; about to compare the generation. -/
  | judging (generation : UInt64) (settings : Settings)
  | finished (result : Except Fault Unit)

/-- What the tool contributes to a step. -/
inductive Signal where
  | silence
  | started
  | notStarted (reason : String)
  | chunk (size : Nat)
  | endOfOutput
  /-- The read was interrupted, which is no failure. -/
  | interrupted
  | readFailed (what : String)
deriving DecidableEq, Repr

structure Capture where
  place : Place
  receiver : Receiver

namespace Capture

def outputClosed : Fault := .process "rtl_sdr stdout closed"

def start (receiver : Receiver) : Capture := { place := .starting, receiver }

def goTo (capture : Capture) (place : Place) : Capture := { capture with place }

def countChunk (receiver : Receiver) (size : Nat) : Receiver :=
  { receiver with
    bytesCaptured := receiver.bytesCaptured + UInt64.ofNat size
    buffersProcessed := receiver.buffersProcessed + 1 }

def countRestart (receiver : Receiver) : Receiver :=
  { receiver with restarts := receiver.restarts + 1 }

/-- One step. Where the loop waits for the tool, only a fitting signal moves it. -/
def step (signal : Signal) (capture : Capture) : Capture :=
  let receiver := capture.receiver
  match capture.place with
  | .starting =>
    if receiver.cancelled then capture.goTo (.finished (.ok ())) else capture.goTo .sampling
  | .sampling => capture.goTo (.launching receiver.generation)
  | .launching generation =>
    match signal with
    | .started => capture.goTo (.running generation receiver.settings)
    | .notStarted reason =>
      capture.goTo (.finished (.error (cannotStart receiver.toolPath reason)))
    | _ => capture
  | .running generation settings =>
    if receiver.cancelled then capture.goTo (.finished (.ok ()))
    else capture.goTo (.comparing generation settings)
  | .comparing generation settings =>
    if receiver.generation ≠ generation then
      { place := .starting, receiver := countRestart receiver }
    else capture.goTo (.reading generation settings)
  | .reading generation settings =>
    match signal with
    | .chunk size =>
      { place := .delivering generation settings, receiver := countChunk receiver size }
    | .endOfOutput => capture.goTo (.drained generation settings)
    | .interrupted => capture.goTo (.running generation settings)
    | .readFailed what => capture.goTo (.finished (.error (.io what)))
    | _ => capture
  | .delivering generation settings => capture.goTo (.running generation settings)
  | .drained generation settings =>
    if receiver.cancelled then capture.goTo (.finished (.ok ()))
    else capture.goTo (.judging generation settings)
  | .judging generation settings =>
    if receiver.generation ≠ generation then capture.goTo (.running generation settings)
    else capture.goTo (.finished (.error outputClosed))
  | .finished _ => capture

end Capture

end TunerRelay.Receiver
