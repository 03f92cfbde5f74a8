import TunerRelay.Receiver.Capture

/-!
Captures with a tool that keeps to a script: each run prints one line and ends. While a line is
handed on, requests are made of the receiver, a list of them for each line.
-/

namespace TunerRelay.Receiver

open TunerRelay.Device (Request Fault)

/-- How the tool behaves. -/
inductive Tool where
  /-- Each run prints its arguments as one line and ends. -/
  | talkative
  /-- Each run ends without printing anything. -/
  | silent
  /-- A run prints nothing and goes on until streaming is cancelled from elsewhere. -/
  | hanging
  | missing (reason : String)
deriving DecidableEq, Repr

/-- The line that a run prints: its arguments between spaces. -/
def outputLine (settings : Settings) : String :=
  String.intercalate " " settings.toolArguments ++ "\n"

/-- A run of the tool that printed something, and what was asked of the receiver meanwhile. -/
structure Run where
  output : String
  answers : List (Except Fault Unit)

/-- Requests made one after another, with the answers in order. -/
def performAll : List Request → Receiver → List (Except Fault Unit) × Receiver
  | [], receiver => ([], receiver)
  | request :: rest, receiver =>
    let (answer, receiver) := receiver.perform request
    let (answers, receiver) := performAll rest receiver
    (answer :: answers, receiver)

/-- A capture under way with what is left of the script. -/
structure Scripted where
  capture : Capture
  requests : List (List Request)
  /-- Whether the present run has printed its line. -/
  printed : Bool := false
  runs : List Run := []

namespace Scripted

def signal (tool : Tool) (scripted : Scripted) : Signal :=
  match scripted.capture.place, tool with
  | .launching _, .missing reason => .notStarted reason
  | .launching _, _ => .started
  | .reading _ settings, .talkative =>
    if scripted.printed then .endOfOutput else .chunk (outputLine settings).utf8ByteSize
  | .reading _ _, _ => .endOfOutput
  | _, _ => .silence

/-- One step of the loop with the tool's part in it, and the requests of a line that is handed on. A
hanging tool is cancelled once the loop waits for it. -/
def step (tool : Tool) (scripted : Scripted) : Scripted :=
  let capture := scripted.capture.step (scripted.signal tool)
  match scripted.capture.place, tool with
  | .launching _, _ => { scripted with capture, printed := false }
  | .reading _ _, .hanging =>
    { scripted with
      capture := { capture with receiver := (capture.receiver.perform .cancel).2 } }
  | .delivering _ settings, _ =>
    let (answers, receiver) := performAll (scripted.requests.headD []) capture.receiver
    { capture := { capture with receiver }
      requests := scripted.requests.tail
      printed := true
      runs := scripted.runs ++ [{ output := outputLine settings, answers }] }
  | _, _ => { scripted with capture }

/-- The steps that one run of the tool takes at most. -/
def stepsPerRun : Nat := 12

def steps (tool : Tool) : Nat → Scripted → Scripted
  | 0, scripted => scripted
  | count + 1, scripted => steps tool count (scripted.step tool)

/-- The capture to its end. Every run but the last uses up a list of requests that changed the
settings, so there is at most one run more than there are lists. -/
def run (tool : Tool) (requests : List (List Request)) (receiver : Receiver) : Scripted :=
  steps tool (stepsPerRun * (requests.length + 1)) { capture := .start receiver, requests }

/-- The capture to its end, while somebody else cancels streaming: once a hanging tool is waited for,
or else when the capture is over. -/
def runCancelled (tool : Tool) (requests : List (List Request)) (receiver : Receiver) : Scripted :=
  let scripted := run tool requests receiver
  let receiver := (scripted.capture.receiver.perform .cancel).2
  { scripted with capture := { scripted.capture with receiver } }

def result? (scripted : Scripted) : Option (Except Fault Unit) :=
  match scripted.capture.place with
  | .finished result => some result
  | _ => none

end Scripted

end TunerRelay.Receiver
