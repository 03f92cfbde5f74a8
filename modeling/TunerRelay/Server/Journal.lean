import TunerRelay.Log.Basic
import TunerRelay.Server.Basic

/-!
What the server writes to the log as it is opened, stopped and closed, told from the phases that it
is in.
-/

namespace TunerRelay.Server

def note (text : String) : Log.Entry := { level := .info, scope := .server, text }

/-- Staying in a phase is not mentioned. -/
def Phase.changeEntries (before after : Phase) : List Log.Entry :=
  if before = after then []
  else [note ("Server state " ++ before.text ++ " -> " ++ after.text)]

/-- The closing of a server that is in this phase. -/
def Phase.closingEntries (phase : Phase) : List Log.Entry :=
  if phase = .uninitialized then []
  else phase.changeEntries .uninitialized ++ [note ("Closing server from state " ++ phase.text)]

/-- A request to stop a server that is in this phase. -/
def Phase.stopEntries (phase : Phase) : List Log.Entry :=
  if phase = .uninitialized then [note "Stop requested but server already stopped"]
  else if phase.number < Phase.asyncStarted.number then
    note "Stop requested, closing now" :: phase.closingEntries
  else note "Stop requested, signalling workers" :: phase.changeEntries .stopping

/-- The first buffer is made, for the header. -/
def stagingEntries : List Log.Entry :=
  { level := .trace, scope := .pool
    text := "Buffer pool: allocated buffer 1 of " ++ toString bufferLimit }
    :: Phase.uninitialized.changeEntries .initialized

/-- The opening of a server at rest, up to its listening. -/
def openingEntries (endpoint : Net.Endpoint) : List Log.Entry :=
  stagingEntries ++ Phase.initialized.changeEntries .socketOpen
    ++ [note ("Listening on " ++ endpoint.text)]

/-- An opening that came to nothing. -/
def Fault.openingEntries (fault : Fault) : List Log.Entry :=
  let warning : Log.Entry :=
    { level := .warn, scope := .server
      text := "Closing server after failed open: " ++ fault.message }
  match fault with
  | .wrongPhase phase => warning :: phase.closingEntries
  | _ => stagingEntries ++ warning :: Phase.initialized.closingEntries

/-- The server begins to wait for a client. -/
def engagingEntries : List Log.Entry :=
  Phase.socketOpen.changeEntries .asyncStarted ++ [note "Waiting for client..."]

/-- The supervisor's last words but one, with the closing of a server that was told to stop. -/
def shutdownEntries : List Log.Entry :=
  note "Server shutting down" :: Phase.stopping.closingEntries

/-- The supervisor's last word. -/
def Counters.farewellEntry (counters : Counters) : Log.Entry :=
  note ("Server thread stopped. Sent: " ++ toString counters.sent ++ " bytes | Queued: "
    ++ toString counters.queued ++ " | Dropped: " ++ toString counters.dropped
    ++ " | Commands: " ++ toString counters.commands)

end TunerRelay.Server
