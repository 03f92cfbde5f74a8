import TunerRelay.Net.Address
import TunerRelay.Server.Phase

/-!
Why the server could not be opened or begin to serve.
-/

namespace TunerRelay.Server

inductive Fault where
  | wrongPhase (phase : Phase)
  | invalidAddress (address : String)
  | bind (endpoint : Net.Endpoint) (reason : String)
  | socket (reason : String)
  | thread (reason : String)
deriving DecidableEq, Repr

/-- The thread that waits for a client and sends to it. -/
def threadName : String := "rtltcp-server"

def Fault.message : Fault → String
  | .wrongPhase phase => "operation not valid in state " ++ phase.text
  | .invalidAddress address => "invalid bind address '" ++ address ++ "'"
  | .bind endpoint reason => "failed to listen on " ++ endpoint.text ++ ": " ++ reason
  | .socket reason => "failed to configure listener: " ++ reason
  | .thread reason => "failed to spawn " ++ threadName ++ " thread: " ++ reason

end TunerRelay.Server
