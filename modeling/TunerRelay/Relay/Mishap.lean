import TunerRelay.Relay.Hub

/-!
What may go wrong with a connection, and which of it is worth another try.
-/

namespace TunerRelay.Relay

inductive Mishap.Kind where
  | wouldBlock
  | timedOut
  | interrupted
  | other
deriving DecidableEq, Repr

def Mishap.Kind.isRetryable : Mishap.Kind → Bool
  | .wouldBlock | .timedOut | .interrupted => true
  | .other => false

structure Mishap where
  kind : Mishap.Kind
  reason : String
deriving DecidableEq, Repr

/-- How a thread hears of a mishap. What can be tried again is no news. -/
def Signal.ofMishap (mishap : Mishap) : Signal :=
  if mishap.kind.isRetryable then .nothing else .failure mishap.reason

end TunerRelay.Relay
