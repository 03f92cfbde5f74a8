import TunerRelay.Relay.Traffic
import TunerRelay.Session.Basic

/-!
Sessions on any receiver, one after another, as their host sees them. The thread that runs them, the
server's workers, the samples that the receiver delivers and any number of threads that ask to close
take steps in any order, one at a time.
-/

namespace TunerRelay.Session

open TunerRelay.Device (Tuner Request)
open TunerRelay.Relay (Call Worker)

/-- What the parts of a session have come to so far. -/
structure Outcomes where
  configured : Option (Except Failure Unit) := none
  opened : Option (Except Server.Fault Unit) := none
  served : Option (Except Server.Fault Unit) := none
  streamed : Option (Except Device.Fault Unit) := none

namespace Outcomes

/-- What a step of the session comes to, by the answers it gets. -/
def note {σ : Type} [Tuner σ] (signal : Signal) (place : Place) (service : Service σ)
    (outcomes : Outcomes) : Outcomes :=
  match place with
  | .configuring [] => { outcomes with configured := some (.ok ()) }
  | .configuring (setup :: _) =>
    match (setup.perform service.device).1 with
    | some failure => { outcomes with configured := some (.error failure) }
    | none => outcomes
  | .opening call =>
    match (stepCall signal call service).1 with
    | .returned (.opened result) => { outcomes with opened := some result }
    | _ => outcomes
  | .engaging _ call =>
    match (stepCall signal call service).1 with
    | .returned (.serving result) => { outcomes with served := some result }
    | _ => outcomes
  | .starting _ =>
    match (service.request .stream).1 with
    | .error fault => { outcomes with streamed := some (.error fault) }
    | .ok () => outcomes
  | .streaming _ =>
    match signal with
    | .streamed result => { outcomes with streamed := some result }
    | .outside _ => outcomes
  | _ => outcomes

/-- The receiver was set up, the socket was opened and the server agreed to serve. -/
def isReady (outcomes : Outcomes) : Bool :=
  match outcomes.configured, outcomes.opened, outcomes.served with
  | some (.ok ()), some (.ok ()), some (.ok ()) => true
  | _, _, _ => false

/-- The result of a session whose parts came to this: that of the first that failed. -/
def result? (outcomes : Outcomes) : Option (Except Failure Unit) :=
  match outcomes.configured, outcomes.opened, outcomes.served, outcomes.streamed with
  | some (.error failure), _, _, _ => some (.error failure)
  | some (.ok ()), some (.error fault), _, _ => some (.error (.notOpened fault))
  | some (.ok ()), some (.ok ()), some (.error fault), _ => some (.error (.notServed fault))
  | some (.ok ()), some (.ok ()), some (.ok ()), some streamed => some (resultOf streamed)
  | _, _, _, _ => none

end Outcomes

structure Hosting (σ : Type) where
  service : Service σ
  /-- Where the latest session stands, and the arguments that it was begun with. -/
  session : Option (Arguments × Place) := none
  outcomes : Outcomes := {}
  /-- Calls of others than the session's thread, in the order in which they began. -/
  calls : List Call := []

namespace Hosting

inductive Move where
  /-- A session begins, unless one is running. -/
  | begin (arguments : Arguments)
  /-- The session's thread takes a step. -/
  | advance (signal : Signal)
  | work (worker : Worker) (signal : Relay.Signal)
  /-- Somebody asks to close. The server is then stopped by a call. -/
  | close
  /-- The receiver delivers samples. -/
  | feed (bytes : List UInt8)
  | resume (call : Nat) (signal : Relay.Signal)
  /-- Samples were not wanted, so streaming is cancelled. -/
  | cancel

variable {σ : Type} [Tuner σ]

def atRest (device : σ) : Hosting σ := { service := .ofDevice device }

def device (hosting : Hosting σ) : σ := hosting.service.device

def relay (hosting : Hosting σ) : Relay (Adapters σ) := hosting.service.relay

def server (hosting : Hosting σ) : Server := hosting.relay.server

def isRunning (hosting : Hosting σ) : Bool :=
  match hosting.session with
  | none | some (_, .returned _) => false
  | some _ => true

def advance (signal : Signal) (hosting : Hosting σ) : Hosting σ :=
  match hosting.session with
  | none => hosting
  | some (arguments, place) =>
    let (next, service) := Session.step arguments signal place hosting.service
    { hosting with
      service
      session := some (arguments, next)
      outcomes := hosting.outcomes.note signal place hosting.service }

def resume (number : Nat) (signal : Relay.Signal) (hosting : Hosting σ) : Hosting σ :=
  match hosting.calls[number]? with
  | none => hosting
  | some call =>
    let (call, relay) := call.step signal hosting.service.relay
    { hosting with
      service := { hosting.service with relay }
      calls := hosting.calls.set number call }

def move (hosting : Hosting σ) : Move → Hosting σ
  | .begin arguments =>
    if hosting.isRunning then hosting
    else { hosting with session := some (arguments, Session.start arguments), outcomes := {} }
  | .advance signal => hosting.advance signal
  | .work worker signal =>
    { hosting with
      service := { hosting.service with relay := hosting.service.relay.work worker signal } }
  | .close =>
    { hosting with
      service := hosting.service.markClose
      calls := hosting.calls ++ [.ofOperation .stop] }
  | .feed bytes => { hosting with calls := hosting.calls ++ [.ofOperation (.feed bytes)] }
  | .resume number signal => hosting.resume number signal
  | .cancel => { hosting with service := (hosting.service.request .cancel).2 }

def run (hosting : Hosting σ) (moves : List Move) : Hosting σ := moves.foldl move hosting

end Hosting

end TunerRelay.Session
