import TunerRelay.Receiver.Capture
import TunerRelay.Relay.Traffic
import TunerRelay.Session.Basic

/-!
Sessions on one receiver as they take their course. The thread that runs them, the capture loop that
it goes through while it streams, the server's workers and any number of other callers take steps in
any order, one at a time.
-/

namespace TunerRelay.Session

open TunerRelay.Device (Request)
open TunerRelay.Relay (Call Operation Worker)

structure Course where
  service : Service Receiver
  /-- Where the latest session stands, and the arguments that it was begun with. -/
  session : Option (Arguments × Place) := none
  /-- Where the capture loop stands. -/
  capture : Receiver.Place := .finished (.ok ())
  /-- Calls of others than the session's thread, in the order in which they began. -/
  calls : List Call := []

namespace Course

inductive Move where
  /-- A session begins, unless one is running. -/
  | begin (arguments : Arguments)
  /-- The session's thread takes a step. -/
  | advance (signal : Relay.Signal)
  | capture (signal : Receiver.Signal)
  /-- Samples were not wanted, so streaming is cancelled. -/
  | cancel
  | work (worker : Worker) (signal : Relay.Signal)
  /-- Somebody calls the server. -/
  | call (operation : Operation)
  | resume (call : Nat) (signal : Relay.Signal)
  /-- Somebody asks to close. The server is then stopped by a call. -/
  | markClose
deriving DecidableEq, Repr

def atRest (receiver : Receiver) : Course := { service := .ofDevice receiver }

def receiver (course : Course) : Receiver := course.service.device

def isRunning (course : Course) : Bool :=
  match course.session with
  | none | some (_, .returned _) => false
  | some _ => true

/-- What a session learns in a step: while it streams, how the capture has ended. -/
def signalAt (course : Course) (place : Place) (signal : Relay.Signal) : Signal :=
  match place, course.capture with
  | .streaming _, .finished result => .streamed result
  | _, _ => .outside signal

/-- Streaming begins with the start of the capture loop. -/
def captureAfter (course : Course) (place next : Place) : Receiver.Place :=
  match place, next with
  | .starting _, .streaming _ => .starting
  | _, _ => course.capture

def advance (signal : Relay.Signal) (course : Course) : Course :=
  match course.session with
  | none => course
  | some (arguments, place) =>
    let (next, service) :=
      Session.step arguments (course.signalAt place signal) place course.service
    { course with
      service
      session := some (arguments, next)
      capture := course.captureAfter place next }

def stepCapture (signal : Receiver.Signal) (course : Course) : Course :=
  let capture := Receiver.Capture.step signal { place := course.capture, receiver := course.receiver }
  { course with
    service := course.service.withWorld
      { course.service.relay.hub.world with device := capture.receiver }
    capture := capture.place }

def resume (number : Nat) (signal : Relay.Signal) (course : Course) : Course :=
  match course.calls[number]? with
  | none => course
  | some call =>
    let (call, relay) := call.step signal course.service.relay
    { course with
      service := { course.service with relay }
      calls := course.calls.set number call }

def move (course : Course) : Move → Course
  | .begin arguments =>
    if course.isRunning then course
    else { course with session := some (arguments, Session.start arguments) }
  | .advance signal => course.advance signal
  | .capture signal => course.stepCapture signal
  | .cancel => { course with service := (course.service.request .cancel).2 }
  | .work worker signal =>
    { course with
      service := { course.service with relay := course.service.relay.work worker signal } }
  | .call operation => { course with calls := course.calls ++ [.ofOperation operation] }
  | .resume number signal => course.resume number signal
  | .markClose => { course with service := course.service.markClose }

def run (course : Course) (moves : List Move) : Course := moves.foldl move course

end Course

end TunerRelay.Session
