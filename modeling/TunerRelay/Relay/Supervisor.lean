import TunerRelay.Relay.Reader

/-!
The thread that serves one session: it waits for a client, starts the reader of its commands, sends
what is queued, and in the end closes the server and tells the observer.
-/

namespace TunerRelay.Relay

open TunerRelay.Pool (Buffer)

inductive Supervisor.Place where
  /-- About to note the observer and the pool. -/
  | starting
  /-- About to get hold of the listener. -/
  | seeking
  /-- About to look whether a client is still waited for. -/
  | waiting
  | accepting
  /-- A client has been accepted; about to register it. -/
  | registering (connection : Nat)
  /-- About to split off the half of the connection that the reader gets. -/
  | splitting
  /-- About to begin serving. -/
  | entering
  | spawning
  /-- About to look whether the client is still served. -/
  | idle
  /-- About to take the next buffer. -/
  | fetching
  /-- So many bytes of the buffer are sent; about to see whether more are to be. -/
  | writing (buffer : Buffer) (offset : Nat)
  | offering (buffer : Buffer) (offset : Nat)
  /-- About to give the buffer back. The result is the number of bytes sent, none after a failure. -/
  | returning (buffer : Buffer) (result : Option Nat)
  | counting (bytes : Nat)
  | halting
  /-- Waiting for the reader to end. -/
  | joining
  | closing
  /-- The observer is told, and about to look whether it still cares. -/
  | notifying
  /-- The observer is about to act. -/
  | leaving (observer : Nat)
  | ended
deriving DecidableEq, Repr

structure Supervisor where
  place : Supervisor.Place := .starting
  observer : Option Nat := none
  /-- The session whose pool it sends from. -/
  epoch : Option Nat := none
  connection : Option Nat := none
  reader : Option Reader := none
  /-- All bytes that the client's socket has taken. -/
  sent : List UInt8 := []
deriving DecidableEq, Repr

namespace Supervisor

variable {ω : Type} [Audience ω]

def goTo (supervisor : Supervisor) (place : Place) : Supervisor := { supervisor with place }

/-- Whether the thread will take no further step. -/
def isEnded (supervisor : Supervisor) : Bool := supervisor.place == .ended

def readerIsEnded (supervisor : Supervisor) : Bool :=
  match supervisor.reader with
  | some reader => reader.isEnded
  | none => true

/-- Bytes that are offered to the socket: those of the buffer that it has not taken. -/
def rest (buffer : Buffer) (offset : Nat) : List UInt8 := (buffer.appendTo []).drop offset

/-- What was noted about the session at the start. -/
def note (supervisor : Supervisor) (server : Server) : Supervisor :=
  { supervisor with
    place := .seeking
    observer := server.observer
    epoch := server.pool.map fun _ => server.epoch }

/-- After a client was accepted. Its connection is registered unless it cannot be duplicated for
that. Without a pool there is nothing to serve the client with. -/
def register (supervisor : Supervisor) (connection : Nat) (signal : Signal) (hub : Hub ω) :
    Supervisor × Hub ω :=
  let registered := match signal with
    | .failure _ => none
    | _ => some connection
  match hub.server.admit? registered with
  | none => (supervisor.goTo .closing, hub)
  | some server =>
    ({ supervisor with
        place := if supervisor.epoch.isSome then .splitting else .closing
        connection := some connection },
      hub.withServer server)

def enter (supervisor : Supervisor) (hub : Hub ω) : Supervisor × Hub ω :=
  match hub.server.serve? with
  | none => (supervisor.goTo .closing, hub)
  | some server => (supervisor.goTo .spawning, hub.withServer server)

/-- Starts the reader. Without an observer, or where no thread can be had, serving stops. -/
def spawn (supervisor : Supervisor) (signal : Signal) (hub : Hub ω) : Supervisor × Hub ω :=
  match supervisor.observer, signal with
  | none, _ | some _, .failure _ => (supervisor.goTo .idle, hub.requestStop)
  | some _, _ => ({ supervisor with place := .idle, reader := some {} }, hub)

def fetch (supervisor : Supervisor) (hub : Hub ω) : Supervisor × Hub ω :=
  match supervisor.epoch with
  | none => (supervisor.goTo .idle, hub)
  | some epoch =>
    let (buffer?, server) := hub.server.take epoch
    let place := match buffer? with
      | some buffer => Place.writing buffer 0
      | none => .idle
    (supervisor.goTo place, hub.withServer server)

/-- The socket's answer to what it was offered. A socket that takes nothing has failed. -/
def offer (supervisor : Supervisor) (buffer : Buffer) (offset : Nat) : Signal → Supervisor
  | .took 0 | .failure _ => supervisor.goTo (.returning buffer none)
  | .took count =>
    let taken := (rest buffer offset).take count
    { supervisor with
      place := .writing buffer (offset + taken.length)
      sent := supervisor.sent ++ taken }
  | _ => supervisor.goTo (.writing buffer offset)

def giveBack (supervisor : Supervisor) (buffer : Buffer) (result : Option Nat) (hub : Hub ω) :
    Supervisor × Hub ω :=
  let place := match result with
    | some bytes => Place.counting bytes
    | none => .halting
  match supervisor.epoch with
  | none => (supervisor.goTo place, hub)
  | some epoch => (supervisor.goTo place, hub.withServer (hub.server.giveBack epoch buffer))

def notify (supervisor : Supervisor) (hub : Hub ω) : Supervisor × Hub ω :=
  match supervisor.observer with
  | none => (supervisor.goTo .ended, hub)
  | some observer =>
    (supervisor.goTo (if hub.attends observer then .leaving observer else .ended),
      hub.recordFarewell observer)

def step (signal : Signal) (supervisor : Supervisor) (hub : Hub ω) : Supervisor × Hub ω :=
  match supervisor.place with
  | .starting => (supervisor.note hub.server, hub)
  | .seeking =>
    (supervisor.goTo (if hub.server.listener.isSome then .waiting else .closing), hub)
  | .waiting =>
    (supervisor.goTo (if hub.phase = .asyncStarted then .accepting else .closing), hub)
  | .accepting =>
    match signal with
    | .client connection => (supervisor.goTo (.registering connection), hub)
    | .failure _ => (supervisor.goTo .closing, hub)
    | _ => (supervisor.goTo .waiting, hub)
  | .registering connection => supervisor.register connection signal hub
  | .splitting =>
    match signal with
    | .failure _ => (supervisor.goTo .closing, hub.requestStop)
    | _ => (supervisor.goTo .entering, hub)
  | .entering => supervisor.enter hub
  | .spawning => supervisor.spawn signal hub
  | .idle => (supervisor.goTo (if hub.isServing then .fetching else .halting), hub)
  | .fetching => supervisor.fetch hub
  | .writing buffer offset =>
    if (rest buffer offset).isEmpty then
      (supervisor.goTo (.returning buffer (some offset)), hub)
    else if hub.isServing then (supervisor.goTo (.offering buffer offset), hub)
    else (supervisor.goTo (.returning buffer (some offset)), hub)
  | .offering buffer offset => (supervisor.offer buffer offset signal, hub)
  | .returning buffer result => supervisor.giveBack buffer result hub
  | .counting bytes => (supervisor.goTo .idle, hub.withServer (hub.server.countSent bytes))
  | .halting => (supervisor.goTo .joining, hub.requestStop)
  | .joining => (if supervisor.readerIsEnded then supervisor.goTo .closing else supervisor, hub)
  | .closing => (supervisor.goTo .notifying, hub.cleanUp)
  | .notifying => supervisor.notify hub
  | .leaving observer => (supervisor.goTo .ended, hub.leave observer)
  | .ended => (supervisor, hub)

/-- One step of the reader, if there is one. -/
def stepReader (signal : Signal) (supervisor : Supervisor) (hub : Hub ω) : Supervisor × Hub ω :=
  match supervisor.reader, supervisor.observer with
  | some reader, some observer =>
    let (reader, hub) := reader.step observer signal hub
    ({ supervisor with reader := some reader }, hub)
  | _, _ => (supervisor, hub)

end Supervisor

end TunerRelay.Relay
