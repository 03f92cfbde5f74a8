import TunerRelay.Pool.Basic
import TunerRelay.Server.Counters
import TunerRelay.Server.Fault
import TunerRelay.Wire.Header

/-!
The state that all threads of the server share. Every function here is one section under the
server's lock, or one exchange with the pool or a counter, so that threads interleave between them
and not inside.
-/

namespace TunerRelay

structure Server where
  phase : Server.Phase := .uninitialized
  pool : Option Pool := none
  /-- Pools made so far; it tells the present pool from those of earlier sessions. -/
  epoch : Nat := 0
  listener : Option Net.Endpoint := none
  /-- The connection that is shut down when the server closes. -/
  client : Option Nat := none
  /-- The observer for whom the server was last asked to serve. -/
  observer : Option Nat := none
  counters : Server.Counters := {}
deriving DecidableEq, Repr

namespace Server

/-- Most buffers in flight between the receiver and a client. -/
def bufferLimit : Nat := 5

/-- Buffers released from stage zero are ready to be sent, those from stage one to be filled. -/
def stageCount : Nat := 2

/-- How a chunk of samples fared. -/
inductive FeedStatus where
  | queued
  /-- No buffer became free in time. -/
  | dropped
  /-- The socket is open, but there is no client yet. -/
  | noClient
  | closed
deriving DecidableEq, Repr

def bufferedElements (server : Server) : Nat :=
  match server.pool with
  | some pool => pool.elements
  | none => 0

/-- Back to the start with everything released. The buffers that were still out are leaks. -/
def cleanUp (server : Server) : Server :=
  if server.phase = .uninitialized then server
  else
    let leaks := match server.pool with
      | some pool => pool.teardown.1
      | none => 0
    { server with
      phase := .uninitialized
      pool := none
      listener := none
      client := none
      counters := server.counters.addLeaks (UInt64.ofNat leaks) }

/-- A fresh pool with the header as the first buffer to be sent. -/
def stagedPool (header : Wire.Header) : Pool :=
  let empty := (Pool.ofLimit bufferLimit .ushort).configure stageCount
  match empty.acquire 0 with
  | (some buffer, pool) => pool.release 0 (buffer.fill header.toBytes).2
  | (none, pool) => pool

/-- First section of opening: only a server at rest is given a pool. -/
def stage (server : Server) (header : Wire.Header) : Except Fault Server :=
  if server.phase = .uninitialized then
    .ok
      { server with
        phase := .initialized
        pool := some (stagedPool header)
        epoch := server.epoch + 1 }
  else .error (.wrongPhase server.phase)

/-- Second section of opening, after the endpoint has been bound. -/
def listen (server : Server) (endpoint : Net.Endpoint) : Except Fault Server :=
  if server.phase = .initialized then
    .ok { server with phase := .socketOpen, listener := some endpoint }
  else .error (.wrongPhase server.phase)

/-- Prepares serving for an observer. In any phase but one the server is closed instead. -/
def engage (server : Server) (observer : Nat) : Except Fault Unit × Server :=
  if server.phase = .socketOpen then
    (.ok (), { server with phase := .asyncStarted, observer := some observer })
  else (.error (.wrongPhase server.phase), server.cleanUp)

/-- Asks the workers to end. Before there are any, the server is closed at once. -/
def stop (server : Server) : Server :=
  if server.phase = .uninitialized then server
  else if server.phase.number < Phase.asyncStarted.number then server.cleanUp
  else { server with phase := .stopping }

/-- Asks the workers to end, from one of them. -/
def requestStop (server : Server) : Server :=
  if server.phase = .uninitialized then server else { server with phase := .stopping }

/-- Admits a client, if one is still waited for, and registers its connection to be shut down. -/
def admit? (server : Server) (connection : Option Nat) : Option Server :=
  if server.phase = .asyncStarted then
    some
      { server with
        phase := .clientOpen
        client := connection
        counters := server.counters.addClient }
  else none

/-- Begins to serve the client, if it is still registered. -/
def serve? (server : Server) : Option Server :=
  if server.phase = .clientOpen then some { server with phase := .serving } else none

/-- What becomes of samples in a phase in which none are sent. -/
def Phase.refusal? : Phase → Option FeedStatus
  | .serving => none
  | phase => some (if phase.isWaiting then .noClient else .closed)

/-- Whether samples would have to wait for a buffer. -/
def isFull (server : Server) : Bool :=
  match server.pool with
  | some pool => (pool.acquire 0).1.isNone
  | none => false

/-- Queues samples for the client. Where no buffer is to be had, they are dropped. -/
def feed (server : Server) (bytes : List UInt8) : FeedStatus × Server :=
  match server.phase.refusal?, server.pool with
  | some status, _ => (status, server)
  | none, none => (.closed, server)
  | none, some pool =>
    match pool.acquire 0 with
    | (some buffer, pool) =>
      (.queued,
        { server with
          pool := some (pool.release 0 (buffer.fill bytes).2)
          counters := server.counters.addQueued })
    | (none, _) => (.dropped, { server with counters := server.counters.addDropped })

/-- The pool of a session, while that session lasts. -/
def poolOf? (server : Server) (epoch : Nat) : Option Pool :=
  if server.epoch = epoch then server.pool else none

/-- Takes the next buffer to be sent out of the pool of a session. -/
def take (server : Server) (epoch : Nat) : Option Pool.Buffer × Server :=
  match server.poolOf? epoch with
  | some pool =>
    let (buffer, pool) := pool.acquire 1
    (buffer, { server with pool := some pool })
  | none => (none, server)

/-- Gives a buffer that was sent back to the pool of its session. After the session it is dropped. -/
def giveBack (server : Server) (epoch : Nat) (buffer : Pool.Buffer) : Server :=
  match server.poolOf? epoch with
  | some pool => { server with pool := some (pool.release 1 buffer) }
  | none => server

def countSent (server : Server) (bytes : Nat) : Server :=
  { server with counters := server.counters.addSent (UInt64.ofNat bytes) }

def countCommand (server : Server) : Server :=
  { server with counters := server.counters.addCommand }

end Server

end TunerRelay
