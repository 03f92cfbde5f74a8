import TunerRelay.Net.Host
import TunerRelay.Relay.Call
import TunerRelay.Relay.Mishap

/-!
A relay on a loopback network with at most one client. Calls are made one after another, and after
each the workers run until all of them wait: for a client, for bytes, for samples or for each other.
-/

namespace TunerRelay.Relay

/-- The client's end of a connection. -/
structure Client where
  connection : Nat
  /-- Whether the server has accepted the connection. -/
  accepted : Bool := false
  /-- Bytes on their way to the server. -/
  underway : List UInt8 := []
  /-- How many of the bytes from the server the client has read. -/
  bytesRead : Nat := 0
  hasLeft : Bool := false
deriving DecidableEq, Repr

/-- The network around a relay. -/
structure Network where
  host : Net.Host
  client : Option Client := none
  /-- Connections so far. -/
  connections : Nat := 0
  /-- Whether a session was begun that nobody has waited for since. -/
  pending : Bool := false
  /-- Whether a client was sent so much that it is not going to read it all. -/
  flooded : Bool := false
deriving DecidableEq, Repr

structure Loopback (ω : Type) extends Network where
  relay : Relay ω

namespace Loopback

variable {ω : Type} [Audience ω]

def phase (loopback : Loopback ω) : Server.Phase := loopback.relay.server.phase

def updateClient (loopback : Loopback ω) (change : Client → Client) : Loopback ω :=
  { loopback with client := loopback.client.map change }

/-- The client that waits to be accepted. -/
def waiting? (loopback : Loopback ω) : Option Client :=
  loopback.client.filter fun client => !client.accepted

/-- The client at the other end of a supervisor's connection. -/
def clientOf? (loopback : Loopback ω) (supervisor : Supervisor) : Option Client :=
  loopback.client.filter fun client => supervisor.connection == some client.connection

def hasLeft (client? : Option Client) : Bool :=
  match client? with
  | some client => client.hasLeft
  | none => true

/-- Whether a supervisor that looks for a buffer would find none for as long as nobody feeds. -/
def isStarved (loopback : Loopback ω) (supervisor : Supervisor) : Bool :=
  match supervisor.epoch.bind loopback.relay.server.poolOf? with
  | some pool => pool.queued 1 == 0
  | none => false

def withHub (loopback : Loopback ω) (hub : Hub ω) : Loopback ω :=
  { loopback with relay := loopback.relay.withHub hub }

def withWorld (loopback : Loopback ω) (world : ω) : Loopback ω :=
  loopback.withHub { loopback.relay.hub with world }

/-- What moves a supervisor on, unless it waits. -/
def supervisorSignal? (loopback : Loopback ω) (supervisor : Supervisor) : Option Signal :=
  match supervisor.place with
  | .accepting =>
    match loopback.waiting? with
    | some client => some (.client client.connection)
    | none => if loopback.phase = .asyncStarted then none else some .nothing
  | .fetching =>
    if loopback.relay.hub.isServing && loopback.isStarved supervisor then none else some .nothing
  | .offering buffer offset =>
    if hasLeft (loopback.clientOf? supervisor) then
      some (.ofMishap { kind := .other, reason := "connection reset" })
    else some (.took (Supervisor.rest buffer offset).length)
  | .joining => if supervisor.readerIsEnded then some .nothing else none
  | .ended => none
  | _ => some .nothing

/-- What moves the reader of a supervisor on, unless it waits. -/
def readerSignal? (loopback : Loopback ω) (supervisor : Supervisor) : Option Signal :=
  match supervisor.reader.map Reader.place with
  | none | some .ended => none
  | some (.receiving piece) =>
    let client? := loopback.clientOf? supervisor
    let bytes := Reader.accept piece ((client?.map Client.underway).getD [])
    if !bytes.isEmpty then some (.received bytes)
    else if hasLeft client? then some (.failure "connection closed")
    else if loopback.relay.hub.isServing then none
    else some .nothing
  | some _ => some .nothing

def signal? (loopback : Loopback ω) (worker : Worker) : Option Signal :=
  (loopback.relay.supervisors[worker.number]?).bind fun supervisor =>
    match worker with
    | .supervisor _ => loopback.supervisorSignal? supervisor
    | .reader _ => loopback.readerSignal? supervisor

/-- How the client is left by what a signal brings. -/
def afterSignal (signal : Signal) (client : Client) : Client :=
  match signal with
  | .client connection =>
    if client.connection = connection then { client with accepted := true } else client
  | .received bytes => { client with underway := client.underway.drop bytes.length }
  | _ => client

def workers (loopback : Loopback ω) : List Worker :=
  (List.range loopback.relay.supervisors.length).flatMap fun number =>
    [.supervisor number, .reader number]

/-- The first worker that does not wait, with what moves it on. -/
def next? (loopback : Loopback ω) : Option (Worker × Signal) :=
  loopback.workers.findSome? fun worker =>
    (loopback.signal? worker).map fun signal => (worker, signal)

def work (loopback : Loopback ω) (worker : Worker) (signal : Signal) : Loopback ω :=
  { loopback with relay := loopback.relay.work worker signal }.updateClient (afterSignal signal)

def settleWithin : Nat → Loopback ω → Loopback ω
  | 0, loopback => loopback
  | steps + 1, loopback =>
    match loopback.next? with
    | some (worker, signal) => settleWithin steps (loopback.work worker signal)
    | none => loopback

/-- Steps after which all workers wait: at most eight for each byte that is underway, and at most
a hundred for each supervisor. -/
def stepsToSettle (loopback : Loopback ω) : Nat :=
  100 * loopback.relay.supervisors.length
    + 8 * ((loopback.client.map Client.underway).getD []).length

def settle (loopback : Loopback ω) : Loopback ω :=
  loopback.settleWithin loopback.stepsToSettle

/-- What the host contributes to a call. -/
def callSignal (loopback : Loopback ω) : Call → Signal
  | .binding endpoint =>
    match loopback.host.refusal? endpoint with
    | some refusal => .failure refusal.text
    | none => .nothing
  | .feeding _ => .patienceEnded
  | _ => .nothing

def runWithin : Nat → Call → Loopback ω → Call × Loopback ω
  | 0, call, loopback => (call, loopback)
  | steps + 1, call, loopback =>
    match call with
    | .returned outcome => (.returned outcome, loopback)
    | call =>
      let (call, relay) := call.step (loopback.callSignal call) loopback.relay
      runWithin steps call { loopback with relay }

/-- No call takes more steps. -/
def stepsPerCall : Nat := 8

/-- Whether a session is under way after a call, given that it was before. -/
def pendingAfter (pending : Bool) : Call → Bool
  | .returned (.serving (.ok ())) => true
  | .returned .joined => false
  | _ => pending

/-- A call to its end. Before and after, the workers come to rest. -/
def call (call : Call) (loopback : Loopback ω) : Call × Loopback ω :=
  let (call, loopback) := runWithin stepsPerCall call loopback.settle
  (call, { loopback with pending := pendingAfter loopback.pending call }.settle)

def perform (operation : Operation) (loopback : Loopback ω) : Option Outcome × Loopback ω :=
  let (call, loopback) := loopback.call (.ofOperation operation)
  (call.outcome?, loopback)

/-- How an attempt to connect ends. -/
inductive Connection where
  | connected
  /-- Nobody listens. -/
  | refused
  /-- Somebody listens, but the host lets no client through. -/
  | unreachable
deriving DecidableEq, Repr

/-- Whether the server is down, or on its way there. -/
def isGoingDown (loopback : Loopback ω) : Bool :=
  loopback.phase = .uninitialized || loopback.phase = .stopping

def connect (loopback : Loopback ω) : Connection × Loopback ω :=
  if loopback.isGoingDown || loopback.relay.server.listener.isNone then (.refused, loopback)
  else if loopback.host.isUp then
    (.connected,
      { loopback with
        client := some { connection := loopback.connections }
        connections := loopback.connections + 1 }.settle)
  else (.unreachable, loopback)

/-- The client, unless it has left. -/
def present? (loopback : Loopback ω) : Option Client :=
  loopback.client.filter fun client => !client.hasLeft

/-- What the server has sent to a client. -/
def sentTo (loopback : Loopback ω) (client : Client) : List UInt8 :=
  match loopback.relay.supervisors.find? (·.connection == some client.connection) with
  | some supervisor => supervisor.sent
  | none => []

/-- Reads bytes at the client's end. -/
def receive (count : Nat) (loopback : Loopback ω) : Option (List UInt8) × Loopback ω :=
  match loopback.present? with
  | none => (none, loopback)
  | some client =>
    let bytes := ((loopback.sentTo client).drop client.bytesRead).take count
    (some bytes, loopback.updateClient fun client =>
      { client with bytesRead := client.bytesRead + bytes.length })

/-- Writes bytes at the client's end. -/
def send (bytes : List UInt8) (loopback : Loopback ω) : Option (Loopback ω) :=
  if loopback.present?.isNone || loopback.isGoingDown then none
  else
    some
      (loopback.updateClient fun client =>
        { client with underway := client.underway ++ bytes }).settle

/-- The client leaves. Says whether there was one. -/
def disconnect (loopback : Loopback ω) : Bool × Loopback ω :=
  (loopback.present?.isSome,
    (loopback.updateClient fun client => { client with hasLeft := true }).settle)

/-- The phase, unless the session is over or ends at its own pace. -/
def shownPhase? (loopback : Loopback ω) : Option Server.Phase :=
  if loopback.pending && loopback.isGoingDown then none else some loopback.phase

end Loopback

end TunerRelay.Relay
