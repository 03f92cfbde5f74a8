import TunerRelay.Relay.Basic
import TunerRelay.Text.Blank

/-!
What callers ask of a relay, step by step. Between two steps of a call every other thread may take
steps of its own.
-/

namespace TunerRelay.Relay

open TunerRelay.Server (Fault FeedStatus)

inductive Operation where
  /-- Listen on an address, with a header for the client. -/
  | openSocket (address : String) (port : UInt16) (header : Wire.Header)
  /-- Wait for a client and serve it, on behalf of an observer. -/
  | serve (observer : Nat)
  | stop
  | feed (bytes : List UInt8)
  /-- Wait until the latest supervisor has ended. -/
  | join
deriving DecidableEq, Repr

inductive Outcome where
  | opened (result : Except Fault Unit)
  | serving (result : Except Fault Unit)
  | stopped
  | fed (status : FeedStatus)
  | joined

/-- Where a call stands. -/
inductive Call where
  /-- About to make the pool. -/
  | staging (address : String) (port : UInt16) (header : Wire.Header)
  | binding (endpoint : Net.Endpoint)
  /-- Bound; about to set the listener up. -/
  | preparing (endpoint : Net.Endpoint)
  | listening (endpoint : Net.Endpoint)
  /-- Opening has failed; about to clean up. -/
  | abandoning (fault : Fault)
  /-- About to ask the server to serve. -/
  | engaging (observer : Nat)
  /-- About to start the supervisor. -/
  | launching (observer : Nat)
  /-- About to keep the supervisor's number for those who wait for it. -/
  | keeping (supervisor : Nat)
  /-- There was no thread to be had; about to clean up. -/
  | clearing (observer : Nat) (fault : Fault)
  /-- About to tell the observer that it will not be served. -/
  | excusing (observer : Nat) (fault : Fault)
  | stopping
  /-- About to look, without the lock, whether samples are wanted. -/
  | glancing (bytes : List UInt8)
  | feeding (bytes : List UInt8)
  /-- About to find out which supervisor to wait for. -/
  | collecting
  | awaiting (supervisor : Nat)
  | returned (outcome : Outcome)

namespace Call

def ofOperation : Operation → Call
  | .openSocket address port header => .staging address port header
  | .serve observer => .engaging observer
  | .stop => .stopping
  | .feed bytes => .glancing bytes
  | .join => .collecting

def outcome? : Call → Option Outcome
  | .returned outcome => some outcome
  | _ => none

/-- What an address names, blanks around it aside. -/
def endpoint? (address : String) (port : UInt16) : Option Net.Endpoint :=
  (Net.Address.ofText? (Text.trim address.toList)).map fun address => { address, port }

variable {ω : Type} [Audience ω]

def stage (address : String) (port : UInt16) (header : Wire.Header) (relay : Relay ω) :
    Call × Relay ω :=
  match relay.server.stage header with
  | .error fault => (.abandoning fault, relay)
  | .ok server =>
    let next := match endpoint? address port with
      | some endpoint => Call.binding endpoint
      | none => .abandoning (.invalidAddress address)
    (next, relay.withServer server)

def listen (endpoint : Net.Endpoint) (relay : Relay ω) : Call × Relay ω :=
  match relay.server.listen endpoint with
  | .error fault => (.abandoning fault, relay)
  | .ok server => (.returned (.opened (.ok ())), relay.withServer server)

def engage (observer : Nat) (relay : Relay ω) : Call × Relay ω :=
  match relay.server.engage observer with
  | (.error fault, server) => (.excusing observer fault, relay.withServer server)
  | (.ok (), server) => (.launching observer, relay.withServer server)

/-- The section of a feed that is under the lock. While there is no free buffer it goes on waiting,
until its patience ends. -/
def feed (bytes : List UInt8) (signal : Signal) (relay : Relay ω) : Call × Relay ω :=
  if relay.hub.isServing && relay.server.isFull && signal ≠ .patienceEnded then
    (.feeding bytes, relay)
  else
    let (status, server) := relay.server.feed bytes
    (.returned (.fed status), relay.withServer server)

def step (signal : Signal) (call : Call) (relay : Relay ω) : Call × Relay ω :=
  match call with
  | .staging address port header => stage address port header relay
  | .binding endpoint =>
    match signal with
    | .failure reason => (.abandoning (.bind endpoint reason), relay)
    | _ => (.preparing endpoint, relay)
  | .preparing endpoint =>
    match signal with
    | .failure reason => (.abandoning (.socket reason), relay)
    | _ => (.listening endpoint, relay)
  | .listening endpoint => listen endpoint relay
  | .abandoning fault => (.returned (.opened (.error fault)), relay.withHub relay.hub.cleanUp)
  | .engaging observer => engage observer relay
  | .launching observer =>
    match signal with
    | .failure reason => (.clearing observer (.thread reason), relay)
    | _ =>
      let (supervisor, relay) := relay.launch
      (.keeping supervisor, relay)
  | .keeping supervisor =>
    (.returned (.serving (.ok ())), { relay with handle := some supervisor })
  | .clearing observer fault => (.excusing observer fault, relay.withHub relay.hub.cleanUp)
  | .excusing observer fault =>
    (.returned (.serving (.error fault)), relay.withHub (relay.hub.dismiss observer))
  | .stopping => (.returned .stopped, relay.withHub relay.hub.stop)
  | .glancing bytes =>
    match relay.hub.phase.refusal? with
    | some status => (.returned (.fed status), relay)
    | none => (.feeding bytes, relay)
  | .feeding bytes => feed bytes signal relay
  | .collecting =>
    match relay.handle with
    | none => (.returned .joined, relay)
    | some supervisor => (.awaiting supervisor, { relay with handle := none })
  | .awaiting supervisor =>
    (if relay.hasEnded supervisor then .returned .joined else .awaiting supervisor, relay)
  | .returned outcome => (.returned outcome, relay)

end Call

end TunerRelay.Relay
