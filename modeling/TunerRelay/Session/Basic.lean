import TunerRelay.Adapter.Basic
import TunerRelay.Session.Setup

/-!
Sessions on one receiver, run one after another: set the receiver up, open the server, stream until
the client has left or somebody asks to close, then release everything. The thread that runs a
session takes it step by step, so that workers and requests to close may come in between.
-/

namespace TunerRelay

open TunerRelay.Device (Tuner Request)
open TunerRelay.Relay (Call Operation)

/-- What the host is notified of. -/
inductive Session.Event where
  | opened
  | closed (code : ExitCode)
deriving DecidableEq, Repr

/-- What the sessions of one receiver share. -/
structure Service (σ : Type) where
  relay : Relay (Adapters σ)
  closeRequested : Bool := false
  events : List Session.Event := []
  /-- Adapters made so far. -/
  adapters : Nat := 0

namespace Service

variable {σ : Type} [Tuner σ]

def ofDevice (device : σ) : Service σ := { relay := .atRest { device } }

def device (service : Service σ) : σ := service.relay.hub.world.device

def withHub (service : Service σ) (hub : Relay.Hub (Adapters σ)) : Service σ :=
  { service with relay := service.relay.withHub hub }

def withWorld (service : Service σ) (world : Adapters σ) : Service σ :=
  service.withHub { service.relay.hub with world }

def request (service : Service σ) (request : Request) :
    Except Device.Fault Unit × Service σ :=
  let (answer, world) := service.relay.hub.world.request request
  (answer, service.withWorld world)

def stop (service : Service σ) : Service σ := service.withHub service.relay.hub.stop

/-- First half of a request to close. -/
def markClose (service : Service σ) : Service σ := { service with closeRequested := true }

/-- Asks the running session to end. -/
def close (service : Service σ) : Service σ := service.markClose.stop

def notify (service : Service σ) (event : Session.Event) : Service σ :=
  { service with events := service.events ++ [event] }

end Service

namespace Session

/-- Where a session stands. -/
inductive Place where
  /-- The receiver is being set up; these steps are left. -/
  | configuring (rest : List Setup)
  | opening (call : Call)
  /-- The server is being asked to serve, with this adapter as observer. -/
  | engaging (adapter : Nat) (call : Call)
  /-- About to look whether somebody has asked to close. -/
  | checking (adapter : Nat)
  /-- Somebody has; about to stop the server. -/
  | halting (adapter : Nat)
  | announcing (adapter : Nat)
  /-- About to have the receiver stream. -/
  | starting (adapter : Nat)
  | streaming (adapter : Nat)
  | deactivating (adapter : Nat) (streamed : Except Device.Fault Unit)
  /-- About to close the receiver. -/
  | closing (streamed : Except Device.Fault Unit)
  | stopping (streamed : Except Device.Fault Unit)
  | joining (call : Call) (streamed : Except Device.Fault Unit)
  /-- The server refused to serve; about to deactivate the adapter. -/
  | withdrawing (adapter : Nat) (failure : Failure)
  /-- The session has failed; about to close the receiver. -/
  | releasing (failure : Failure)
  /-- Over; about to drop requests to close. -/
  | forgetting (result : Except Failure Unit)
  | reporting (result : Except Failure Unit)
  | returned (result : Except Failure Unit)

inductive Signal where
  | outside (signal : Relay.Signal)
  /-- Streaming has ended. -/
  | streamed (result : Except Device.Fault Unit)

def Signal.relaySignal : Signal → Relay.Signal
  | .outside signal => signal
  | .streamed _ => .nothing

def start (arguments : Arguments) : Place := .configuring (Setup.ofArguments arguments)

def resultOf : Except Device.Fault Unit → Except Failure Unit
  | .ok () => .ok ()
  | .error fault => .error (.streaming fault)

variable {σ : Type} [Tuner σ]

/-- The header for clients of this receiver. -/
def header (device : σ) : Wire.Header :=
  .rtl (Tuner.number device) (UInt32.ofNat (Tuner.gains device).length)

def configure (setup : Setup) (rest : List Setup) (service : Service σ) : Place × Service σ :=
  let (failure?, device) := setup.perform service.device
  let service := service.withWorld { service.relay.hub.world with device }
  match failure? with
  | some failure => (.releasing failure, service)
  | none => (.configuring rest, service)

/-- Where a session goes from a step of opening the server. With the server open, the session gets
an adapter. -/
def afterOpening (call : Call) (service : Service σ) : Place × Service σ :=
  match call with
  | .returned (.opened (.ok ())) =>
    (.engaging service.adapters (.ofOperation (.serve service.adapters)),
      { service with adapters := service.adapters + 1 })
  | .returned (.opened (.error fault)) => (.releasing (.notOpened fault), service)
  | call => (.opening call, service)

def afterEngaging (adapter : Nat) : Call → Place
  | .returned (.serving (.ok ())) => .checking adapter
  | .returned (.serving (.error fault)) => .withdrawing adapter (.notServed fault)
  | call => .engaging adapter call

def afterJoining (streamed : Except Device.Fault Unit) : Call → Place
  | .returned _ => .forgetting (resultOf streamed)
  | call => .joining call streamed

/-- A step of a call that the session makes. -/
def stepCall (signal : Signal) (call : Call) (service : Service σ) : Call × Service σ :=
  let (call, relay) := call.step signal.relaySignal service.relay
  (call, { service with relay })

def step (arguments : Arguments) (signal : Signal) (place : Place) (service : Service σ) :
    Place × Service σ :=
  match place with
  | .configuring [] =>
    (.opening (.ofOperation
      (.openSocket arguments.address arguments.port (header service.device))), service)
  | .configuring (setup :: rest) => configure setup rest service
  | .opening call =>
    let (call, service) := stepCall signal call service
    afterOpening call service
  | .engaging adapter call =>
    let (call, service) := stepCall signal call service
    (afterEngaging adapter call, service)
  | .checking adapter =>
    (if service.closeRequested then .halting adapter else .announcing adapter, service)
  | .halting adapter => (.announcing adapter, service.stop)
  | .announcing adapter => (.starting adapter, service.notify .opened)
  | .starting adapter =>
    match service.request .stream with
    | (.ok (), service) => (.streaming adapter, service)
    | (.error fault, service) => (.deactivating adapter (.error fault), service)
  | .streaming adapter =>
    match signal with
    | .streamed result => (.deactivating adapter result, service)
    | .outside _ => (.streaming adapter, service)
  | .deactivating adapter streamed =>
    (.closing streamed, service.withWorld (service.relay.hub.world.deactivate adapter))
  | .closing streamed => (.stopping streamed, (service.request .close).2)
  | .stopping streamed => (.joining (.ofOperation .join) streamed, service.stop)
  | .joining call streamed =>
    let (call, service) := stepCall signal call service
    (afterJoining streamed call, service)
  | .withdrawing adapter failure =>
    (.releasing failure, service.withWorld (service.relay.hub.world.deactivate adapter))
  | .releasing failure => (.forgetting (.error failure), (service.request .close).2)
  | .forgetting result => (.reporting result, { service with closeRequested := false })
  | .reporting result => (.returned result, service.notify (.closed (exitCode result)))
  | .returned result => (.returned result, service)

end Session

end TunerRelay
