import TunerRelay.Adapter.Reaction
import TunerRelay.Relay.Exchange

/-!
Adapters connect one receiver to the sessions of a server, a new one for each session. A session's
adapter observes it: it turns commands into requests, and ends streaming when the session is over.
Once deactivated it does nothing any more.
-/

namespace TunerRelay

open TunerRelay.Device (Tuner Request Fault)
open TunerRelay.Relay (Audience Loopback)
open TunerRelay.Server (FeedStatus)

structure Adapters (σ : Type) where
  device : σ
  /-- Adapters that were deactivated. -/
  inactive : List Nat := []

namespace Adapters

variable {σ : Type}

def isActive (adapters : Adapters σ) (adapter : Nat) : Bool := !adapters.inactive.contains adapter

def deactivate (adapters : Adapters σ) (adapter : Nat) : Adapters σ :=
  if adapters.isActive adapter then { adapters with inactive := adapter :: adapters.inactive }
  else adapters

variable [Tuner σ]

def request (adapters : Adapters σ) (request : Request) : Except Fault Unit × Adapters σ :=
  let (answer, device) := Tuner.perform request adapters.device
  (answer, { adapters with device })

/-- Acts on a record, whatever the receiver answers. Says whether the server is to stop. -/
def react (adapters : Adapters σ) (record : Wire.Record) : Bool × Adapters σ :=
  match Adapter.Reaction.ofRecord (Tuner.gains adapters.device) record with
  | .request request => (false, (adapters.request request).2)
  | .stop => (true, adapters)
  | .nothing => (false, adapters)

instance : Audience (Adapters σ) where
  attends adapter adapters := adapters.isActive adapter
  hear _ record adapters := adapters.react record
  leave _ adapters := (adapters.request .cancel).2

end Adapters

/-! What reaches one adapter: commands, samples, and the end of its session. -/

namespace Adapter

inductive Event where
  | command (record : Wire.Record)
  | samples (bytes : List UInt8)
  | closed
  /-- The adapter is deactivated. -/
  | deactivation
deriving DecidableEq, Repr

variable {σ : Type} [Tuner σ]

/-- A command is acted on while the adapter is active. -/
def command (adapter : Nat) (record : Wire.Record) (loopback : Loopback (Adapters σ)) :
    Loopback (Adapters σ) :=
  if loopback.relay.hub.attends adapter then
    loopback.withHub (loopback.relay.hub.hear adapter record)
  else loopback

/-- Samples reach the server while the adapter is active. -/
def samples (adapter : Nat) (feed : Loopback (Adapters σ) → FeedStatus × Loopback (Adapters σ))
    (loopback : Loopback (Adapters σ)) : FeedStatus × Loopback (Adapters σ) :=
  if loopback.relay.hub.attends adapter then feed loopback else (.closed, loopback)

/-- Streaming is cancelled at the end of the session while the adapter is active. -/
def closed (adapter : Nat) (loopback : Loopback (Adapters σ)) : Loopback (Adapters σ) :=
  if loopback.relay.hub.attends adapter then
    loopback.withHub (loopback.relay.hub.leave adapter)
  else loopback

def deactivate (adapter : Nat) (loopback : Loopback (Adapters σ)) : Loopback (Adapters σ) :=
  loopback.withWorld (loopback.relay.hub.world.deactivate adapter)

/-- What an event comes to, with the fate of samples. -/
def observe (adapter : Nat) (loopback : Loopback (Adapters σ)) :
    Event → Option FeedStatus × Loopback (Adapters σ)
  | .command record => (none, command adapter record loopback)
  | .samples bytes =>
    let (status, loopback) := samples adapter (Loopback.feed bytes) loopback
    (some status, loopback)
  | .closed => (none, closed adapter loopback)
  | .deactivation => (none, deactivate adapter loopback)

end Adapter

end TunerRelay
