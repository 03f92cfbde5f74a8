import TunerRelay.Server.Basic
import TunerRelay.Wire.Record

/-!
What the threads of a relay share: the server, and the world in which the observers of its sessions
act. An observer hears the client's commands and is told when its session is over.
-/

namespace TunerRelay.Relay

/-- How observers, known by numbers, act in their common world. -/
class Audience (ω : Type) where
  /-- Whether an observer still cares. -/
  attends : Nat → ω → Bool
  /-- Acts on a command, and says whether the server is to stop. -/
  hear : Nat → Wire.Record → ω → Bool × ω
  /-- Acts on the end of a session. -/
  leave : Nat → ω → ω

/-- Observers that do nothing. -/
instance : Audience Unit where
  attends _ _ := true
  hear _ _ world := (false, world)
  leave _ world := world

structure Hub (ω : Type) where
  server : Server := {}
  world : ω
  /-- The observers that were told of an end, in order. -/
  farewells : List Nat := []

/-- What the outside contributes to a step: the network, the operating system, or a clock. -/
inductive Signal where
  /-- No news: what waits goes on waiting, and what has to be tried again is tried again. -/
  | nothing
  | failure (reason : String)
  /-- A client has connected. -/
  | client (connection : Nat)
  /-- The client's socket took so many bytes. -/
  | took (count : Nat)
  | received (bytes : List UInt8)
  /-- Waiting has lasted long enough. -/
  | patienceEnded
deriving DecidableEq, Repr

namespace Hub

variable {ω : Type}

def withServer (hub : Hub ω) (server : Server) : Hub ω := { hub with server }

def phase (hub : Hub ω) : Server.Phase := hub.server.phase

def isServing (hub : Hub ω) : Bool := hub.phase == .serving

def cleanUp (hub : Hub ω) : Hub ω := hub.withServer hub.server.cleanUp

def requestStop (hub : Hub ω) : Hub ω := hub.withServer hub.server.requestStop

def stop (hub : Hub ω) : Hub ω := hub.withServer hub.server.stop

def recordFarewell (hub : Hub ω) (observer : Nat) : Hub ω :=
  { hub with farewells := hub.farewells ++ [observer] }

variable [Audience ω]

def attends (hub : Hub ω) (observer : Nat) : Bool := Audience.attends observer hub.world

def leave (hub : Hub ω) (observer : Nat) : Hub ω :=
  { hub with world := Audience.leave observer hub.world }

/-- An observer acts on a command. The server is stopped before it is done, if it says so. -/
def hear (hub : Hub ω) (observer : Nat) (record : Wire.Record) : Hub ω :=
  let (stops, world) := Audience.hear observer record hub.world
  let heard := { hub with world }
  if stops then heard.stop else heard

/-- Tells an observer of the end, and lets it act if it still cares. -/
def dismiss (hub : Hub ω) (observer : Nat) : Hub ω :=
  let told := hub.recordFarewell observer
  if told.attends observer then told.leave observer else told

end Hub

end TunerRelay.Relay
