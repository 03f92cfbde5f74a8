import TunerRelay.Relay.Supervisor

/-!
A relay: the server together with the threads that serve its sessions, the latest and those of
earlier sessions that have not ended yet.
-/

namespace TunerRelay

structure Relay (ω : Type) where
  hub : Relay.Hub ω
  /-- By their numbers, in the order in which they were started. -/
  supervisors : List Relay.Supervisor := []
  /-- The supervisor that is to be waited for. -/
  handle : Option Nat := none

namespace Relay

variable {ω : Type}

def atRest (world : ω) : Relay ω := { hub := { world } }

def server (relay : Relay ω) : Server := relay.hub.server

def withHub (relay : Relay ω) (hub : Hub ω) : Relay ω := { relay with hub }

def withServer (relay : Relay ω) (server : Server) : Relay ω :=
  relay.withHub (relay.hub.withServer server)

/-- Starts a supervisor and gives its number. -/
def launch (relay : Relay ω) : Nat × Relay ω :=
  (relay.supervisors.length, { relay with supervisors := relay.supervisors ++ [{}] })

/-- Whether a supervisor has taken its last step. -/
def hasEnded (relay : Relay ω) (number : Nat) : Bool :=
  match relay.supervisors[number]? with
  | some supervisor => supervisor.isEnded
  | none => true

/-- A thread, by the number of its supervisor. -/
inductive Worker where
  | supervisor (number : Nat)
  | reader (number : Nat)
deriving DecidableEq, Repr

def Worker.number : Worker → Nat
  | .supervisor number | .reader number => number

variable [Audience ω]

/-- One step of a thread. A thread that does not exist takes none. -/
def work (worker : Worker) (signal : Signal) (relay : Relay ω) : Relay ω :=
  match relay.supervisors[worker.number]? with
  | none => relay
  | some supervisor =>
    let (supervisor, hub) := match worker with
      | .supervisor _ => supervisor.step signal relay.hub
      | .reader _ => supervisor.stepReader signal relay.hub
    { relay with hub, supervisors := relay.supervisors.set worker.number supervisor }

end Relay

end TunerRelay
