import TunerRelay.Relay.Exchange

/-!
Sessions of a relay tried out by a script: calls are made in order, with a fresh observer for each
request to serve, and after each the state of the relay is taken down.
-/

namespace TunerRelay.Relay

open TunerRelay.Server (Fault)

inductive Rehearsal.Step where
  | openSocket (address : String) (port : UInt16) (tuner gainCount : UInt32)
  | serve
  | stop
  | join
  | exchange (exchange : Exchange)
deriving DecidableEq, Repr

inductive Rehearsal.Answer where
  | nothing
  /-- The address that the server listens on. -/
  | opened (address : Net.Address)
  | serving
  | failed (fault : Fault)
  | exchanged (answer : Exchange.Answer)

/-- The state of the relay after a step. -/
structure Rehearsal.View where
  /-- None while the session is over or ends at its own pace. -/
  phase : Option Server.Phase
  /-- Commands that have come in since the last view. -/
  commands : List Wire.Record
  /-- For each request to serve, how often its observer was told of an end. -/
  farewells : List Nat
  isListening : Bool
  buffered : Nat
deriving DecidableEq, Repr

structure Rehearsal where
  loopback : Loopback Unit
  /-- Requests to serve so far, each with an observer of its own. -/
  requests : Nat := 0
  /-- The observer of the latest request that was granted. -/
  observer : Option Nat := none
  /-- How many commands of that observer have been taken down. -/
  seen : Nat := 0

namespace Rehearsal

def onHost (host : Net.Host) : Rehearsal := { loopback := { relay := .atRest (), host } }

/-- The commands that an observer has heard. -/
def commandsOf (relay : Relay Unit) (observer : Nat) : List Wire.Record :=
  relay.supervisors.flatMap fun supervisor =>
    match supervisor.reader with
    | some reader => if supervisor.observer = some observer then reader.records else []
    | none => []

def commands (rehearsal : Rehearsal) : List Wire.Record :=
  match rehearsal.observer with
  | some observer => commandsOf rehearsal.loopback.relay observer
  | none => []

def farewellsTo (relay : Relay Unit) (observer : Nat) : Nat :=
  relay.hub.farewells.countP (· == observer)

/-- Takes the state down. -/
def view (rehearsal : Rehearsal) : View × Rehearsal :=
  let relay := rehearsal.loopback.relay
  let commands := rehearsal.commands
  ({ phase := rehearsal.loopback.shownPhase?
     commands := commands.drop rehearsal.seen
     farewells := (List.range rehearsal.requests).map (farewellsTo relay)
     isListening := relay.server.listener.isSome
     buffered := relay.server.bufferedElements },
    { rehearsal with seen := commands.length })

def answerTo (outcome : Option Outcome) (relay : Relay Unit) : Answer :=
  match outcome with
  | some (.opened (.error fault)) | some (.serving (.error fault)) => .failed fault
  | some (.opened (.ok ())) =>
    match relay.server.listener with
    | some endpoint => .opened endpoint.address
    | none => .nothing
  | some (.serving (.ok ())) => .serving
  | _ => .nothing

def perform (operation : Operation) (rehearsal : Rehearsal) : Answer × Rehearsal :=
  let (outcome, loopback) := rehearsal.loopback.perform operation
  (answerTo outcome loopback.relay, { rehearsal with loopback })

def serve (rehearsal : Rehearsal) : Answer × Rehearsal :=
  let observer := rehearsal.requests
  match { rehearsal with requests := observer + 1 }.perform (.serve observer) with
  | (.serving, rehearsal) => (.serving, { rehearsal with observer := some observer, seen := 0 })
  | refused => refused

def step (rehearsal : Rehearsal) : Step → Answer × Rehearsal
  | .openSocket address port tuner gainCount =>
    rehearsal.perform (.openSocket address port (.rtl tuner gainCount))
  | .serve => rehearsal.serve
  | .stop => rehearsal.perform .stop
  | .join => rehearsal.perform .join
  | .exchange exchange =>
    let (answer, loopback) := rehearsal.loopback.exchange exchange
    (.exchanged answer, { rehearsal with loopback })

/-- A script to its end, with the state after each step. -/
def run : List Step → Rehearsal → List (Answer × View) × Rehearsal
  | [], rehearsal => ([], rehearsal)
  | step :: rest, rehearsal =>
    let (answer, rehearsal) := rehearsal.step step
    let (view, rehearsal) := rehearsal.view
    let (following, rehearsal) := run rest rehearsal
    ((answer, view) :: following, rehearsal)

end Rehearsal

end TunerRelay.Relay
