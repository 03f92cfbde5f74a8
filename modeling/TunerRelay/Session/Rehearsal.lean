import TunerRelay.Device.Recorder
import TunerRelay.Session.Basic

/-!
Sessions tried out on a loopback network. The workers come to rest between any two steps of the
session; while the receiver streams, a script is followed.
-/

namespace TunerRelay.Session

open TunerRelay.Device (Tuner Recorder Request)
open TunerRelay.Relay (Call Exchange Loopback Network)
open TunerRelay.Server (FeedStatus)

structure Rehearsal (σ : Type) where
  service : Service σ
  network : Network

namespace Rehearsal

variable {σ : Type}

def onHost (host : Net.Host) (service : Service σ) : Rehearsal σ :=
  { service, network := { host } }

def loopback (rehearsal : Rehearsal σ) : Loopback (Adapters σ) :=
  { rehearsal.network with relay := rehearsal.service.relay }

def withLoopback (rehearsal : Rehearsal σ) (loopback : Loopback (Adapters σ)) : Rehearsal σ :=
  { service := { rehearsal.service with relay := loopback.relay }
    network := loopback.toNetwork }

def withService (rehearsal : Rehearsal σ) (service : Service σ) : Rehearsal σ :=
  { rehearsal with service }

variable [Tuner σ]

def settle (rehearsal : Rehearsal σ) : Rehearsal σ :=
  rehearsal.withLoopback rehearsal.loopback.settle

/-- The host's part in a step. -/
def signal (rehearsal : Rehearsal σ) : Place → Signal
  | .opening call => .outside (rehearsal.loopback.callSignal call)
  | _ => .outside .nothing

/-- Whether a session has been begun that nobody has waited for since, at this place. -/
def pendingAt (place : Place) (before : Bool) : Bool :=
  match place with
  | .checking _ => true
  | .forgetting _ => false
  | _ => before

/-- One step of the session, after which the workers come to rest. -/
def step (arguments : Arguments) (signal : Signal) (place : Place) (rehearsal : Rehearsal σ) :
    Place × Rehearsal σ :=
  let (place, service) := Session.step arguments signal place rehearsal.service
  let network :=
    { rehearsal.network with pending := pendingAt place rehearsal.network.pending }
  (place, { service, network : Rehearsal σ }.settle)

/-- Where a session does not go on by itself: while streaming, and at its end. -/
def rests : Place → Bool
  | .streaming _ | .returned _ => true
  | _ => false

def advanceWithin (arguments : Arguments) : Nat → Place → Rehearsal σ → Place × Rehearsal σ
  | 0, place, rehearsal => (place, rehearsal)
  | steps + 1, place, rehearsal =>
    if rests place then (place, rehearsal)
    else
      let (place, rehearsal) := rehearsal.step arguments (rehearsal.signal place) place
      advanceWithin arguments steps place rehearsal

/-- No session takes more steps before it streams, nor after. -/
def stepsBetween : Nat := 40

/-- From the start to the streaming, or to the end if it comes to none. -/
def begin (arguments : Arguments) (rehearsal : Rehearsal σ) : Place × Rehearsal σ :=
  advanceWithin arguments stepsBetween (start arguments) rehearsal

/-- From the end of streaming to the end of the session. -/
def finish (arguments : Arguments) (place : Place) (streamed : Except Device.Fault Unit)
    (rehearsal : Rehearsal σ) : Place × Rehearsal σ :=
  let (place, rehearsal) := rehearsal.step arguments (.streamed streamed) place
  advanceWithin arguments stepsBetween place rehearsal

def result? : Place → Option (Except Failure Unit)
  | .returned result => some result
  | _ => none

/-- Somebody asks to close. -/
def close (rehearsal : Rehearsal σ) : Rehearsal σ :=
  { rehearsal with service := rehearsal.service.close }.settle

/-- Samples as the receiver delivers them. Where the server wants none, streaming is cancelled. -/
def deliver (adapter : Nat)
    (feed : Loopback (Adapters σ) → FeedStatus × Loopback (Adapters σ))
    (rehearsal : Rehearsal σ) : Bool × Rehearsal σ :=
  let (status, loopback) := Adapter.samples adapter feed rehearsal.loopback
  let rehearsal := rehearsal.withLoopback loopback
  if status = .closed then
    (true, rehearsal.withService (rehearsal.service.request .cancel).2)
  else (false, rehearsal)

end Rehearsal

/-! Scripts, over a receiver that keeps a record. -/

namespace Script

inductive Step where
  | exchange (exchange : Exchange)
  | close
  /-- Wait until the server is down and the adapter has heard of it. -/
  | awaitClosed
  /-- Read the record of requests, and empty it. -/
  | requests
  /-- Streaming fails, and the script ends. -/
  | fail (fault : Device.Fault)
deriving DecidableEq, Repr

inductive Answer where
  | exchanged (answer : Exchange.Answer)
  /-- Samples were delivered; streaming was cancelled, or not. -/
  | delivered (cancelled : Bool)
  | nothing
  /-- Whether the server did go down. -/
  | awaited (isDown : Bool)
  | requests (requests : List Request)

/-- An answer, and the phase that the server was left in. -/
structure Entry where
  answer : Answer
  phase : Option Server.Phase

/-- What a script has led to. -/
structure Progress where
  rehearsal : Rehearsal Recorder
  entries : List Entry := []
  /-- Whether a client connected that nobody has waited for since. -/
  clientPending : Bool := false

/-- Takes the record of requests out. -/
def takeRequests (service : Service Recorder) : List Request × Service Recorder :=
  let world := service.relay.hub.world
  (world.device.requests, service.withWorld { world with device := world.device.forget })

def Progress.note (progress : Progress) (answer : Answer) (rehearsal : Rehearsal Recorder) :
    Progress :=
  { progress with
    rehearsal
    entries := progress.entries ++ [{ answer, phase := rehearsal.loopback.shownPhase? }] }

/-- Waits for the server to go down. Then the session counts as waited for. -/
def Progress.awaitClosed (progress : Progress) : Progress :=
  let rehearsal := progress.rehearsal.settle
  if rehearsal.loopback.isGoingDown then
    let network := { rehearsal.network with pending := false }
    { progress.note (.awaited true) { rehearsal with network } with clientPending := false }
  else progress.note (.awaited false) rehearsal

def Progress.deliver (progress : Progress) (adapter : Nat)
    (feed : Loopback (Adapters Recorder) → FeedStatus × Loopback (Adapters Recorder)) :
    Progress :=
  let (cancelled, rehearsal) := progress.rehearsal.deliver adapter feed
  progress.note (.delivered cancelled) rehearsal

def Progress.exchange (progress : Progress) (adapter : Nat) : Exchange → Progress
  | .feed bytes => progress.deliver adapter (Loopback.feed bytes)
  | .fill byte count => progress.deliver adapter (Loopback.fill byte count)
  | exchange =>
    let (answer, loopback) := progress.rehearsal.loopback.exchange exchange
    let connected := answer == .connection .connected
    { progress.note (.exchanged answer) (progress.rehearsal.withLoopback loopback) with
      clientPending := progress.clientPending || connected }

/-- A script during the streaming of a session with this adapter, and how streaming ends. -/
def run (adapter : Nat) : List Step → Progress → Except Device.Fault Unit × Progress
  | [], progress => (.ok (), progress)
  | .fail fault :: _, progress => (.error fault, progress)
  | .exchange exchange :: rest, progress => run adapter rest (progress.exchange adapter exchange)
  | .close :: rest, progress => run adapter rest (progress.note .nothing progress.rehearsal.close)
  | .awaitClosed :: rest, progress => run adapter rest progress.awaitClosed
  | .requests :: rest, progress =>
    let (requests, service) := takeRequests progress.rehearsal.service
    run adapter rest (progress.note (.requests requests) (progress.rehearsal.withService service))

end Script

/-- One session of a rehearsal. -/
structure Plan where
  arguments : Arguments
  /-- Whether somebody asks to close before the session begins. -/
  closesFirst : Bool
  script : List Script.Step

structure Transcript where
  /-- None while a client that connected has not been waited for. -/
  result : Option (Except Failure Unit)
  /-- None where the script was not come to. -/
  entries : Option (List Script.Entry)
  events : List Event
  /-- Requests that the script has not read. -/
  requests : List Request
  phase : Server.Phase
  leaks : UInt64

namespace Transcript

def take (result : Option (Except Failure Unit)) (entries : Option (List Script.Entry))
    (rehearsal : Rehearsal Recorder) : Transcript × Rehearsal Recorder :=
  let (requests, service) := Script.takeRequests rehearsal.service
  let server := service.relay.server
  ({ result, entries, events := service.events, requests
     phase := server.phase, leaks := server.counters.leaks },
    rehearsal.withService { service with events := [] })

/-- A session by its plan. It is left open if its script leaves a client that nobody waits for. -/
def ofPlan (plan : Plan) (rehearsal : Rehearsal Recorder) : Transcript × Rehearsal Recorder :=
  let rehearsal := if plan.closesFirst then rehearsal.close else rehearsal
  match rehearsal.begin plan.arguments with
  | (.streaming adapter, rehearsal) =>
    let (streamed, progress) := Script.run adapter plan.script { rehearsal }
    if progress.clientPending then take none (some progress.entries) progress.rehearsal
    else
      let (place, rehearsal) :=
        progress.rehearsal.finish plan.arguments (.streaming adapter) streamed
      take (Rehearsal.result? place) (some progress.entries) rehearsal
  | (place, rehearsal) => take (Rehearsal.result? place) none rehearsal

/-- Sessions one after another, up to the first that is left open. -/
def ofPlans : List Plan → Rehearsal Recorder → List Transcript
  | [], _ => []
  | plan :: rest, rehearsal =>
    let (transcript, rehearsal) := ofPlan plan rehearsal
    if transcript.result.isNone then [transcript] else transcript :: ofPlans rest rehearsal

end Transcript

end TunerRelay.Session
