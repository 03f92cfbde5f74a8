import TunerRelay.Log.Filter
import TunerRelay.Program.Basic
import TunerRelay.Program.Journal
import TunerRelay.Receiver.Script
import TunerRelay.Session.Rehearsal

/-!
A run of the program: it reads its configuration, probes the receiver and runs sessions, and tells
what it does in a log.
-/

namespace TunerRelay.Program

open TunerRelay.Log (Entry Filter)
open TunerRelay.Receiver (ProbeRun Tool)
open TunerRelay.Session (Rehearsal)

/-- What the program meets outside. -/
structure Surroundings where
  environment : Configuration.Environment
  /-- What the tool does when it is started to probe a receiver. -/
  probe : (toolPath : String) → (deviceIndex : UInt32) → ProbeRun
  host : Net.Host
  /-- Whether the tool goes on capturing until a signal comes, which it does once the program is
  ready for clients. -/
  interrupts : Bool

/-- How a run ends. -/
inductive Status where
  | exited (code : ExitCode)
  /-- The program breaks off before it does anything. -/
  | aborted
deriving DecidableEq, Repr

def Status.number : Status → Int32
  | .exited code => code.number
  | .aborted => 101

structure Transcript where
  entries : List Entry
  status : Status
deriving DecidableEq, Repr

namespace Transcript

/-- The entries that a filter admits. -/
def through (filter : Filter) (transcript : Transcript) : Transcript :=
  { transcript with entries := transcript.entries.filter filter.admits }

/-- The lines before the first error or the announcement of the probe. -/
def opening (transcript : Transcript) : List String :=
  (transcript.entries.takeWhile fun entry =>
    entry.level ≠ .error && !announcesProbe entry).map Entry.shown

def errors (transcript : Transcript) : List String :=
  (transcript.entries.filter fun entry => entry.level = .error).map Entry.shown

end Transcript

/-- Streaming until the tool's output ends, or until a signal has the session closed. -/
def stream (interrupts : Bool) (rehearsal : Rehearsal Receiver) :
    Option (Except Device.Fault Unit) × Rehearsal Receiver :=
  let rehearsal := if interrupts then rehearsal.close else rehearsal
  let tool := if interrupts then Tool.hanging else .silent
  let scripted := Receiver.Scripted.run tool [] rehearsal.service.device
  let world := { rehearsal.service.relay.hub.world with device := scripted.capture.receiver }
  (scripted.result?, rehearsal.withService (rehearsal.service.withWorld world))

/-- A session that is over. -/
structure Sitting where
  result : Except Session.Failure Unit
  /-- Whether a signal came in it. -/
  interrupted : Bool
  entries : List Entry
  counters : Server.Counters

/-- The entries of an opening that did not lead to streaming. -/
def unopenedEntries : Except Session.Failure Unit → List Entry
  | .error (.notOpened fault) => fault.openingEntries
  | _ => []

/-- The entries of a server that was opened, up to the start of a capture. -/
def openedEntries (service : Service Receiver) : List Entry :=
  let listening := match service.relay.server.listener with
    | some endpoint => Server.openingEntries endpoint
    | none => []
  listening ++ Server.engagingEntries ++ readyEntry :: captureEntries service.device

def session (surroundings : Surroundings) (arguments : Arguments)
    (rehearsal : Rehearsal Receiver) : Option Sitting := do
  let setup :=
    Session.setupEntries (Session.Setup.ofArguments arguments) rehearsal.service.device
  match rehearsal.begin arguments with
  | (.streaming adapter, rehearsal) =>
    let (streamed?, streamed) := stream surroundings.interrupts rehearsal
    let (place, ended) := streamed.finish arguments (.streaming adapter) (← streamed?)
    let result ← Rehearsal.result? place
    let counters := ended.service.relay.server.counters
    let signals :=
      if surroundings.interrupts then signalEntries streamed.service.device else []
    return {
      result
      interrupted := surroundings.interrupts
      entries := setup ++ openedEntries rehearsal.service ++ signals ++ streamedEntries
        ++ releaseEntries surroundings.interrupts counters
      counters }
  | (place, ended) =>
    let result ← Rehearsal.result? place
    return {
      result
      interrupted := false
      entries := setup ++ unopenedEntries result
      counters := ended.service.relay.server.counters }

/-- The status after one session, which is the last: it fails, or a signal has come in it. -/
def statusAfter (sitting : Sitting) : Option ExitCode :=
  let signals := if sitting.interrupted then [Move.interrupt] else []
  let advances := List.replicate 3 (Move.advance sitting.result)
  (({} : Program).run (.advance (.ok ()) :: signals ++ advances)).status?

/-- Sessions on a receiver that was found. -/
def serve (surroundings : Surroundings) (arguments : Arguments) (receiver : Receiver) :
    Option Transcript := do
  let rehearsal := Rehearsal.onHost surroundings.host (Service.ofDevice receiver)
  let sitting ← session surroundings arguments rehearsal
  return {
    entries := sitting.entries ++ resultEntries sitting.result ++ [farewellEntry sitting.counters]
    status := .exited (← statusAfter sitting) }

/-- What the probe finds with the configuration from an environment. -/
def probed (environment : Configuration.Environment) (probe : String → UInt32 → ProbeRun) :
    Except Device.Fault Receiver :=
  let configuration := Configuration.ofEnvironment environment
  Receiver.probe configuration.toolPath configuration.deviceIndex
    (probe configuration.toolPath configuration.deviceIndex)

/-- The program once it has read its configuration and probed the receiver: it has given up, or it
is about to run sessions. -/
def launch (environment : Configuration.Environment) (probe : String → UInt32 → ProbeRun) :
    Program :=
  match (Configuration.ofEnvironment environment).arguments with
  | .error fault => { place := .exited fault.report.code }
  | .ok _ =>
    match probed environment probe with
    | .error fault => { place := .exited fault.report.code }
    | .ok _ => {}

/-- Probes the receiver, and runs sessions if there is one. -/
def probeAndServe (surroundings : Surroundings) (arguments : Arguments) : Option Transcript := do
  let configuration := Configuration.ofEnvironment surroundings.environment
  let probeRun := surroundings.probe configuration.toolPath configuration.deviceIndex
  let probing :=
    probeEntry configuration.toolPath configuration.deviceIndex :: bannerEntries probeRun
  match probed surroundings.environment surroundings.probe with
  | .error fault =>
    return {
      entries := probing ++ [complaint probeAdvice, complaint fault.report.text]
      status := .exited fault.exitCode }
  | .ok receiver =>
    let served ← serve surroundings arguments receiver
    return { served with entries := probing ++ foundEntries receiver.banner ++ served.entries }

/-- A run with all its entries. -/
def history (surroundings : Surroundings) : Option Transcript := do
  let configuration := Configuration.ofEnvironment surroundings.environment
  let opening := titleEntries ++ toolEntries configuration
  match configuration.arguments with
  | .error fault =>
    return {
      entries := opening ++ [complaint fault.report.text]
      status := .exited fault.report.code }
  | .ok arguments =>
    let rest ← probeAndServe surroundings arguments
    return { rest with entries := opening ++ argumentEntries arguments ++ rest.entries }

/-- A run with the entries that the environment asks for. -/
def start (surroundings : Surroundings) : Option Transcript :=
  match Filter.ofVariable? (surroundings.environment Log.variableName) with
  | none => some { entries := [], status := .aborted }
  | some filter => (history surroundings).map (Transcript.through filter)

end TunerRelay.Program
