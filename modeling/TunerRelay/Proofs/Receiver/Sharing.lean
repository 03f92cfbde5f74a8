import TunerRelay.Receiver.Capture

/-!
# A receiver shared by a capture and its setters

The settings are under a lock, the generation is not: whoever changes settings writes them, counts
the change and only then lets go of the lock, and the capture may look at the generation between any
two of these. To start the tool the capture copies the settings under the lock and starts the tool
afterwards. Taken without interruption the steps of a setter add up to the request itself, and those
of a start to the one step of the capture: `move_request_edit`, `move_copy_start`.
-/

namespace TunerRelay.Receiver

open TunerRelay.Device (Request)

/-- Requests that are answered without a look at the settings. -/
def isAside : Request → Bool
  | .resetBuffer | .stream | .cancel | .close => true
  | _ => false

/-- The capture itself changes no settings and counts nothing. -/
theorem Capture.receiver_step (signal : Signal) (place : Place) (receiver : Receiver) :
    (step signal { place, receiver }).receiver.settings = receiver.settings ∧
      (step signal { place, receiver }).receiver.generation = receiver.generation := by
  cases place with
  | starting | running | drained | comparing | judging =>
      simp only [step]
      split <;> exact ⟨rfl, rfl⟩
  | launching | reading => cases signal <;> exact ⟨rfl, rfl⟩
  | sampling | delivering | finished => exact ⟨rfl, rfl⟩

/-- How far the setter has come that holds the lock. -/
inductive Edit where
  /-- It has copied nothing and written nothing. -/
  | entered (request : Request)
  /-- The new settings are written; about to compare them with the old ones and to count. -/
  | written (before : Settings)
  /-- About to let go of the lock. -/
  | counted (before : Settings)
deriving DecidableEq, Repr

/-- What the lock's holder has not let anybody see yet replaces these settings. -/
def Edit.before (edit : Edit) (settings : Settings) : Settings :=
  match edit with
  | .entered _ => settings
  | .written before | .counted before => before

structure Sharing where
  receiver : Receiver
  /-- Where the capture stands. -/
  place : Place := .finished (.ok ())
  /-- Settings copied for a start of the tool that is still to come. -/
  copied : Option Settings := none
  /-- The setter that holds the lock. -/
  edit : Option Edit := none
  /-- The command line of the tool whose output the capture reads, or has read last. -/
  commandLine : Option (List String) := none
  /-- Changes of the settings counted so far. -/
  changes : Nat := 0
  /-- How many they were when the capture noted the generation. -/
  noted : Nat := 0

namespace Sharing

inductive Move where
  /-- Somebody makes a request. A setter waits while another holds the lock. -/
  | request (request : Request)
  /-- The setter that holds the lock goes on. -/
  | edit
  /-- A capture begins, unless one is under way. -/
  | begin
  | capture (signal : Signal)
deriving DecidableEq, Repr

def start (receiver : Receiver) : Sharing := { receiver }

/-- The settings as the last setter left them that has let go of the lock. -/
def inForce (sharing : Sharing) : Settings :=
  match sharing.edit with
  | some edit => edit.before sharing.receiver.settings
  | none => sharing.receiver.settings

def ask (request : Request) (sharing : Sharing) : Sharing :=
  if isAside request then
    { sharing with receiver := (sharing.receiver.perform request).2 }
  else
    match sharing.edit, sharing.receiver.settings.apply request with
    | none, .ok _ => { sharing with edit := some (.entered request) }
    | _, _ => sharing

def stepEdit (sharing : Sharing) : Sharing :=
  match sharing.edit with
  | none => sharing
  | some (.entered request) =>
    let before := sharing.receiver.settings
    let settings := (before.apply request).toOption.getD before
    { sharing with
      receiver := { sharing.receiver with settings }, edit := some (.written before) }
  | some (.written before) =>
    if sharing.receiver.settings = before then { sharing with edit := some (.counted before) }
    else
      { sharing with
        receiver := { sharing.receiver with generation := sharing.receiver.generation + 1 }
        edit := some (.counted before)
        changes := sharing.changes + 1 }
  | some (.counted _) => { sharing with edit := none }

/-- The capture's own step, in the receiver's cells. -/
def stepCapture (signal : Signal) (sharing : Sharing) : Sharing :=
  let capture := Capture.step signal { place := sharing.place, receiver := sharing.receiver }
  { sharing with place := capture.place, receiver := capture.receiver }

/-- The start of the tool with settings copied before. -/
def launch (settings : Settings) (signal : Signal) (sharing : Sharing) : Sharing :=
  let receiver := { sharing.receiver with settings }
  let place := (Capture.step signal { place := sharing.place, receiver }).place
  match place with
  | .running _ settings =>
    { sharing with place, commandLine := some settings.toolArguments }
  | _ => { sharing with place }

/-- Towards a start of the tool: the settings are copied once nobody holds the lock. -/
def prepare (signal : Signal) (sharing : Sharing) : Sharing :=
  match sharing.copied, sharing.edit with
  | some settings, _ => sharing.launch settings signal
  | none, none => { sharing with copied := some sharing.receiver.settings }
  | none, some _ => sharing

def capture (signal : Signal) (sharing : Sharing) : Sharing :=
  match sharing.place with
  | .sampling => { sharing.stepCapture signal with noted := sharing.changes, copied := none }
  | .launching _ => sharing.prepare signal
  | _ => sharing.stepCapture signal

def move (sharing : Sharing) : Move → Sharing
  | .request request => sharing.ask request
  | .edit => sharing.stepEdit
  | .begin =>
    match sharing.place with
    | .finished _ => { sharing with place := .starting }
    | _ => sharing
  | .capture signal => sharing.capture signal

def run (sharing : Sharing) (moves : List Move) : Sharing := moves.foldl move sharing

/-! ### Without interruption -/

theorem apply_of_isAside {request : Request} (haside : isAside request) (settings : Settings) :
    settings.apply request = .ok settings := by
  cases request <;> first | rfl | cases haside

theorem move_request_edit {sharing : Sharing} {request : Request} {settings : Settings}
    (haside : isAside request = false) (hedit : sharing.edit = none)
    (happly : sharing.receiver.settings.apply request = .ok settings) :
    let next := sharing.run [.request request, .edit, .edit, .edit]
    next.receiver = (sharing.receiver.perform request).2 ∧ next.edit = none ∧
      next.changes =
        sharing.changes + if settings = sharing.receiver.settings then 0 else 1 := by
  have hcancelled : cancelledAfter sharing.receiver.cancelled request =
      sharing.receiver.cancelled := by
    cases request <;> first | rfl | cases haside
  by_cases hsame : settings = sharing.receiver.settings
  · subst hsame
    simp [run, move, ask, haside, hedit, happly, stepEdit, Except.toOption, perform, update,
      hcancelled]
  · simp [run, move, ask, haside, hedit, happly, stepEdit, Except.toOption, perform, update,
      hcancelled, hsame]

theorem move_copy_start {sharing : Sharing} {generation : UInt64} (hedit : sharing.edit = none)
    (hcopied : sharing.copied = none) (hplace : sharing.place = .launching generation)
    (signal : Signal) :
    let next := sharing.run [.capture signal, .capture signal]
    let capture := Capture.step signal { place := sharing.place, receiver := sharing.receiver }
    next.place = capture.place ∧ next.receiver = capture.receiver := by
  cases signal <;>
    simp [run, move, Sharing.capture, prepare, hedit, hcopied, hplace, launch, Capture.step,
      Capture.goTo]

end Sharing

end TunerRelay.Receiver
