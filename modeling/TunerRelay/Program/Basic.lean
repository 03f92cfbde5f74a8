import TunerRelay.Session.Failure

/-!
The loop that runs sessions until one fails or a signal interrupts it, and the status with which the
program exits.
-/

namespace TunerRelay

/-- Where the loop stands, with the status that it would exit with. -/
inductive Program.Place where
  /-- About to look whether a signal has come. -/
  | checking
  /-- A session is running. -/
  | running
  /-- No more sessions; about to look once more whether a signal has come. -/
  | leaving (status : ExitCode)
  | exited (status : ExitCode)
deriving DecidableEq, Repr

structure Program where
  place : Program.Place := .checking
  interrupted : Bool := false
deriving DecidableEq, Repr

namespace Program

inductive Move where
  /-- A signal comes. -/
  | interrupt
  /-- The loop goes on, by itself or because the session has ended with this result. -/
  | advance (result : Except Session.Failure Unit)

def advance (result : Except Session.Failure Unit) (program : Program) : Program :=
  match program.place with
  | .checking =>
    { program with place := if program.interrupted then .leaving .ok else .running }
  | .running =>
    { program with
      place := match result with
        | .ok () => .checking
        | .error failure => .leaving failure.code }
  | .leaving status =>
    { program with place := .exited (if program.interrupted then .signalCaught else status) }
  | .exited _ => program

def move (program : Program) : Move → Program
  | .interrupt => { program with interrupted := true }
  | .advance result => program.advance result

def run (program : Program) (moves : List Move) : Program := moves.foldl move program

def status? (program : Program) : Option ExitCode :=
  match program.place with
  | .exited status => some status
  | _ => none

end Program

end TunerRelay
