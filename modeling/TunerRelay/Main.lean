import TunerRelay.Program.Start

/-!
The command line. The configuration comes from the environment, and what the capture tool says about
the receiver from standard input.
-/

namespace TunerRelay.Configuration

/-- The process's own environment. -/
def readEnvironment : IO Environment := do
  let values ← (Log.variableName :: names).mapM fun name => return (name, ← IO.getEnv name)
  return fun name => (values.find? fun value => value.1 == name).bind (·.2)

end TunerRelay.Configuration

open TunerRelay

def main : IO UInt32 := do
  let environment ← Configuration.readEnvironment
  let banner ← (← IO.getStdin).readToEnd
  let surroundings : Program.Surroundings :=
    { environment
      probe := fun _ _ => .printed banner.toUTF8.toList
      host := { isUp := true }
      interrupts := false }
  match Program.start surroundings with
  | none => return ExitCode.unknown.number.toUInt32
  | some transcript =>
    transcript.entries.forM fun entry => IO.println entry.line
    return transcript.status.number.toUInt32
