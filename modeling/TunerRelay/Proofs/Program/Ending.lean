import Mathlib
import TunerRelay.Program.Start
import TunerRelay.Proofs.Session.Protocol

/-!
# With which status the program exits

Once its log is set up, the program reads its configuration, probes the receiver and runs sessions
until one fails or a signal comes. The first of these that goes wrong gives the status, but a signal
that comes before the last look at it overrules every session. None of them is a success.
-/

namespace TunerRelay.Program

open TunerRelay.Receiver (ProbeRun)
open TunerRelay.Session (Failure)

/-! ### The loop of sessions -/

/-- The result of the session that ends with a move. -/
def ended (program : Program) : Move → List (Except Failure Unit)
  | .interrupt => []
  | .advance result =>
    match program.place with
    | .running => [result]
    | _ => []

/-- The results of all sessions that end in a run. -/
def results (program : Program) : List Move → List (Except Failure Unit)
  | [] => []
  | move :: moves => program.ended move ++ results (program.move move) moves

theorem run_append (program : Program) (first second : List Move) :
    program.run (first ++ second) = (program.run first).run second :=
  List.foldl_append

theorem run_concat (program : Program) (moves : List Move) (move : Move) :
    program.run (moves ++ [move]) = (program.run moves).move move :=
  List.foldl_concat ..

theorem results_concat (program : Program) (moves : List Move) (move : Move) :
    program.results (moves ++ [move]) =
      program.results moves ++ (program.run moves).ended move := by
  induction moves generalizing program with
  | nil => exact List.append_nil _
  | cons first moves ih =>
      rw [List.cons_append, results, ih, results, List.append_assoc]
      rfl

theorem interrupted_run_iff (program : Program) (moves : List Move) :
    (program.run moves).interrupted = true ↔
      program.interrupted = true ∨ Move.interrupt ∈ moves := by
  induction moves using List.reverseRecOn with
  | nil => simp [run]
  | append_singleton moves move ih =>
      rw [run_concat, List.mem_append, ← or_assoc, ← ih]
      cases move with
      | interrupt => simp [Program.move]
      | advance result =>
          have hkept : ((program.run moves).advance result).interrupted =
              (program.run moves).interrupted := by
            unfold advance
            split <;> rfl
          simp [Program.move, hkept]

theorem interrupted_run (moves : List Move) :
    (({} : Program).run moves).interrupted = true ↔ Move.interrupt ∈ moves :=
  (interrupted_run_iff {} moves).trans (or_iff_right Bool.false_ne_true)

/-- After a signal, all that the program still waits for is the end of a session. -/
theorem status?_isSome_of_interrupted {program : Program}
    (hinterrupted : program.interrupted = true) (first second third : Except Failure Unit) :
    (program.run [.advance first, .advance second, .advance third]).status?.isSome = true := by
  obtain ⟨place, interrupted⟩ := program
  obtain rfl : interrupted = true := hinterrupted
  cases place with
  | running => cases first <;> rfl
  | checking | leaving | exited => rfl

/-- What has exited makes no further move. -/
theorem run_of_exited {program : Program} {code : ExitCode} (hplace : program.place = .exited code)
    (moves : List Move) : (program.run moves).place = .exited code := by
  induction moves using List.reverseRecOn with
  | nil => exact hplace
  | append_singleton moves move ih =>
      rw [run_concat]
      cases move with
      | interrupt => exact ih
      | advance result =>
          unfold Program.move advance
          rw [ih]
          exact ih

/-- The program is about to look for the last time whether a signal has come. -/
def isLeaving (program : Program) : Prop := ∃ status, program.place = .leaving status

/-- How sessions that run one after another come to an end, and with which status. -/
inductive Serves (moves : List Move) : ExitCode → Prop where
  | interrupted {before after : List Move} {result : Except Failure Unit}
    (hmoves : moves = before ++ .advance result :: after)
    (hleaving : (({} : Program).run before).isLeaving) (hsignal : .interrupt ∈ before) :
    Serves moves .signalCaught
  | failed {before after : List Move} {result : Except Failure Unit}
    {earlier : List (Except Failure Unit)} {failure : Failure}
    (hmoves : moves = before ++ .advance result :: after)
    (hleaving : (({} : Program).run before).isLeaving) (hsignal : .interrupt ∉ before)
    (hresults : ({} : Program).results before = earlier ++ [.error failure])
    (hearlier : ∀ result ∈ earlier, result = .ok ()) : Serves moves failure.code

/-- Where the loop stands after some moves. -/
inductive Stands (moves : List Move) : Place → Prop where
  | checking (hresults : ∀ result ∈ ({} : Program).results moves, result = .ok ()) :
    Stands moves .checking
  | running (hresults : ∀ result ∈ ({} : Program).results moves, result = .ok ()) :
    Stands moves .running
  | stopped (hsignal : .interrupt ∈ moves) : Stands moves (.leaving .ok)
  | failed {earlier : List (Except Failure Unit)} {failure : Failure}
    (hresults : ({} : Program).results moves = earlier ++ [.error failure])
    (hearlier : ∀ result ∈ earlier, result = .ok ()) : Stands moves (.leaving failure.code)
  | exited {code : ExitCode} (hserves : Serves moves code) : Stands moves (.exited code)

theorem Serves.append {moves : List Move} {code : ExitCode} (hserves : Serves moves code)
    (more : List Move) : Serves (moves ++ more) code := by
  cases hserves with
  | interrupted hmoves hleaving hsignal =>
      rw [hmoves, List.append_assoc, List.cons_append]
      exact .interrupted rfl hleaving hsignal
  | failed hmoves hleaving hsignal hresults hearlier =>
      rw [hmoves, List.append_assoc, List.cons_append]
      exact .failed rfl hleaving hsignal hresults hearlier

/-- A signal changes nothing about where the loop stands. -/
theorem Stands.interrupt {moves : List Move} {place : Place} (hstands : Stands moves place) :
    Stands (moves ++ [.interrupt]) place := by
  have hsame : ({} : Program).results (moves ++ [.interrupt]) = ({} : Program).results moves :=
    (results_concat {} moves .interrupt).trans (List.append_nil _)
  cases hstands with
  | checking hresults => exact .checking (hsame ▸ hresults)
  | running hresults => exact .running (hsame ▸ hresults)
  | stopped hsignal => exact .stopped (List.mem_append_left _ hsignal)
  | failed hresults hearlier => exact .failed (hsame.trans hresults) hearlier
  | exited hserves => exact .exited (hserves.append _)

theorem Stands.advance {moves : List Move} {program : Program}
    (hrun : ({} : Program).run moves = program) (hstands : Stands moves program.place)
    (result : Except Failure Unit) :
    Stands (moves ++ [.advance result]) (program.advance result).place := by
  have hinterrupted := interrupted_run moves
  have hresults := results_concat {} moves (.advance result)
  rw [hrun] at hinterrupted hresults
  obtain ⟨place, interrupted⟩ := program
  cases hstands with
  | checking hall =>
      cases interrupted with
      | true => exact .stopped (List.mem_append_left _ (hinterrupted.mp rfl))
      | false => exact .running (hresults.trans (List.append_nil _) ▸ hall)
  | running hall =>
      cases result with
      | ok =>
          refine .checking ?_
          rw [hresults]
          intro other hother
          rcases List.mem_append.mp hother with hmem | hlast
          · exact hall other hmem
          · exact List.mem_singleton.mp hlast
      | error failure => exact .failed hresults hall
  | stopped hsignal =>
      obtain rfl : interrupted = true := hinterrupted.mpr hsignal
      exact .exited (.interrupted rfl ⟨.ok, by rw [hrun]⟩ hsignal)
  | @failed earlier failure hlast hearlier =>
      cases interrupted with
      | true => exact .exited (.interrupted rfl ⟨_, by rw [hrun]⟩ (hinterrupted.mp rfl))
      | false =>
          refine .exited (.failed rfl ⟨_, by rw [hrun]⟩ ?_ hlast hearlier)
          exact fun hsignal => Bool.false_ne_true (hinterrupted.mpr hsignal)
  | exited hserves => exact .exited (hserves.append _)

theorem stands_run (moves : List Move) : Stands moves (({} : Program).run moves).place := by
  induction moves using List.reverseRecOn with
  | nil => exact .checking nofun
  | append_singleton moves move ih =>
      rw [run_concat]
      cases move with
      | interrupt => exact ih.interrupt
      | advance result => exact ih.advance rfl result

theorem status?_eq_some_iff (program : Program) (code : ExitCode) :
    program.status? = some code ↔ program.place = .exited code := by
  unfold status?
  split <;> simp_all

/-- The last look decides. -/
theorem place_run_of_leaving {before : List Move} {status : ExitCode}
    (hplace : (({} : Program).run before).place = .leaving status)
    (result : Except Failure Unit) (after : List Move) :
    (({} : Program).run (before ++ .advance result :: after)).place =
      .exited (if (({} : Program).run before).interrupted then .signalCaught else status) := by
  rw [List.append_cons, run_append, run_concat]
  apply run_of_exited
  simp only [Program.move, advance, hplace]

/-- The loop exits just with the status that the sessions and the signal account for. -/
theorem status?_run_iff (moves : List Move) (code : ExitCode) :
    (({} : Program).run moves).status? = some code ↔ Serves moves code := by
  rw [status?_eq_some_iff]
  constructor
  · intro hplace
    have hstands := stands_run moves
    rw [hplace] at hstands
    cases hstands with
    | exited hserves => exact hserves
  · intro hserves
    cases hserves with
    | interrupted hmoves hleaving hsignal =>
        obtain ⟨status, hplace⟩ := hleaving
        rw [hmoves, place_run_of_leaving hplace, if_pos ((interrupted_run _).mpr hsignal)]
    | @failed before after result earlier failure hmoves hleaving hsignal hresults hearlier =>
        obtain ⟨status, hplace⟩ := hleaving
        rw [hmoves, place_run_of_leaving hplace, if_neg (mt (interrupted_run _).mp hsignal)]
        have hstands := stands_run before
        rw [hplace] at hstands
        cases hstands with
        | stopped hcame => exact absurd hcame hsignal
        | failed hlast hother =>
            obtain ⟨-, hfailure⟩ := List.append_inj' (hlast.symm.trans hresults) rfl
            obtain rfl := Except.error.inj (List.singleton_inj.mp hfailure)
            rfl

/-! ### The whole program -/

/-- A probe finds that the tool is missing or the receiver is, and never a fault of the bus. -/
theorem exitCode_of_probe {toolPath : String} {deviceIndex : UInt32} {run : ProbeRun}
    {fault : Device.Fault} (hprobe : Receiver.probe toolPath deviceIndex run = .error fault) :
    fault.exitCode = .failedToOpenDevice ∨ fault.exitCode = .noDevicesFound := by
  cases run with
  | notStarted reason =>
      cases hprobe
      exact .inl rfl
  | printed stream =>
      simp only [Receiver.probe] at hprobe
      split at hprobe
      · cases hprobe
        exact .inr rfl
      · cases hprobe

/-- How a run ends, and with which status. -/
inductive Ends (environment : Configuration.Environment) (probe : String → UInt32 → ProbeRun)
    (moves : List Move) : ExitCode → Prop where
  | misconfigured {fault : Arguments.Fault}
    (harguments : (Configuration.ofEnvironment environment).arguments = .error fault) :
    Ends environment probe moves .wrongArguments
  | unequipped {arguments : Arguments} {fault : Device.Fault}
    (harguments : (Configuration.ofEnvironment environment).arguments = .ok arguments)
    (hprobe : probed environment probe = .error fault) :
    Ends environment probe moves fault.exitCode
  | served {arguments : Arguments} {receiver : Receiver} {code : ExitCode}
    (harguments : (Configuration.ofEnvironment environment).arguments = .ok arguments)
    (hprobe : probed environment probe = .ok receiver) (hserves : Serves moves code) :
    Ends environment probe moves code

section Launch

variable {environment : Configuration.Environment} {probe : String → UInt32 → ProbeRun}

theorem status?_run_of_exited (code : ExitCode) (moves : List Move) :
    (({ place := .exited code } : Program).run moves).status? = some code :=
  (status?_eq_some_iff _ code).mpr (run_of_exited rfl moves)

/-- The program ends just as its configuration, its probe, its sessions and the signal have it. -/
theorem status?_launch_iff (moves : List Move) (code : ExitCode) :
    ((launch environment probe).run moves).status? = some code ↔
      Ends environment probe moves code := by
  unfold launch
  cases harguments : (Configuration.ofEnvironment environment).arguments with
  | error fault =>
      have hcode := status?_run_of_exited fault.report.code moves
      constructor
      · intro hstatus
        obtain rfl := Option.some.inj (hcode.symm.trans hstatus)
        exact .misconfigured harguments
      · intro hends
        cases hends with
        | misconfigured => exact hcode
        | unequipped hother | served hother => exact absurd (harguments.symm.trans hother) nofun
  | ok arguments =>
      cases hprobe : probed environment probe with
      | error fault =>
          have hcode := status?_run_of_exited fault.report.code moves
          constructor
          · intro hstatus
            obtain rfl := Option.some.inj (hcode.symm.trans hstatus)
            exact .unequipped harguments hprobe
          · intro hends
            cases hends with
            | misconfigured hother => exact absurd (harguments.symm.trans hother) nofun
            | unequipped _ hsame =>
                obtain rfl := Except.error.inj (hprobe.symm.trans hsame)
                exact hcode
            | served _ hother => exact absurd (hprobe.symm.trans hother) nofun
      | ok receiver =>
          refine (status?_run_iff moves code).trans ⟨.served harguments hprobe, ?_⟩
          intro hends
          cases hends with
          | misconfigured hother => exact absurd (harguments.symm.trans hother) nofun
          | unequipped _ hother => exact absurd (hprobe.symm.trans hother) nofun
          | served _ _ hserves => exact hserves

theorem Serves.ne_ok {moves : List Move} {code : ExitCode} (hserves : Serves moves code) :
    code ≠ .ok := by
  cases hserves with
  | interrupted => exact nofun
  | @failed _ _ _ _ failure => exact failure.code_ne_ok

theorem Ends.ne_ok {moves : List Move} {code : ExitCode}
    (hends : Ends environment probe moves code) : code ≠ .ok := by
  cases hends with
  | misconfigured => exact nofun
  | unequipped harguments hprobe =>
      rcases exitCode_of_probe hprobe with hcode | hcode <;> rw [hcode] <;> exact nofun
  | served harguments hprobe hserves => exact hserves.ne_ok

end Launch

/-! ### Runs with their log -/

theorem ends_of_serve {surroundings : Surroundings} {arguments : Arguments} {receiver : Receiver}
    {transcript : Transcript} (hserve : serve surroundings arguments receiver = some transcript) :
    ∃ moves code, transcript.status = .exited code ∧ Serves moves code := by
  simp only [serve, Option.bind_eq_bind, Option.bind_eq_some_iff] at hserve
  obtain ⟨sitting, -, code, hstatus, hsame⟩ := hserve
  cases hsame
  exact ⟨_, code, rfl, (status?_run_iff _ code).mp hstatus⟩

/-- The log of a run shows a status that the run can end with. -/
theorem ends_of_history {surroundings : Surroundings} {transcript : Transcript}
    (hhistory : history surroundings = some transcript) :
    ∃ moves code, transcript.status = .exited code ∧
      Ends surroundings.environment surroundings.probe moves code := by
  unfold history at hhistory
  cases harguments : (Configuration.ofEnvironment surroundings.environment).arguments with
  | error fault =>
      simp only [harguments] at hhistory
      cases hhistory
      exact ⟨[], _, rfl, .misconfigured harguments⟩
  | ok arguments =>
      simp only [harguments, Option.bind_eq_bind, Option.bind_eq_some_iff] at hhistory
      obtain ⟨rest, hrest, hsame⟩ := hhistory
      cases hsame
      unfold probeAndServe at hrest
      cases hprobe : probed surroundings.environment surroundings.probe with
      | error fault =>
          simp only [hprobe] at hrest
          cases hrest
          exact ⟨[], _, rfl, .unequipped harguments hprobe⟩
      | ok receiver =>
          simp only [hprobe, Option.bind_eq_bind, Option.bind_eq_some_iff] at hrest
          obtain ⟨served, hserve, hsame⟩ := hrest
          cases hsame
          obtain ⟨moves, code, hstatus, hserves⟩ := ends_of_serve hserve
          exact ⟨moves, code, hstatus, .served harguments hprobe hserves⟩

/-- **The exit status.** Whatever the environment is, what the tool does when it is run to probe,
how sessions end and when a signal comes: a run ends with a status just if it is the one of these
that applies. It is that of wrong arguments if the configuration gives none; else that of the fault
with which the probe failed; else that of a caught signal if one came before the last look at it,
however the last session ended; else that of the first session that failed, all earlier ones having
succeeded. So it is never that of success. Once a signal has come the run ends as soon as the
session at hand does, and the log of a run shows a status of this kind. -/
theorem exit_status (environment : Configuration.Environment) (probe : String → UInt32 → ProbeRun)
    (moves : List Move) :
    (∀ code, ((launch environment probe).run moves).status? = some code ↔
      Ends environment probe moves code) ∧
    (∀ code, ((launch environment probe).run moves).status? = some code → code.number ≠ 0) ∧
    (.interrupt ∈ moves → ∀ first second third : Except Failure Unit,
      ((launch environment probe).run
        (moves ++ [.advance first, .advance second, .advance third])).status?.isSome = true) ∧
    ∀ (surroundings : Surroundings) (transcript : Transcript),
      history surroundings = some transcript → ∃ moves code, transcript.status = .exited code ∧
        Ends surroundings.environment surroundings.probe moves code := by
  refine ⟨status?_launch_iff moves, fun code hstatus => ?_, fun hsignal first second third => ?_,
    fun _ _ => ends_of_history⟩
  · have hne := ((status?_launch_iff moves code).mp hstatus).ne_ok
    cases code <;> first | exact absurd rfl hne | decide
  · rw [run_append]
    exact status?_isSome_of_interrupted ((interrupted_run_iff _ moves).mpr (.inr hsignal)) ..

/-- One session succeeds, and in the second a signal comes, which makes it fail. -/
def interruptedMoves : List Move :=
  [.advance (.ok ()), .advance (.ok ()), .advance (.ok ()), .interrupt,
    .advance (.error (.streaming (.process "rtl_sdr ended"))), .advance (.ok ())]

theorem exit_status_interrupted :
    ((launch (fun _ => none) fun _ _ => .printed []).run interruptedMoves).status? =
        some .signalCaught ∧
      Ends (fun _ => none) (fun _ _ => .printed []) interruptedMoves .signalCaught ∧
      ExitCode.signalCaught.number ≠ 0 ∧ .interrupt ∈ interruptedMoves ∧
      ((launch (fun _ => none) fun _ _ => .printed []).run
        (interruptedMoves ++ List.replicate 3 (.advance (.ok ())))).status?.isSome = true ∧
      ∃ transcript, history
          { environment := fun _ => none
            probe := fun _ _ => .printed []
            host := { isUp := true }
            interrupts := true } = some transcript ∧
        ∃ moves code, transcript.status = .exited code ∧
          Ends (fun _ => none) (fun _ _ => .printed []) moves code := by
  have hstatus : ((launch (fun _ => none) fun _ _ => .printed []).run interruptedMoves).status? =
    some .signalCaught := by decide +kernel
  have hsignal : Move.interrupt ∈ interruptedMoves := by simp [interruptedMoves]
  obtain ⟨hends, hnumber, hsome, hlogged⟩ :=
    exit_status (fun _ => none) (fun _ _ => .printed []) interruptedMoves
  have hhistory : (history
      { environment := fun _ => none
        probe := fun _ _ => .printed []
        host := { isUp := true }
        interrupts := true }).isSome = true := by decide +kernel
  obtain ⟨transcript, htranscript⟩ := Option.isSome_iff_exists.mp hhistory
  exact ⟨hstatus, (hends _).mp hstatus, hnumber _ hstatus, hsignal, hsome hsignal _ _ _, transcript,
    htranscript, hlogged _ transcript htranscript⟩

end TunerRelay.Program
