import Mathlib
import TunerRelay.Proofs.Receiver.Changes

/-!
# What becomes of a capture

The tool prints one chunk in each of its runs and ends. While a chunk is handed on a list of requests
is made of the receiver, the next list for each chunk, and then none. Whether the tool is started again
is decided after each chunk from what its requests have left behind.
-/

namespace TunerRelay.Receiver

open TunerRelay.Device (Request Fault)

/-- A capture under way, with what is still to come. -/
structure Reading where
  capture : Capture
  /-- How many bytes the tool prints in its runs to come, each with the settings it is started with. -/
  output : Nat → Settings → Nat
  /-- What is requested while the chunks to come are handed on. -/
  script : List (List Request)
  /-- Whether the present run has printed its chunk. -/
  printed : Bool := false
  /-- The command lines of the runs so far. -/
  started : List (List String) := []

namespace Reading

def start (output : Nat → Settings → Nat) (script : List (List Request)) (receiver : Receiver) :
    Reading :=
  { capture := .start receiver, output, script }

def signal (reading : Reading) : Signal :=
  match reading.capture.place with
  | .launching _ => .started
  | .reading _ settings =>
    if reading.printed then .endOfOutput else .chunk (reading.output 0 settings)
  | _ => .silence

/-- One step of the capture, with what the tool and those who make requests contribute to it. -/
def step (reading : Reading) : Reading :=
  let capture := reading.capture.step reading.signal
  match reading.capture.place, capture.place with
  | .launching _, .running _ settings =>
    { reading with
      capture
      printed := false
      started := reading.started ++ [settings.toolArguments] }
  | .delivering _ _, _ =>
    { reading with
      capture :=
        { capture with receiver := capture.receiver.after (reading.script.headD []) }
      output := fun run => reading.output (run + 1)
      script := reading.script.tail
      printed := true }
  | _, _ => { reading with capture }

/-! ### One run of the tool -/

section Round

variable {output : Nat → Settings → Nat} {script : List (List Request)} {receiver : Receiver}
  {printed : Bool} {started : List (List String)}

/-- The receiver after a first chunk. -/
def handOn (output : Nat → Settings → Nat) (script : List (List Request)) (receiver : Receiver) :
    Receiver :=
  (Capture.countChunk receiver (output 0 receiver.settings)).after (script.headD [])

theorem iterate_of_cancelled (hcancelled : receiver.cancelled = true) :
    step^[1] { capture := .start receiver, output, script, printed, started } =
      { capture := { place := .finished (.ok ()), receiver }, output, script, printed, started } := by
  simp [step, Capture.start, Capture.step, Capture.goTo, hcancelled]

theorem iterate_to_chunk (hlive : receiver.cancelled = false) :
    step^[7] { capture := .start receiver, output, script, printed, started } =
      { capture :=
          { place := .running receiver.generation receiver.settings
            receiver := handOn output script receiver }
        output := fun run => output (run + 1)
        script := script.tail
        printed := true
        started := started ++ [receiver.settings.toolArguments] } := by
  simp [step, signal, Capture.start, Capture.step, Capture.goTo, Capture.countChunk, handOn, hlive]

variable {generation : UInt64} {settings : Settings}

theorem iterate_stopped (hcancelled : receiver.cancelled = true) :
    let running : Capture := { place := .running generation settings, receiver }
    step^[1] { capture := running, output, script, printed, started } =
      { capture := { place := .finished (.ok ()), receiver }, output, script, printed, started } := by
  simp [step, Capture.step, Capture.goTo, hcancelled]

theorem iterate_restarted (hlive : receiver.cancelled = false)
    (hmoved : receiver.generation ≠ generation) :
    let running : Capture := { place := .running generation settings, receiver }
    let again := Capture.start (Capture.countRestart receiver)
    step^[2] { capture := running, output, script, printed, started } =
      { capture := again, output, script, printed, started } := by
  simp [step, Capture.step, Capture.goTo, Capture.start, hlive, hmoved]

theorem iterate_closed (hlive : receiver.cancelled = false)
    (hsame : receiver.generation = generation) :
    let running : Capture := { place := .running generation settings, receiver }
    let closed : Capture := { place := .finished (.error Capture.outputClosed), receiver }
    step^[5] { capture := running, output, script, printed := true, started } =
      { capture := closed, output, script, printed := true, started } := by
  simp [step, signal, Capture.step, Capture.goTo, hlive, hsame]

end Round

end Reading

/-! ### The receiver between the runs -/

/-- The receiver once the first lists of requests have been made. -/
def answered (receiver : Receiver) (script : List (List Request)) (count : Nat) : Receiver :=
  receiver.after (script.take count).flatten

theorem answered_succ (receiver : Receiver) (script : List (List Request)) (count : Nat) :
    receiver.answered script (count + 1) =
      (receiver.after (script.headD [])).answered script.tail count := by
  cases script with
  | nil => simp [answered]
  | cons requests rest => exact receiver.after_append requests (rest.take count).flatten

theorem answered_one (receiver : Receiver) (script : List (List Request)) :
    receiver.answered script 1 = receiver.after (script.headD []) :=
  receiver.answered_succ script 0

theorem answered_tail (receiver : Receiver) (script : List (List Request)) (count : Nat) :
    (receiver.answered script 1).answered script.tail count =
      receiver.answered script (count + 1) := by
  rw [answered_succ receiver script count, answered_one]

theorem answered_recounted (receiver : Receiver) (bytes buffers restarts : UInt64)
    (script : List (List Request)) (count : Nat) :
    (receiver.recounted bytes buffers restarts).answered script count =
      (receiver.answered script count).recounted bytes buffers restarts :=
  receiver.after_recounted bytes buffers restarts _

namespace Reading

theorem handOn_eq (output : Nat → Settings → Nat) (script : List (List Request))
    (receiver : Receiver) :
    handOn output script receiver =
      (receiver.answered script 1).recounted
        (receiver.bytesCaptured + UInt64.ofNat (output 0 receiver.settings))
        (receiver.buffersProcessed + 1) receiver.restarts := by
  rw [answered_one]
  exact receiver.after_recounted _ _ _ _

theorem generation_handOn_eq_iff (output : Nat → Settings → Nat) (script : List (List Request))
    (receiver : Receiver) :
    (handOn output script receiver).generation = receiver.generation ↔
      2 ^ 64 ∣ receiver.changes (script.headD []) := by
  rw [handOn_eq, answered_one, ← generation_after_eq_iff]
  rfl

/-! ### Outcomes -/

/-- What comes after the chunk of a run, when there have been so many runs in the end. -/
inductive Turn (script : List (List Request)) (receiver : Receiver) (runs : Nat)
    (result : Except Fault Unit) (run : Nat) : Prop where
  | stopped (hcancelled : (receiver.answered script (run + 1)).cancelled = true)
    (hlast : run + 1 = runs) (hresult : result = .ok ())
  /-- The requests have moved the generation. -/
  | restarted (hlive : (receiver.answered script (run + 1)).cancelled = false)
    (hmoved : ¬ 2 ^ 64 ∣ (receiver.answered script run).changes (script.getD run []))
    (hnext : run + 1 < runs)
  | closed (hlive : (receiver.answered script (run + 1)).cancelled = false)
    (hsame : 2 ^ 64 ∣ (receiver.answered script run).changes (script.getD run []))
    (hlast : run + 1 = runs) (hresult : result = .error Capture.outputClosed)

/-- What has become of a capture when it ends with this result and leaves the receiver so, after the
tool was started with these command lines. -/
structure Outcome (output : Nat → Settings → Nat) (script : List (List Request))
    (receiver : Receiver) (started : List (List String)) (result : Except Fault Unit)
    (last : Receiver) : Prop where
  length_le : started.length ≤ script.length + 1
  /-- Nothing is done if streaming was cancelled before. -/
  idle_iff : started = [] ↔ receiver.cancelled = true
  idle : started = [] → result = .ok ()
  started_eq : ∀ (run : Nat) (line : List String), started[run]? = some line →
    line = (receiver.answered script run).settings.toolArguments
  turn : ∀ run < started.length, Turn script receiver started.length result run
  bytes : last.bytesCaptured = receiver.bytesCaptured +
    UInt64.ofNat ((List.range started.length).map fun run =>
      output run (receiver.answered script run).settings).sum
  buffers : last.buffersProcessed = receiver.buffersProcessed + UInt64.ofNat started.length
  restarts : last.restarts = receiver.restarts + UInt64.ofNat (started.length - 1)
  /-- But for these counts the receiver is as the requests have left it. -/
  last_eq : last = (receiver.answered script started.length).recounted last.bytesCaptured
    last.buffersProcessed last.restarts

section Outcome

variable {output : Nat → Settings → Nat} {script : List (List Request)} {receiver : Receiver}

theorem Outcome.of_cancelled (output : Nat → Settings → Nat) (script : List (List Request))
    (hcancelled : receiver.cancelled = true) :
    Outcome output script receiver [] (.ok ()) receiver where
  length_le := Nat.zero_le _
  idle_iff := iff_of_true rfl hcancelled
  idle := fun _ => rfl
  started_eq := nofun
  turn := nofun
  bytes := (UInt64.add_zero _).symm
  buffers := (UInt64.add_zero _).symm
  restarts := (UInt64.add_zero _).symm
  last_eq := rfl

/-- The capture ends with its first run. -/
theorem Outcome.of_last {result : Except Fault Unit} (hlive : receiver.cancelled = false)
    (hturn : Turn script receiver 1 result 0) :
    Outcome output script receiver [receiver.settings.toolArguments] result
      (handOn output script receiver) where
  length_le := Nat.le_add_left _ _
  idle_iff := by simp [hlive]
  idle := nofun
  started_eq := by
    intro run line hline
    obtain ⟨hlt, rfl⟩ := List.getElem?_eq_some_iff.mp hline
    obtain rfl : run = 0 := by simpa using hlt
    rfl
  turn := by
    intro run hlt
    obtain rfl : run = 0 := by simpa using hlt
    exact hturn
  bytes := by
    rw [handOn_eq]
    rfl
  buffers := by
    rw [handOn_eq]
    rfl
  restarts := by
    rw [handOn_eq]
    exact (UInt64.add_zero _).symm
  last_eq := by
    rw [handOn_eq]
    rfl

theorem Turn.shift {bytes buffers restarts : UInt64} {runs run : Nat} {result : Except Fault Unit}
    (hturn : Turn script.tail
      ((receiver.answered script 1).recounted bytes buffers restarts) runs result run) :
    Turn script receiver (runs + 1) result (run + 1) := by
  have hrequests : script.tail.getD run [] = script.getD (run + 1) [] := by
    cases script <;> rfl
  cases hturn with
  | stopped hcancelled hlast hresult =>
      rw [answered_recounted, answered_tail] at hcancelled
      exact .stopped hcancelled (congrArg (· + 1) hlast) hresult
  | restarted hlive hmoved hnext =>
      rw [answered_recounted, answered_tail] at hlive
      rw [answered_recounted, changes_recounted, answered_tail, hrequests] at hmoved
      exact .restarted hlive hmoved (Nat.succ_lt_succ hnext)
  | closed hlive hsame hlast hresult =>
      rw [answered_recounted, answered_tail] at hlive
      rw [answered_recounted, changes_recounted, answered_tail, hrequests] at hsame
      exact .closed hlive hsame (congrArg (· + 1) hlast) hresult

/-- The capture goes on with another run after its first one. -/
theorem Outcome.of_next {started : List (List String)} {result : Except Fault Unit}
    {last : Receiver} (hlive : receiver.cancelled = false)
    (hstill : (receiver.answered script 1).cancelled = false)
    (hmoved : ¬ 2 ^ 64 ∣ receiver.changes (script.headD []))
    (houtcome : Outcome (fun run => output (run + 1)) script.tail
      (Capture.countRestart (handOn output script receiver)) started result last) :
    Outcome output script receiver (receiver.settings.toolArguments :: started) result last := by
  have hnext : Capture.countRestart (handOn output script receiver) =
      (receiver.answered script 1).recounted
        (receiver.bytesCaptured + UInt64.ofNat (output 0 receiver.settings))
        (receiver.buffersProcessed + 1) (receiver.restarts + 1) := by
    rw [handOn_eq]
    rfl
  rw [hnext] at houtcome
  have hpos : 0 < started.length := by
    refine List.length_pos_of_ne_nil ?_
    intro hnil
    have hcancelled := houtcome.idle_iff.mp hnil
    rw [cancelled_recounted, hstill] at hcancelled
    cases hcancelled
  have hscript : script.tail.length + 1 = script.length := by
    cases script with
    | nil => exact absurd (Nat.dvd_zero _) hmoved
    | cons requests rest => rfl
  constructor
  · have hle := houtcome.length_le
    rw [List.length_cons]
    omega
  · simp [hlive]
  · nofun
  · intro run line hline
    cases run with
    | zero => exact (Option.some.inj hline).symm
    | succ run =>
        have hearlier := houtcome.started_eq run line hline
        rw [answered_recounted, answered_tail] at hearlier
        exact hearlier
  · intro run hlt
    cases run with
    | zero =>
        refine .restarted hstill ?_ (Nat.succ_lt_succ hpos)
        cases script <;> exact hmoved
    | succ run => exact (houtcome.turn run (Nat.lt_of_succ_lt_succ hlt)).shift
  · rw [houtcome.bytes, List.length_cons, List.range_succ_eq_map, List.map_cons, List.sum_cons,
      List.map_map, UInt64.ofNat_add, ← UInt64.add_assoc]
    simp only [answered_recounted, answered_tail, settings_recounted]
    rfl
  · rw [houtcome.buffers, List.length_cons, Nat.add_comm, UInt64.ofNat_add, ← UInt64.add_assoc]
    rfl
  · obtain ⟨count, hcount⟩ := Nat.exists_eq_succ_of_ne_zero hpos.ne'
    rw [houtcome.restarts, List.length_cons, hcount, Nat.add_sub_cancel, Nat.succ_sub_one,
      Nat.succ_eq_one_add, UInt64.ofNat_add, ← UInt64.add_assoc]
    rfl
  · rw [List.length_cons, ← answered_tail]
    have hlast := houtcome.last_eq
    rw [answered_recounted] at hlast
    exact hlast

end Outcome

/-! ### Whole captures -/

/-- A run of the tool is the last one, or it is followed by another one. -/
theorem ends_or_restarts (output : Nat → Settings → Nat) (script : List (List Request))
    {receiver : Receiver} (hlive : receiver.cancelled = false) (printed : Bool)
    (earlier : List (List String)) :
    let begun : Reading :=
      { capture := .start receiver, output, script, printed, started := earlier }
    let later (capture : Capture) : Reading :=
      { capture
        output := fun run => output (run + 1)
        script := script.tail
        printed := true
        started := earlier ++ [receiver.settings.toolArguments] }
    (∃ steps ≤ Scripted.stepsPerRun, ∃ result, Turn script receiver 1 result 0 ∧
      step^[steps] begun =
        later { place := .finished result, receiver := handOn output script receiver }) ∨
    (receiver.answered script 1).cancelled = false ∧
      ¬ 2 ^ 64 ∣ receiver.changes (script.headD []) ∧
      step^[9] begun = later (.start (Capture.countRestart (handOn output script receiver))) := by
  intro begun later
  have hchunk : step^[7] begun =
      later { place := .running receiver.generation receiver.settings
              receiver := handOn output script receiver } :=
    iterate_to_chunk hlive
  have hcancelled : (handOn output script receiver).cancelled =
      (receiver.answered script 1).cancelled := by
    rw [handOn_eq]
    rfl
  have hrequests : script.getD 0 [] = script.headD [] := by cases script <;> rfl
  cases hstill : (receiver.answered script 1).cancelled with
  | true =>
      refine .inl ⟨1 + 7, by decide, .ok (), .stopped hstill rfl rfl, ?_⟩
      rw [Function.iterate_add_apply, hchunk]
      exact iterate_stopped (hcancelled.trans hstill)
  | false =>
      by_cases hsame : 2 ^ 64 ∣ receiver.changes (script.headD [])
      · refine .inl ⟨5 + 7, by decide, .error Capture.outputClosed,
          .closed hstill (by rw [hrequests]; exact hsame) rfl rfl, ?_⟩
        rw [Function.iterate_add_apply, hchunk]
        exact iterate_closed (hcancelled.trans hstill)
          ((generation_handOn_eq_iff output script receiver).mpr hsame)
      · refine .inr ⟨rfl, hsame, ?_⟩
        rw [show 9 = 2 + 7 from rfl, Function.iterate_add_apply, hchunk]
        exact iterate_restarted (hcancelled.trans hstill)
          (mt (generation_handOn_eq_iff output script receiver).mp hsame)

/-- A capture that begins like this ends, within the steps that the script allows for, and its outcome
is the right one. -/
def Ends (output : Nat → Settings → Nat) (script : List (List Request)) (receiver : Receiver)
    (printed : Bool) (earlier : List (List String)) : Prop :=
  ∃ steps ≤ Scripted.stepsPerRun * (script.length + 1), ∃ result last started,
    let ended :=
      step^[steps] { capture := .start receiver, output, script, printed, started := earlier }
    ended.capture = { place := .finished result, receiver := last } ∧
      ended.started = earlier ++ started ∧ Outcome output script receiver started result last

/-- Every run but the last uses up a list of requests. -/
theorem ends_of_tail {script : List (List Request)}
    (hrest : script ≠ [] → ∀ output receiver printed earlier,
      Ends output script.tail receiver printed earlier)
    (output : Nat → Settings → Nat) (receiver : Receiver) (printed : Bool)
    (earlier : List (List String)) : Ends output script receiver printed earlier := by
  have hroom : Scripted.stepsPerRun ≤ Scripted.stepsPerRun * (script.length + 1) :=
    Nat.le_mul_of_pos_right _ (Nat.succ_pos _)
  cases hlive : receiver.cancelled with
  | true =>
      refine ⟨1, le_trans (by decide) hroom, .ok (), receiver, [], ?_⟩
      rw [iterate_of_cancelled hlive]
      exact ⟨rfl, (List.append_nil _).symm, .of_cancelled output script hlive⟩
  | false =>
      rcases ends_or_restarts output script hlive printed earlier with
        ⟨steps, hsteps, result, hturn, hended⟩ | ⟨hstill, hmoved, hagain⟩
      · refine ⟨steps, hsteps.trans hroom, result, handOn output script receiver,
          [receiver.settings.toolArguments], ?_⟩
        rw [hended]
        exact ⟨rfl, rfl, .of_last hlive hturn⟩
      · have hscript : script ≠ [] := by
          rintro rfl
          exact hmoved (Nat.dvd_zero _)
        obtain ⟨steps, hsteps, result, last, started, hcapture, hstarted, houtcome⟩ :=
          hrest hscript (fun run => output (run + 1))
            (Capture.countRestart (handOn output script receiver)) true
            (earlier ++ [receiver.settings.toolArguments])
        refine ⟨steps + 9, ?_, result, last, receiver.settings.toolArguments :: started, ?_⟩
        · have hlength : script.tail.length + 1 = script.length := by
            rw [List.length_tail, Nat.sub_add_cancel (List.length_pos_of_ne_nil hscript)]
          rw [hlength] at hsteps
          have hbound : 9 ≤ Scripted.stepsPerRun := by decide
          rw [Nat.mul_succ]
          omega
        · rw [Function.iterate_add_apply, hagain]
          refine ⟨hcapture, ?_, houtcome.of_next hlive hstill hmoved⟩
          rw [hstarted, List.append_assoc]
          rfl

theorem ends (output : Nat → Settings → Nat) (script : List (List Request)) (receiver : Receiver)
    (printed : Bool) (earlier : List (List String)) :
    Ends output script receiver printed earlier := by
  induction script generalizing output receiver printed earlier with
  | nil => exact ends_of_tail (fun hne => absurd rfl hne) output receiver printed earlier
  | cons requests rest ih =>
      refine ends_of_tail ?_ output receiver printed earlier
      intro _
      exact ih

/-- **What becomes of a capture.** A capture whose tool prints one chunk in each run ends, whatever is
requested while the chunks are handed on, after at most one run more than there are lists of requests.
If streaming was cancelled before, nothing is done. Otherwise each run is started with the settings that
the lists before it have left, and after its chunk the capture ends well if streaming is cancelled then;
if not, the tool is started again if a request has changed the settings, also if they were changed back,
and the output counts as closed if none has. A restart is counted for each run but the first, and just
the chunks that were handed on are counted. The generation that tells of changes is a count modulo
`2 ^ 64`; a list of requests would have to be as long as that for its changes to be missed. -/
theorem read_outcome (output : Nat → Settings → Nat) (script : List (List Request))
    (receiver : Receiver) :
    (∃ steps ≤ Scripted.stepsPerRun * (script.length + 1), ∃ result,
      let ended := step^[steps] (start output script receiver)
      ended.capture.place = .finished result ∧
        Outcome output script receiver ended.started result ended.capture.receiver) ∧
    ∀ run, (script.getD run []).length < 2 ^ 64 →
      (¬ 2 ^ 64 ∣ (receiver.answered script run).changes (script.getD run []) ↔
        ∃ earlier request later, script.getD run [] = earlier ++ request :: later ∧
          ((receiver.answered script run).after earlier).Alters request) := by
  refine ⟨?_, fun run hlength => not_dvd_changes_iff _ hlength⟩
  obtain ⟨steps, hsteps, result, last, started, hcapture, hstarted, houtcome⟩ :=
    ends output script receiver false []
  refine ⟨steps, hsteps, result, congrArg Capture.place hcapture, ?_⟩
  rw [show (step^[steps] (start output script receiver)).started = started from hstarted,
    show (step^[steps] (start output script receiver)).capture.receiver = last from
      congrArg Capture.receiver hcapture]
  exact houtcome

/-- The correction is changed and changed back, and the tool is started again. -/
theorem read_outcome_restless :
    let receiver := ofBanner "rtl_sdr" 0 {}
    let script : List (List Request) := [[.correction 5, .correction 0], [.cancel, .resetBuffer]]
    (script.getD 0 []).length < 2 ^ 64 ∧
    (receiver.answered script 1).settings = receiver.settings ∧
    ∃ steps result,
      let ended := step^[steps] (start (fun _ _ => 512) script receiver)
      ended.capture.place = .finished result ∧ 1 < ended.started.length := by
  intro receiver script
  obtain ⟨⟨steps, -, result, hplace, houtcome⟩, hchanged⟩ :=
    read_outcome (fun _ _ => 512) script receiver
  refine ⟨by decide, by decide, steps, result, hplace, ?_⟩
  have hbegun : 0 < (step^[steps] (start (fun _ _ => 512) script receiver)).started.length := by
    refine List.length_pos_of_ne_nil fun hnil => ?_
    cases houtcome.idle_iff.mp hnil
  have hmoved := (hchanged 0 (by decide)).mpr
    ⟨[], .correction 5, [.correction 0], rfl, by decide⟩
  cases houtcome.turn 0 hbegun with
  | stopped hcancelled => exact absurd hcancelled (by decide)
  | restarted hlive hmoved hnext => exact hnext
  | closed hlive hsame => exact absurd hsame hmoved

/-! ### Captures of a talkative tool -/

theorem step_finished {reading : Reading} {result : Except Fault Unit}
    (hplace : reading.capture.place = .finished result) : reading.step = reading := by
  simp [step, Capture.step, hplace]

/-- A tool that prints its arguments as one line. -/
def lineSize (_run : Nat) (settings : Settings) : Nat := (outputLine settings).utf8ByteSize

/-- A scripted capture with such a tool, whose runs were started with these command lines. -/
def ofScripted (scripted : Scripted) (started : List (List String)) : Reading :=
  { capture := scripted.capture
    output := lineSize
    script := scripted.requests
    printed := scripted.printed
    started }

theorem step_ofScripted (scripted : Scripted) (started : List (List String)) :
    ∃ later, (ofScripted scripted started).step = ofScripted (scripted.step .talkative) later := by
  obtain ⟨⟨place, receiver⟩, requests, printed, runs⟩ := scripted
  cases place with
  | launching generation => exact ⟨started ++ [receiver.settings.toolArguments], rfl⟩
  | _ => exact ⟨started, rfl⟩

theorem iterate_ofScripted (count : Nat) (scripted : Scripted) (started : List (List String)) :
    ∃ later, step^[count] (ofScripted scripted started) =
      ofScripted (Scripted.steps .talkative count scripted) later := by
  induction count generalizing scripted started with
  | zero => exact ⟨started, rfl⟩
  | succ count ih =>
      obtain ⟨next, hnext⟩ := step_ofScripted scripted started
      rw [Function.iterate_succ_apply, hnext]
      exact ih _ next

/-- A scripted capture has been given enough steps, and its result and the receiver that it leaves are
those of an outcome. -/
theorem run_talkative (script : List (List Request)) (receiver : Receiver) :
    ∃ result started, (Scripted.run .talkative script receiver).result? = some result ∧
      Outcome lineSize script receiver started result
        (Scripted.run .talkative script receiver).capture.receiver := by
  obtain ⟨steps, hsteps, result, last, started, hcapture, -, houtcome⟩ :=
    ends lineSize script receiver false []
  obtain ⟨later, hlater⟩ := iterate_ofScripted (Scripted.stepsPerRun * (script.length + 1))
    { capture := .start receiver, requests := script } []
  have hrest : step^[Scripted.stepsPerRun * (script.length + 1)]
      (start lineSize script receiver) = step^[steps] (start lineSize script receiver) := by
    rw [← Nat.sub_add_cancel hsteps, Function.iterate_add_apply]
    exact Function.iterate_fixed (step_finished (congrArg Capture.place hcapture)) _
  have hended : (Scripted.run .talkative script receiver).capture =
      { place := .finished result, receiver := last } := by
    rw [← hcapture]
    exact (congrArg Reading.capture (hlater.symm.trans hrest))
  refine ⟨result, started, ?_, ?_⟩
  · rw [Scripted.result?, hended]
  · rw [hended]
    exact houtcome

end Reading

end TunerRelay.Receiver
