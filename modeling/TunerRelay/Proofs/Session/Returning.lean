import TunerRelay.Proofs.Schedules
import TunerRelay.Proofs.Session.Heeding
import TunerRelay.Proofs.Session.Progress

/-!
# A session that is asked to close returns

Under a schedule that never forgets a thread, a session that does not return waits for ever at one
place. But once somebody has asked to close, the server is stopped, its supervisor comes to the end and
on the way cancels streaming, and then the session has nothing left to wait for.
-/

namespace TunerRelay

namespace Session

open TunerRelay.Device (Tuner Logged)
open TunerRelay.Relay (Supervisor Worker)
open TunerRelay.Server (Phase)

namespace Hosting

variable {τ : Type} [Tuner τ] {hosting : Hosting (Logged τ)}

/-! ### Schedules -/

/-- So many moves of a schedule. -/
def upTo (schedule : Nat → Move) (count : Nat) : List Move := (List.range count).map schedule

theorem upTo_succ (schedule : Nat → Move) (count : Nat) :
    upTo schedule (count + 1) = upTo schedule count ++ [schedule count] := by
  simp [upTo, List.range_succ]

def after (hosting : Hosting (Logged τ)) (schedule : Nat → Move) (count : Nat) :
    Hosting (Logged τ) :=
  hosting.run (upTo schedule count)

theorem after_succ (hosting : Hosting (Logged τ)) (schedule : Nat → Move) (count : Nat) :
    hosting.after schedule (count + 1) = (hosting.after schedule count).move (schedule count) := by
  rw [after, upTo_succ, run, List.foldl_append]
  rfl

/-- No thread is forgotten, and streaming ends at some time after it was cancelled. -/
structure Fair (schedule : Nat → Move) (hosting : Hosting (Logged τ)) : Prop where
  advances : ∀ count, ∃ later signal, count ≤ later ∧ schedule later = .advance signal
  works : ∀ worker count, ∃ later signal, count ≤ later ∧ schedule later = .work worker signal
  resumes : ∀ number count, ∃ later signal, count ≤ later ∧ schedule later = .resume number signal
  streams : ∀ count adapter, (hosting.after schedule count).place = .streaming adapter →
    (hosting.after schedule count).device.isCancelled = true →
    ∃ later result, count ≤ later ∧ schedule later = .advance (.streamed result)

variable {schedule : Nat → Move} {start number : Nat}

/-- The session does not get any further. -/
structure Stuck (schedule : Nat → Move) (hosting : Hosting (Logged τ)) (start : Nat) : Prop where
  sound : ∀ count, (hosting.after schedule count).Sound
  running : ∀ count, (hosting.after schedule count).isRunning = true
  settled : ∀ count, start ≤ count →
    (hosting.after schedule count).place = (hosting.after schedule start).place

theorem Stuck.place_succ (hstuck : hosting.Stuck schedule start) {count : Nat}
    (hcount : start ≤ count) :
    ((hosting.after schedule count).move (schedule count)).place =
      (hosting.after schedule count).place := by
  rw [← after_succ, hstuck.settled _ (Nat.le_succ_of_le hcount), hstuck.settled count hcount]

theorem exists_stuck (hsound : hosting.Sound)
    (hrunning : ∀ count, (hosting.after schedule count).isRunning = true) :
    ∃ start, hosting.Stuck schedule start := by
  have hsounds : ∀ count, (hosting.after schedule count).Sound := fun count => hsound.run _
  obtain ⟨last, -, hsettled⟩ := exists_settled (fun count => (hosting.after schedule count).place)
    Place.remaining 0 fun count _ => by
      simp only [after_succ]
      exact place_move (hsounds count).fits (hrunning count) (schedule count)
  exact ⟨last, hsounds, hrunning, hsettled⟩

theorem Stuck.winds (hstuck : hosting.Stuck schedule start)
    {first : Nat} (hfirst : start ≤ first) (hwinds : (hosting.after schedule first).Winds number)
    {count : Nat} (hcount : first ≤ count) : (hosting.after schedule count).Winds number := by
  induction count, hcount using Nat.le_induction with
  | base => exact hwinds
  | succ count hcount ih =>
      rw [after_succ]
      exact ih.move (hstuck.sound count).fits (hstuck.running count)
        (hstuck.place_succ (hfirst.trans hcount))

theorem step_eq_of_work {worker : Worker} {signal : Relay.Signal} {supervisor : Supervisor}
    (hbefore : hosting.relay.supervisors[worker.number]? = some supervisor)
    (hafter : (hosting.move (.work worker signal)).relay.supervisors[worker.number]? =
      some supervisor) : (worker.step signal supervisor hosting.relay.hub).1 = supervisor := by
  obtain ⟨hlt, -⟩ := List.getElem?_eq_some_iff.mp hbefore
  have hwork : (hosting.move (.work worker signal)).relay = hosting.relay.work worker signal := rfl
  rw [hwork, Relay.work_eq signal hbefore] at hafter
  simpa only [List.getElem?_set_self hlt, Option.some.injEq] using hafter

/-- In a stopped server the supervisor comes to its end. -/
theorem Stuck.exists_ended (hstuck : hosting.Stuck schedule start) (hfair : Fair schedule hosting)
    {first : Nat} (hfirst : start ≤ first) (hwinds : (hosting.after schedule first).Winds number) :
    ∃ last supervisor, first ≤ last ∧ supervisor.place = .ended ∧ ∀ count, last ≤ count →
      (hosting.after schedule count).relay.supervisors[number]? = some supervisor := by
  have hall : ∀ count, first ≤ count → (hosting.after schedule count).Winds number :=
    fun count hcount => hstuck.winds hfirst hwinds hcount
  obtain ⟨last, hlast, hsettled⟩ := exists_settled
    (fun count => (hosting.after schedule count).relay.supervisors[number]?)
    (fun supervisor => supervisor.elim 0 Supervisor.delay) first fun count hcount => by
      simp only [after_succ]
      exact (hall count hcount).delay_move (hstuck.sound count).fits (hstuck.running count)
        (hstuck.place_succ (hfirst.trans hcount))
  have hattends := (hall last hlast).attends (hstuck.sound last).fits
  have hlt : number < (hosting.after schedule last).relay.supervisors.length :=
    hattends.length_eq ▸ Nat.lt_succ_self number
  let supervisor := (hosting.after schedule last).relay.supervisors[number]
  have hsupervisor : ∀ count, last ≤ count →
      (hosting.after schedule count).relay.supervisors[number]? = some supervisor :=
    fun count hcount => (hsettled count hcount).trans (List.getElem?_eq_getElem hlt)
  -- Whoever works from now on leaves the supervisor as it is.
  have hstill : ∀ worker signal turn, worker.number = number → last ≤ turn →
      schedule turn = .work worker signal →
      (worker.step signal supervisor (hosting.after schedule turn).relay.hub).1 = supervisor := by
    rintro worker signal turn rfl hturn hschedule
    refine step_eq_of_work (hsupervisor turn hturn) ?_
    rw [← hschedule, ← after_succ]
    exact hsupervisor (turn + 1) (Nat.le_succ_of_le hturn)
  have hvacant := fun count hcount =>
    Phase.isVacant_of_isClosing (hall count (hlast.trans hcount)).closing
  have htended := (hstuck.sound last).fits.kept.tended supervisor (List.getElem_mem hlt)
  refine ⟨last, supervisor, hlast, ?_, hsupervisor⟩
  obtain ⟨turn, signal, hturn, hschedule⟩ := hfair.works (.supervisor number) last
  obtain ⟨readerTurn, readerSignal, hreaderTurn, hreaderSchedule⟩ :=
    hfair.works (.reader number) last
  exact Supervisor.place_eq_ended (hvacant turn hturn) (hvacant readerTurn hreaderTurn) htended
    (hstill _ signal turn rfl hturn hschedule)
    (hstill _ readerSignal readerTurn rfl hreaderTurn hreaderSchedule)

/-! ### A request to close -/

theorem Stuck.remaining_le (hstuck : hosting.Stuck schedule start) (count : Nat) :
    (hosting.after schedule start).place.remaining ≤
      (hosting.after schedule count).place.remaining := by
  rcases Nat.le_total start count with hlate | hearly
  · rw [hstuck.settled count hlate]
  · induction hearly using Nat.decreasingInduction with
    | self => exact Nat.le_refl _
    | of_succ count hcount ih =>
        refine ih.trans ?_
        rw [after_succ]
        rcases place_move (hstuck.sound count).fits (hstuck.running count) (schedule count) with
          hless | hsame
        · exact hless.le
        · rw [hsame]

/-- If the session streams for ever and somebody has asked to close, the server is stopped. -/
theorem Stuck.exists_closing (hstuck : hosting.Stuck schedule start) (hfair : Fair schedule hosting)
    {adapter : Nat} (hplace : (hosting.after schedule start).place = .streaming adapter)
    {mark : Nat} (hmarked : (hosting.after schedule mark).service.closeRequested = true) :
    ∃ first, start ≤ first ∧ (hosting.after schedule first).server.phase.isClosing = true := by
  have hmarks : ∀ count, mark ≤ count →
      (hosting.after schedule count).service.closeRequested = true := by
    intro count hcount
    induction count, hcount using Nat.le_induction with
    | base => exact hmarked
    | succ count hcount ih =>
        rw [after_succ]
        refine closeRequested_move ih (fun result hforgetting => ?_) (schedule count)
        have hle := hstuck.remaining_le count
        rw [hplace, hforgetting] at hle
        simp [Place.remaining] at hle
  have hopening : ∀ count, start ≤ count →
      (hosting.after schedule count).server.phase.isOpening = false := by
    intro count hcount
    obtain ⟨intruded, hbears⟩ := (hstuck.sound count).bears
    rw [hstuck.settled count hcount, hplace] at hbears
    exact hbears.2
  let first := max start mark
  have hfirst : start ≤ first := Nat.le_max_left start mark
  have hheeds := (hstuck.sound first).heeds
  rw [hstuck.settled first hfirst, hplace] at hheeds
  rcases hheeds (hmarks first (Nat.le_max_right start mark)) with hclosing | hpending
  · exact ⟨first, hfirst, hclosing⟩
  · obtain ⟨number, hnumber⟩ := List.getElem?_of_mem hpending
    by_contra hnever
    -- The stop is waiting until its thread is resumed, and no schedule forgets the thread.
    have hstop : ∀ count, start ≤ count →
        (hosting.after schedule count).calls[number]? = some .stopping →
        ∀ signal, schedule count ≠ .resume number signal := by
      intro count hcount hcall signal hschedule
      refine hnever ⟨count + 1, Nat.le_succ_of_le hcount, ?_⟩
      rw [after_succ, hschedule, phase_resume_stopping hcall signal]
      exact Phase.isClosing_stopped (hopening count hcount)
    have hwaits : ∀ count, first ≤ count →
        (hosting.after schedule count).calls[number]? = some .stopping := by
      intro count hcount
      induction count, hcount using Nat.le_induction with
      | base => exact hnumber
      | succ count hcount ih =>
          rw [after_succ]
          refine (calls_move ih (schedule count)).resolve_right ?_
          rintro ⟨signal, hschedule⟩
          exact hstop count (hfirst.trans hcount) ih signal hschedule
    obtain ⟨turn, signal, hturn, hschedule⟩ := hfair.resumes number first
    exact hstop turn (hfirst.trans hturn) (hwaits turn hturn) signal hschedule

theorem Stuck.waits (hstuck : hosting.Stuck schedule start) {count : Nat} (hcount : start ≤ count)
    {signal : Signal} (hschedule : schedule count = .advance signal) :
    (hosting.after schedule start).place.Waits signal (hosting.after schedule count).relay := by
  have hsame := hstuck.place_succ hcount
  rw [hschedule] at hsame
  rcases advance_cases (hstuck.sound count).fits signal with hless | ⟨-, -, hwaits⟩
  · exact absurd (congrArg Place.remaining hsame) hless.ne
  · exact hstuck.settled count hcount ▸ hwaits

/-- A session does not stream for ever once somebody has asked to close. -/
theorem Stuck.not_streaming (hstuck : hosting.Stuck schedule start) (hfair : Fair schedule hosting)
    {mark : Nat} (hmarked : (hosting.after schedule mark).service.closeRequested = true)
    {adapter : Nat} : (hosting.after schedule start).place ≠ .streaming adapter := by
  intro hplace
  obtain ⟨first, hfirst, hclosing⟩ := hstuck.exists_closing hfair hplace hmarked
  have hplaces : ∀ count, start ≤ count →
      (hosting.after schedule count).place = .streaming adapter :=
    fun count hcount => (hstuck.settled count hcount).trans hplace
  have hholds := (hstuck.sound first).fits.holds
  rw [hplaces first hfirst] at hholds
  obtain ⟨number, hhandle, -⟩ := hholds
  have hwinds : (hosting.after schedule first).Winds number := by
    refine ⟨?_, hclosing⟩
    rw [hplaces first hfirst]
    exact congrArg Stage.attended hhandle
  obtain ⟨last, supervisor, hlast, hended, hsupervisor⟩ := hstuck.exists_ended hfair hfirst hwinds
  have hlate := hfirst.trans hlast
  have hattended := (hstuck.winds hfirst hwinds hlast).attended
  rw [hplaces last hlate] at hattended
  have hminds := (hstuck.sound last).order.minds
  rw [hplaces last hlate] at hminds
  have hemploys := hminds number (Stage.attended.inj hattended)
  have hcancelled : (hosting.after schedule last).device.isCancelled = true := by
    rcases hemploys.minds supervisor (hsupervisor last (Nat.le_refl last)) with hstarting | hown
    · rw [hended] at hstarting
      cases hstarting
    · exact hown.2 hended
  obtain ⟨later, result, hlater, hschedule⟩ :=
    hfair.streams last adapter (hplaces last hlate) hcancelled
  have hwaits := hstuck.waits (hlate.trans hlater) hschedule
  rw [hplace] at hwaits
  obtain ⟨outside, houtside⟩ := hwaits
  cases houtside

/-- **A session that is asked to close returns.** Under a fair schedule no session runs for ever during
which somebody has asked to close. -/
theorem Fair.exists_returned (hfair : Fair schedule hosting) (hsound : hosting.Sound) {mark : Nat}
    (hmarked : (hosting.after schedule mark).service.closeRequested = true) :
    ∃ count, (hosting.after schedule count).isRunning = false := by
  by_contra hnever
  have hrunning : ∀ count, (hosting.after schedule count).isRunning = true := fun count =>
    Bool.eq_true_of_not_eq_false fun hreturned => hnever ⟨count, hreturned⟩
  obtain ⟨start, hstuck⟩ := exists_stuck hsound hrunning
  obtain ⟨turn, signal, hturn, hschedule⟩ := hfair.advances start
  have hwaits := hstuck.waits hturn hschedule
  -- A session that is stuck streams or waits for its supervisor; elsewhere nothing holds it up.
  cases hplace : (hosting.after schedule start).place with
  | streaming adapter => exact hstuck.not_streaming hfair hmarked hplace
  | joining call streamed =>
      cases call with
      | awaiting number =>
          have hheeds := (hstuck.sound start).heeds
          rw [hplace] at hheeds
          have hwinds : (hosting.after schedule start).Winds number := by
            refine ⟨?_, hheeds⟩
            rw [hplace]
            rfl
          obtain ⟨last, supervisor, hlast, hended, hsupervisor⟩ :=
            hstuck.exists_ended hfair (Nat.le_refl start) hwinds
          obtain ⟨turn, signal, hturn, hschedule⟩ := hfair.advances last
          have hwaits := hstuck.waits (hlast.trans hturn) hschedule
          rw [hplace] at hwaits
          have hknown : (hosting.after schedule turn).relay.hasEnded number = false := hwaits
          rw [Relay.hasEnded, hsupervisor turn hturn] at hknown
          simp [Supervisor.isEnded, hended] at hknown
      | _ =>
          rw [hplace] at hwaits
          exact hwaits
  | returned result =>
      obtain ⟨arguments, hsession⟩ := exists_session (hrunning start)
      have hreturned := hrunning start
      rw [isRunning, hsession, hplace] at hreturned
      cases hreturned
  | _ =>
      rw [hplace] at hwaits
      exact hwaits

/-! ### How it returns -/

variable {arguments : Arguments} {events : List Event} {before count : Nat}

theorem Accounts.after (haccounts : hosting.Accounts arguments events before)
    (hrunning : ∀ earlier < count, (hosting.after schedule earlier).isRunning = true) :
    (hosting.after schedule count).Accounts arguments events before := by
  induction count with
  | zero => exact haccounts
  | succ count ih =>
      have hkept := ih fun earlier hearlier => hrunning earlier (Nat.lt_succ_of_lt hearlier)
      rw [after_succ]
      by_cases hbegin : ∃ others, schedule count = .begin others
      · obtain ⟨others, hbegin⟩ := hbegin
        rw [hbegin, move_begin_of_isRunning (hrunning count (Nat.lt_succ_self count))]
        exact hkept
      · exact hkept.move fun others hother => hbegin ⟨others, hother⟩

theorem bears_after (hfits : hosting.Fits) (hbears : hosting.place.Bears false hosting.server.phase)
    (hrunning : ∀ earlier < count, (hosting.after schedule earlier).isRunning = true) :
    (hosting.after schedule count).place.Bears (hosting.isIntruded (upTo schedule count))
      (hosting.after schedule count).server.phase := by
  induction count with
  | zero => exact hbears
  | succ count ih =>
      have hkept := ih fun earlier hearlier => hrunning earlier (Nat.lt_succ_of_lt hearlier)
      rw [after_succ, upTo_succ, isIntruded_concat]
      by_cases hbegin : ∃ others, schedule count = .begin others
      · obtain ⟨others, hbegin⟩ := hbegin
        rw [hbegin, move_begin_of_isRunning (hrunning count (Nat.lt_succ_self count))]
        simpa only [intrudes, Bool.or_false] using hkept
      · exact bears_move (hfits.run _) hkept fun others hother => hbegin ⟨others, hother⟩

theorem Outcomes.code_of_isRefusal {failure : Failure} (hrefusal : failure.isRefusal = true) :
    failure.code = .wrongArguments ∨ failure.code = .unknown := by
  cases failure with
  | notOpened fault => exact .inl rfl
  | notServed fault => exact .inr rfl
  | _ => cases hrefusal

/-- **An orderly end, but for intrusions.** Under a fair schedule every session returns during which
somebody has asked to close, and its host is told how. Unless a part of it fails by itself it has
succeeded, just if no stop has come in between the opening of the server and the call to serve. Where
one has, the session has failed. -/
theorem orderly_unless_intruded (device : Logged τ) (earlier : List Move) (arguments : Arguments)
    (schedule : Nat → Move) (mark : Nat)
    (hearlier : ((atRest device).run earlier).isRunning = false)
    (hfair : Fair schedule (((atRest device).run earlier).move (.begin arguments)))
    (hmarked : ((((atRest device).run earlier).move (.begin arguments)).after schedule
      mark).service.closeRequested = true) :
    let begun := ((atRest device).run earlier).move (.begin arguments)
    ∃ (count : Nat) (result : Except Failure Unit),
      let after := begun.after schedule count
      after.session = some (arguments, .returned result) ∧
      after.service.events.getLast? = some (.closed (exitCode result)) ∧
      (after.outcomes.Unharmed →
        (result = .ok () ↔ begun.isIntruded (upTo schedule count) = false) ∧
        (begun.isIntruded (upTo schedule count) = true →
          exitCode result = .wrongArguments ∨ exitCode result = .unknown)) := by
  intro begun
  have hsound : ((atRest device).run earlier).Sound := (sound_atRest device).run earlier
  have hexists := hfair.exists_returned (hsound.move _) hmarked
  let count := Nat.find hexists
  have hreturned : (begun.after schedule count).isRunning = false := Nat.find_spec hexists
  have hrunning : ∀ turn < count, (begun.after schedule turn).isRunning = true := fun turn hturn =>
    Bool.eq_true_of_not_eq_false (Nat.find_min hexists hturn)
  obtain ⟨place, hsession, haccounts⟩ :=
    Accounts.after (accounts_begin ((atRest device).run earlier) arguments hearlier) hrunning
  have hstart : begun.place.Bears false begun.server.phase := by
    have hplace : begun.place = Session.start arguments := by
      simp [begun, Hosting.move, hearlier, Hosting.place]
    rw [hplace]
    rfl
  have hbears := bears_after (hsound.move _).fits hstart hrunning
  rw [place_of_session hsession] at hbears
  cases place with
  | returned result =>
      refine ⟨count, result, hsession, ?_, fun hunharmed => ?_⟩
      · rw [haccounts.events_eq, Place.told, ← List.append_assoc, List.getLast?_concat]
      · have hiff := hbears.result_eq_ok_iff haccounts.knows hunharmed
        refine ⟨hiff, fun hintruded => ?_⟩
        cases result with
        | ok => cases hintruded.symm.trans (hiff.mp rfl)
        | error failure => exact Outcomes.code_of_isRefusal (hunharmed.isRefusal haccounts.knows)
  | _ =>
      rw [isRunning, hsession] at hreturned
      cases hreturned

/-- Somebody asks to close, and then every thread has its turn again and again. -/
def rounds : Nat → Move
  | 0 => .close
  | count + 1 =>
    let (turn, number) := Nat.unpair count
    match turn % 5 with
    | 0 => .advance (.outside .nothing)
    | 1 => .work (.supervisor number) .nothing
    | 2 => .work (.reader number) .nothing
    | 3 => .resume number .nothing
    | _ => .advance (.streamed (.ok ()))

theorem fair_rounds (hosting : Hosting (Logged τ)) : Fair rounds hosting where
  advances count := by
    obtain ⟨later, hle, hkind, -⟩ := exists_round 5 count 0 0 (by decide)
    exact ⟨later + 1, .outside .nothing, Nat.le_succ_of_le hle, by simp [rounds, hkind]⟩
  works worker count := by
    cases worker with
    | supervisor number =>
        obtain ⟨later, hle, hkind, hnumber⟩ := exists_round 5 count number 1 (by decide)
        exact ⟨later + 1, .nothing, Nat.le_succ_of_le hle, by simp [rounds, hkind, hnumber]⟩
    | reader number =>
        obtain ⟨later, hle, hkind, hnumber⟩ := exists_round 5 count number 2 (by decide)
        exact ⟨later + 1, .nothing, Nat.le_succ_of_le hle, by simp [rounds, hkind, hnumber]⟩
  resumes number count := by
    obtain ⟨later, hle, hkind, hnumber⟩ := exists_round 5 count number 3 (by decide)
    exact ⟨later + 1, .nothing, Nat.le_succ_of_le hle, by simp [rounds, hkind, hnumber]⟩
  streams count adapter _ _ := by
    obtain ⟨later, hle, hkind, -⟩ := exists_round 5 count 0 4 (by decide)
    exact ⟨later + 1, .ok (), Nat.le_succ_of_le hle, by simp [rounds, hkind]⟩

theorem orderly_unless_intruded_rounds :
    let begun := (atRest willing).move (.begin plainArguments)
    Fair rounds begun ∧ (begun.after rounds 1).service.closeRequested = true ∧
    ∃ (count : Nat) (result : Except Failure Unit),
      (begun.after rounds count).session = some (plainArguments, .returned result) ∧
      (begun.after rounds count).service.events.getLast? = some (.closed (exitCode result)) := by
  intro begun
  obtain ⟨count, result, hsession, hevents, -⟩ :=
    orderly_unless_intruded willing [] plainArguments rounds 1 rfl (fair_rounds _) rfl
  exact ⟨fair_rounds begun, rfl, count, result, hsession, hevents⟩

/-- Somebody asks to close while the session binds its socket. -/
def closedWhileOpening : List Move :=
  .begin plainArguments :: (advances 6 ++ [.close, .resume 0 .nothing] ++ advances 7)

/-- Somebody asks to close when the socket is open and the server has yet to be asked to serve. -/
def closedBeforeServing : List Move :=
  .begin plainArguments :: (advances 9 ++ [.close, .resume 0 .nothing] ++ advances 7)

theorem close_while_opening_fails :
    let opening := (atRest willing).run closedWhileOpening
    let serving := (atRest willing).run closedBeforeServing
    (opening.outcomes.Unharmed ∧ opening.service.events = [.closed .wrongArguments] ∧
      opening.session =
        some (plainArguments, .returned (.error (.notOpened (.wrongPhase .uninitialized))))) ∧
    serving.outcomes.Unharmed ∧ serving.service.events = [.closed .unknown] ∧
      serving.session =
        some (plainArguments, .returned (.error (.notServed (.wrongPhase .uninitialized)))) := by
  intro opening serving
  have hopening : opening.outcomes =
      { configured := some (.ok ()), opened := some (.error (.wrongPhase .uninitialized)) } := rfl
  have hserving : serving.outcomes =
      { configured := some (.ok ())
        opened := some (.ok ())
        served := some (.error (.wrongPhase .uninitialized)) } := rfl
  refine ⟨⟨?_, rfl, rfl⟩, ?_, rfl, rfl⟩
  · rw [hopening]
    exact ⟨nofun, fun fault hfault => by cases hfault; rfl, nofun, nofun⟩
  · rw [hserving]
    exact ⟨nofun, nofun, fun fault hfault => by cases hfault; rfl, nofun⟩

end Hosting

end Session

end TunerRelay
