import TunerRelay.Proofs.Relay.Charge
import TunerRelay.Proofs.Relay.Commands
import TunerRelay.Proofs.Relay.Ending
import TunerRelay.Proofs.Schedules

/-!
# A stopped server comes to rest

Under a schedule that forgets no thread whoever is in charge of a stopped server closes it, however
the threads of other sessions come in between: a supervisor comes nearer to its end with every step,
and a caller either starts one or cleans up.
-/

namespace TunerRelay.Relay

open TunerRelay.Server (Phase)

variable {ω : Type} [Audience ω]

namespace Traffic

section Stopped

variable {traffic : Traffic ω}

theorem isServed_move (move : Move) (hserved : traffic.server.phase.IsServed) :
    (traffic.move move).server.phase.IsServed ∨
      (traffic.move move).server.phase = .uninitialized := by
  cases move with
  | begin operation => exact .inl hserved
  | resume number signal =>
      cases hcall : traffic.calls[number]? with
      | none =>
          rw [move_resume_of_none signal hcall]
          exact .inl hserved
      | some call =>
          rw [server_resume signal hcall]
          exact call.isServed_or_step signal hserved
  | work worker signal =>
      cases hworker : traffic.supervisors[worker.number]? with
      | none =>
          rw [move_work_of_none signal hworker]
          exact .inl hserved
      | some acting =>
          rw [server_work signal hworker]
          exact (worker.work_step signal acting traffic.relay.hub).isServed_or hserved

/-- A stopped server stays stopped until it is closed. -/
theorem stopping_move (move : Move) (hstopping : traffic.server.phase = .stopping) :
    (traffic.move move).server.phase = .stopping ∨
      (traffic.move move).server.phase = .uninitialized :=
  (isServed_move move (.inr hstopping)).imp_left fun hserved =>
    hserved.resolve_left (phase_move_of_stopping move hstopping)

end Stopped

/-! ### Schedules -/

/-- After so many moves of a schedule. -/
def after (traffic : Traffic ω) (schedule : Nat → Move) : Nat → Traffic ω
  | 0 => traffic
  | count + 1 => (traffic.after schedule count).move (schedule count)

/-- No thread is forgotten. -/
structure Fair (schedule : Nat → Move) : Prop where
  works : ∀ worker count, ∃ later signal, count ≤ later ∧ schedule later = .work worker signal
  resumes : ∀ number count, ∃ later signal, count ≤ later ∧ schedule later = .resume number signal

variable {traffic : Traffic ω} {schedule : Nat → Move} {start number : Nat}

theorem tended_after (htended : traffic.Tended) (count : Nat) :
    (traffic.after schedule count).Tended := by
  induction count with
  | zero => exact htended
  | succ count ih => exact tended_move _ ih

/-- A call waits for its turn, and the turn comes. -/
theorem Fair.exists_resumed {call : Call} (hfair : Fair schedule)
    (hcall : (traffic.after schedule start).calls[number]? = some call) :
    ∃ turn signal, schedule turn = .resume number signal ∧
      (traffic.after schedule turn).calls[number]? = some call := by
  by_contra hnever
  have hwaits : ∀ count, start ≤ count →
      (traffic.after schedule count).calls[number]? = some call := by
    intro count hcount
    induction count, hcount using Nat.le_induction with
    | base => exact hcall
    | succ count hcount ih =>
        refine (call_move (schedule count) ih).resolve_right ?_
        rintro ⟨signal, hschedule, -⟩
        exact hnever ⟨count, signal, hschedule, ih⟩
  obtain ⟨turn, signal, hturn, hschedule⟩ := hfair.resumes number start
  exact hnever ⟨turn, signal, hschedule, hwaits turn hturn⟩

/-- The server is stopped for ever. -/
def Stays (traffic : Traffic ω) (schedule : Nat → Move) : Prop :=
  ∀ count, (traffic.after schedule count).server.phase = .stopping

section Staying

variable (hfair : Fair schedule) (hstays : traffic.Stays schedule) (htended : traffic.Tended)

include hstays in
theorem Stays.not_closed (count : Nat) :
    (traffic.after schedule count).server.phase ≠ .uninitialized := by
  rw [hstays count]
  exact nofun

include hstays in
theorem Stays.isVacant (count : Nat) :
    (traffic.after schedule count).relay.hub.server.phase.isVacant = true := by
  have hphase : (traffic.after schedule count).relay.hub.server.phase = .stopping := hstays count
  rw [hphase]
  rfl

include hfair hstays htended in
/-- Then no supervisor is in charge: it would come to its end and close the server. -/
theorem Stays.not_keeps_supervisor (start number : Nat) :
    ¬ (traffic.after schedule start).Keeps (.supervisor number) := by
  intro hkeeps
  have hkept : ∀ count, start ≤ count →
      (traffic.after schedule count).Keeps (.supervisor number) := by
    intro count hcount
    induction count, hcount using Nat.le_induction with
    | base => exact hkeeps
    | succ count hcount ih =>
        rcases keeps_move (schedule count) ih with hstill | hclosed | ⟨⟨_, habsurd⟩, -⟩
        · exact hstill
        · exact absurd hclosed (hstays.not_closed (count + 1))
        · cases habsurd
  obtain ⟨last, hlast, hsettled⟩ := exists_settled
    (fun count => (traffic.after schedule count).supervisors[number]?)
    (fun supervisor => supervisor.elim 0 Supervisor.delay) start fun count hcount => by
      obtain ⟨supervisor, hsupervisor, -⟩ := hkept count hcount
      have htend := tended_after htended count supervisor (List.mem_of_getElem? hsupervisor)
      rcases supervisor_move (schedule count) hsupervisor with hsame | ⟨worker, signal, -, -, hnext, -⟩
      · exact .inr (hsame.trans hsupervisor.symm)
      · have hdelay := worker.delay_step signal (hstays.isVacant count) htend
        simp only [after, hnext, hsupervisor, Option.elim_some, Option.some.injEq]
        exact hdelay
  obtain ⟨supervisor, hsupervisor, hunderWay⟩ := hkept last hlast
  have htend := tended_after htended last supervisor (List.mem_of_getElem? hsupervisor)
  have hstill : ∀ worker signal turn, worker.number = number → last ≤ turn →
      schedule turn = .work worker signal →
      (worker.step signal supervisor (traffic.after schedule turn).relay.hub).1 = supervisor := by
    rintro worker signal turn rfl hturn hschedule
    have hbefore := (hsettled turn hturn).trans hsupervisor
    have hafter := (hsettled (turn + 1) (Nat.le_succ_of_le hturn)).trans hsupervisor
    have hlt := (List.getElem?_eq_some_iff.mp hbefore).1
    simp only [after, hschedule] at hafter
    rw [supervisors_work signal hbefore, List.getElem?_set_self hlt] at hafter
    exact Option.some.inj hafter
  obtain ⟨turn, signal, hturn, hschedule⟩ := hfair.works (.supervisor number) last
  obtain ⟨readerTurn, readerSignal, hreaderTurn, hreaderSchedule⟩ :=
    hfair.works (.reader number) last
  have hended := Supervisor.place_eq_ended (hstays.isVacant turn) (hstays.isVacant readerTurn) htend
    (hstill _ signal turn rfl hturn hschedule)
    (hstill _ readerSignal readerTurn rfl hreaderTurn hreaderSchedule)
  rw [Supervisor.isUnderWay, hended] at hunderWay
  cases hunderWay

include hfair hstays htended in
theorem Stays.not_keeps_call (start number : Nat) :
    ¬ (traffic.after schedule start).Keeps (.call number) := by
  rintro ⟨call, hcall, hcharge⟩
  -- A call that cleans up closes the server when its turn comes.
  have hclearing : ∀ start observer fault,
      (traffic.after schedule start).calls[number]? ≠ some (.clearing observer fault) := by
    intro start observer fault hclearing
    obtain ⟨turn, signal, hschedule, hcall⟩ := hfair.exists_resumed hclearing
    refine hstays.not_closed (turn + 1) ?_
    simp only [after, hschedule]
    rw [server_resume signal hcall]
    exact Server.phase_cleanUp _
  cases call with
  | clearing observer fault => exact hclearing start observer fault hcall
  | launching observer =>
      obtain ⟨turn, signal, hschedule, hcall⟩ := hfair.exists_resumed hcall
      have hlt := (List.getElem?_eq_some_iff.mp hcall).1
      have hnext : (traffic.after schedule (turn + 1)) =
          (traffic.after schedule turn).move (.resume number signal) := by
        rw [after, hschedule]
      cases signal with
      | failure reason =>
          refine hclearing (turn + 1) observer (.thread reason) ?_
          rw [hnext, calls_resume _ hcall, List.getElem?_set_self hlt]
          rfl
      | _ =>
          refine hstays.not_keeps_supervisor hfair htended (turn + 1)
            (traffic.after schedule turn).supervisors.length ⟨{}, ?_, rfl⟩
          rw [hnext, supervisors_resume _ hcall]
          exact List.getElem?_concat_length
  | _ => cases hcharge

end Staying

/-- Whoever is in charge of a stopped server closes it. -/
theorem Fair.exists_closed (hfair : Fair schedule) (htended : traffic.Tended)
    (hkept : traffic.IsKept) (hstopping : traffic.server.phase = .stopping) :
    ∃ count, (traffic.after schedule count).server.phase = .uninitialized := by
  by_contra hnever
  have hstays : traffic.Stays schedule := by
    intro count
    induction count with
    | zero => exact hstopping
    | succ count ih =>
        exact (stopping_move (schedule count) ih).resolve_right fun hclosed =>
          hnever ⟨count + 1, hclosed⟩
  obtain ⟨keeper, hkeeps⟩ := hkept (by rw [hstopping]; rfl)
  cases keeper with
  | call number => exact hstays.not_keeps_call hfair htended 0 number hkeeps
  | supervisor number => exact hstays.not_keeps_supervisor hfair htended 0 number hkeeps

/-- **No orphaned session.** Whenever a client is waited for, admitted or served, or the server is
stopped, there is a caller or a supervisor in charge that has not closed the server yet. It gives up
its charge only by closing the server, or as a caller by handing it on to the supervisor that it
starts; and a stopped server is closed under every fair schedule. -/
theorem never_orphaned (world : ω) (moves : List Move)
    (hphase : ((atRest world).run moves).server.phase ∈
      [.asyncStarted, .clientOpen, .serving, .stopping]) :
    let traffic := (atRest world).run moves
    (∃ keeper, traffic.Keeps keeper) ∧
    (∀ keeper move, traffic.Keeps keeper →
      (traffic.move move).Keeps keeper ∨ (traffic.move move).server.phase = .uninitialized ∨
        (∃ number, keeper = .call number) ∧
          (traffic.move move).Keeps (.supervisor traffic.supervisors.length)) ∧
    (traffic.server.phase = .stopping → ∀ schedule, Fair schedule →
      ∃ count, (traffic.after schedule count).server.phase = .uninitialized) := by
  intro traffic
  have hkept : traffic.IsKept := isKept_run world moves
  have hcrew : traffic.server.phase.crew = 1 := by
    simp only [List.mem_cons, List.not_mem_nil, or_false] at hphase
    rcases hphase with hphase | hphase | hphase | hphase <;> rw [hphase] <;> rfl
  refine ⟨hkept hcrew, fun keeper move hkeeps => keeps_move move hkeeps, ?_⟩
  intro hstopping schedule hfair
  exact hfair.exists_closed (tended_run moves (tended_atRest world)) hkept hstopping

/-- Every thread has its turn again and again. -/
def turns (count : Nat) : Move :=
  let (turn, number) := Nat.unpair count
  match turn % 3 with
  | 0 => .work (.supervisor number) .nothing
  | 1 => .work (.reader number) .nothing
  | _ => .resume number .nothing

theorem fair_turns : Fair turns where
  works worker count := by
    cases worker with
    | supervisor number =>
        obtain ⟨later, hle, hkind, hnumber⟩ := exists_round 3 count number 0 (by decide)
        exact ⟨later, .nothing, hle, by simp [turns, hkind, hnumber]⟩
    | reader number =>
        obtain ⟨later, hle, hkind, hnumber⟩ := exists_round 3 count number 1 (by decide)
        exact ⟨later, .nothing, hle, by simp [turns, hkind, hnumber]⟩
  resumes number count := by
    obtain ⟨later, hle, hkind, hnumber⟩ := exists_round 3 count number 2 (by decide)
    exact ⟨later, .nothing, hle, by simp [turns, hkind, hnumber]⟩

/-- A session is asked for too often, and so a supervisor outlives it. In the next one the server is
stopped before there is a thread for it, and then there is none to be had. -/
def threadlessMoves : List Move :=
  askedMoves ++ [.begin (.serve 1), .resume 2 .nothing] ++ openingMoves 3 ++
    [.begin (.serve 2), .resume 4 .nothing, .begin .stop, .resume 5 .nothing,
      .resume 4 (.failure "no thread")]

theorem never_orphaned_threadless :
    let traffic := (atRest ()).run threadlessMoves
    traffic.server.phase = .stopping ∧ traffic.Keeps (.supervisor 0) ∧ traffic.Keeps (.call 4) ∧
    (∃ keeper, traffic.Keeps keeper) ∧ Fair turns ∧
    ∃ count, (traffic.after turns count).server.phase = .uninitialized := by
  intro traffic
  have hphase : ((atRest ()).run threadlessMoves).server.phase = .stopping := rfl
  have hsupervisor : traffic.supervisors[0]? = some ({} : Supervisor) := rfl
  have hcall : traffic.calls[4]? = some (.clearing 2 (.thread "no thread")) := rfl
  obtain ⟨hkeeper, -, hclosed⟩ :=
    never_orphaned () threadlessMoves (by rw [hphase]; exact List.mem_of_getElem? (i := 3) rfl)
  exact ⟨hphase, ⟨_, hsupervisor, rfl⟩, ⟨_, hcall, rfl⟩, hkeeper, fair_turns,
    hclosed hphase turns fair_turns⟩

end Traffic

end TunerRelay.Relay
