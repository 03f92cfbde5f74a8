import TunerRelay.Proofs.Relay.Ending
import TunerRelay.Proofs.Relay.Isolation

/-!
# What a stranded supervisor does to the next session

A stranded supervisor need not end before the next socket is opened. Left alone in the new session it
comes, step by step, to the point where it stops or closes the server.
-/

namespace TunerRelay.Relay

variable {ω : Type} [Audience ω]

namespace Traffic

/-- A supervisor that is under way in a session that serves nobody can come to end that session. -/
theorem exists_intrusion {traffic : Traffic ω} {number : Nat} {supervisor : Supervisor}
    (hphase : traffic.server.phase = .socketOpen)
    (hsupervisor : traffic.supervisors[number]? = some supervisor)
    (hunderWay : supervisor.isUnderWay = true) (htended : traffic.Tended) :
    ∃ (moves : List Move) (worker : Worker) (signal : Signal),
      traffic.Disciplined moves ∧ worker.number = number ∧
        (traffic.run moves).server.epoch = traffic.server.epoch ∧
        (traffic.run moves).server.phase = .socketOpen ∧
        ((traffic.run moves).move (.work worker signal)).server.phase ≠ .socketOpen := by
  -- The supervisor comes nearer to its end with every step that it or its reader takes.
  induction hdelay : supervisor.delay using Nat.strongRecOn
    generalizing traffic supervisor with
  | _ delay ih =>
      have htend := htended supervisor (List.mem_of_getElem? hsupervisor)
      have hvacant : traffic.relay.hub.server.phase.isVacant = true := by
        rw [show traffic.relay.hub.server.phase = .socketOpen from hphase]
        rfl
      have hplace : supervisor.place ≠ .ended := by
        intro hended
        rw [Supervisor.isUnderWay, hended] at hunderWay
        cases hunderWay
      obtain ⟨worker, rfl, hnearer⟩ := Supervisor.exists_nearer number hvacant htend hplace
      have hserver := server_work .nothing hsupervisor
      by_cases hnext : (traffic.move (.work worker .nothing)).server.phase = .socketOpen
      · have hphaseNext := hserver ▸ hnext
        have hstill := (Worker.isUnderWay_step worker .nothing traffic.relay.hub
          hunderWay).resolve_right (by rw [hphaseNext]; rintro ⟨⟩)
        obtain ⟨hplace, -⟩ := List.getElem?_eq_some_iff.mp hsupervisor
        have hsupervisorNext : (traffic.move (.work worker .nothing)).supervisors[worker.number]? =
            some (worker.step .nothing supervisor traffic.relay.hub).1 := by
          rw [supervisors_work .nothing hsupervisor, List.getElem?_set_self hplace]
        obtain ⟨moves, last, lastSignal, hdisciplined, hnumber, hepoch, hopen, hended⟩ :=
          ih _ (hdelay ▸ hnearer .nothing) hnext hsupervisorNext hstill (tended_move _ htended) rfl
        refine ⟨.work worker .nothing :: moves, last, lastSignal, ⟨trivial, hdisciplined⟩, hnumber,
          ?_, hopen, hended⟩
        rw [run_cons, hepoch, hserver]
        exact (Worker.work_step worker .nothing supervisor traffic.relay.hub).epoch_eq
      · exact ⟨[], worker, .nothing, trivial, rfl, rfl, hphase, hnext⟩

theorem move_resume_last {relay : Relay ω} {calls : List Call} {call : Call} (signal : Signal) :
    ({ relay, calls := calls ++ [call] } : Traffic ω).move (.resume calls.length signal) =
      { relay := (call.step signal relay).2, calls := calls ++ [(call.step signal relay).1] } := by
  have hcall : (calls ++ [call])[calls.length]? = some call := List.getElem?_concat_length
  rw [move_resume signal hcall]
  simp

/-- At rest a socket can be opened, and nothing but the server and the call is touched by that. -/
theorem exists_opening {traffic : Traffic ω} (hrest : traffic.server.phase = .uninitialized) :
    ∃ (moves : List Move) (server : Server),
      (∀ observer, .begin (.serve observer) ∉ moves) ∧
        traffic.Disciplined moves ∧ server.phase = .socketOpen ∧
        server.epoch = traffic.server.epoch + 1 ∧
        traffic.run moves =
          { relay := traffic.relay.withServer server
            calls := traffic.calls ++ [.returned (.opened (.ok ()))] } := by
  obtain ⟨endpoint, hendpoint⟩ : ∃ endpoint, Call.endpoint? "127.0.0.1" 0 = some endpoint :=
    ⟨_, rfl⟩
  obtain ⟨relay, calls⟩ := traffic
  have hrest : relay.server.phase = .uninitialized := hrest
  let staged : Server :=
    { relay.server with
      phase := .initialized
      pool := some (Server.stagedPool (.rtl 5 29))
      epoch := relay.server.epoch + 1 }
  have hstage : (Call.staging "127.0.0.1" 0 (.rtl 5 29)).step .nothing relay =
      (.binding endpoint, relay.withServer staged) := by
    simp only [Call.step, Call.stage, Server.stage, hrest, if_true, hendpoint]
    rfl
  have hbegin : ({ relay, calls } : Traffic ω).move
      (.begin (.openSocket "127.0.0.1" 0 (.rtl 5 29))) =
        { relay, calls := calls ++ [.staging "127.0.0.1" 0 (.rtl 5 29)] } := rfl
  refine ⟨openingMoves calls.length,
    { staged with phase := .socketOpen, listener := some endpoint }, by simp [openingMoves], ?_,
    rfl, rfl, ?_⟩
  · simp only [Disciplined, openingMoves, List.replicate, Throughout, hbegin, move_resume_last,
      hstage]
    refine ⟨trivial, ?_, ?_, ?_, ?_, trivial⟩
    · simp only [Permits, List.getElem?_concat_length]
      exact hrest
    all_goals simp [Permits, Call.step]
  · simp only [openingMoves, List.replicate, run_cons, run_nil, hbegin, move_resume_last, hstage]
    rfl

theorem not_isolated_of_intrusion {traffic : Traffic ω} {moves : List Move} {worker : Worker}
    {signal : Signal} (hepoch : traffic.server.epoch < (traffic.run moves).server.epoch)
    (hstarted : traffic.StartedBy moves worker.number)
    (hopen : (traffic.run moves).server.phase = .socketOpen)
    (hended : ((traffic.run moves).move (.work worker signal)).server.phase ≠ .socketOpen) :
    ¬ traffic.Isolated moves := by
  intro hisolated
  have hsame := hisolated [] moves worker signal rfl hepoch hstarted
  exact hended (hsame.phase_eq.trans hopen)

theorem Isolated.of_append {traffic : Traffic ω} {first second : List Move}
    (hisolated : traffic.Isolated (first ++ second)) : (traffic.run first).Isolated second := by
  rintro before after worker signal rfl hepoch hstarted
  have hall := hisolated (first ++ before) after worker signal (List.append_assoc ..).symm
  simp only [run_append] at hall hepoch hstarted ⊢
  exact hall hepoch hstarted

theorem StartedBy.append {traffic : Traffic ω} {first : List Move} {number : Nat}
    (hstarted : traffic.StartedBy first number) (second : List Move) :
    traffic.StartedBy (first ++ second) number := by
  refine hstarted.imp id ?_
  rintro ⟨call, observer, between, hbetween, hlaunching, hkeeping⟩
  exact ⟨call, observer, between, hbetween.trans (List.prefix_append first second), hlaunching,
    hkeeping⟩

/-- A stranded supervisor can find itself in a session that was opened after it was asked for. -/
theorem exists_newer_session {traffic : Traffic ω} (hstranded : traffic.Stranded) :
    ∃ (moves : List Move) (number : Nat) (supervisor : Supervisor),
      traffic.Disciplined moves ∧ traffic.StartedBy moves number ∧
        (traffic.run moves).supervisors[number]? = some supervisor ∧
        supervisor.isUnderWay = true ∧ (traffic.run moves).server.phase = .socketOpen ∧
        traffic.server.epoch < (traffic.run moves).server.epoch := by
  obtain ⟨hrest, hworkers⟩ := hstranded
  obtain ⟨opening, server, -, hopening, hphase, hepoch, hrun⟩ := exists_opening hrest
  by_cases hunderWay : 0 < traffic.supervisors.countP Supervisor.isUnderWay
  · obtain ⟨supervisor, hmem, hsupervisor⟩ := List.countP_pos_iff.mp hunderWay
    obtain ⟨number, hnumber⟩ := List.getElem?_of_mem hmem
    refine ⟨opening, number, supervisor, hopening,
      Or.inl (List.getElem?_eq_some_iff.mp hnumber).1, ?_, hsupervisor, ?_, ?_⟩
    · rw [hrun]
      exact hnumber
    · rw [hrun]
      exact hphase
    · rw [hrun]
      exact Nat.lt_of_lt_of_eq (Nat.lt_succ_self _) hepoch.symm
  · have hlaunching : 0 < traffic.calls.countP Call.isLaunching := by
      unfold workers at hworkers
      omega
    obtain ⟨call, hmem, hcall⟩ := List.countP_pos_iff.mp hlaunching
    obtain ⟨number, hnumber⟩ := List.getElem?_of_mem hmem
    obtain ⟨hlt, -⟩ := List.getElem?_eq_some_iff.mp hnumber
    cases call with
    | launching observer =>
        have hstill : (traffic.run opening).calls[number]? = some (.launching observer) := by
          rw [hrun, List.getElem?_append_left hlt]
          exact hnumber
        have hlaunched : traffic.run (opening ++ [.resume number .nothing]) =
            (traffic.run opening).move (.resume number .nothing) := run_concat _ _ _
        refine ⟨opening ++ [.resume number .nothing], traffic.supervisors.length, {}, ?_, ?_, ?_,
          rfl, ?_, ?_⟩
        · refine (throughout_append opening _).mpr ⟨hopening, ?_, trivial⟩
          simp [Permits, hstill]
        · refine Or.inr ⟨number, observer, _, List.prefix_refl _, hnumber, ?_⟩
          rw [hlaunched, calls_resume .nothing hstill, List.getElem?_set_self
            (List.getElem?_eq_some_iff.mp hstill).1, hrun]
          rfl
        · rw [hlaunched, supervisors_resume .nothing hstill, hrun]
          exact List.getElem?_concat_length
        · rw [hlaunched, server_resume .nothing hstill, hrun]
          exact hphase
        · rw [hlaunched, server_resume .nothing hstill, hrun]
          exact Nat.lt_of_lt_of_eq (Nat.lt_succ_self _) hepoch.symm
    | _ => cases hcall

/-- Where a supervisor is stranded, a session can be opened that it ends. -/
theorem not_isolated_of_stranded {traffic : Traffic ω} (htended : traffic.Tended)
    (hstranded : traffic.Stranded) :
    ∃ moves, traffic.Disciplined moves ∧ ¬ traffic.Isolated moves := by
  obtain ⟨opening, number, supervisor, hopening, hstarted, hsupervisor, hunderWay, hphase, hepoch⟩ :=
    exists_newer_session hstranded
  obtain ⟨way, worker, signal, hway, rfl, hsame, hopen, hended⟩ :=
    exists_intrusion hphase hsupervisor hunderWay (tended_run opening htended)
  rw [← run_append] at hopen hended hsame
  refine ⟨opening ++ way, (throughout_append opening way).mpr ⟨hopening, hway⟩, ?_⟩
  exact not_isolated_of_intrusion (hsame ▸ hepoch) (hstarted.append way) hopen hended

/-- **Sessions are isolated as long as no supervisor gets stranded, and no longer.** Wherever every
opening and serving is asked for in its phase and no section closes the server under a supervisor,
what is left of earlier sessions never touches a later one. After the first section that does close
it so, the run can go on to a session that the supervisor ends. -/
theorem isolated_until_stranded (world : ω) (moves : List Move)
    (hdisciplined : (atRest world).Disciplined moves) (hcareful : (atRest world).Careful moves) :
    (atRest world).Isolated moves ∧
      ∀ move, ((atRest world).run moves).Permits move →
        ((atRest world).run moves).Strands move →
          ∃ more, (atRest world).Disciplined (moves ++ move :: more) ∧
            ¬ (atRest world).Isolated (moves ++ move :: more) := by
  have hstart := crewed_atRest world
  have htended := tended_atRest world
  refine ⟨isolated_of_careful moves hstart htended hdisciplined hcareful, ?_⟩
  intro move hpermitted hstrands
  obtain ⟨hcrewed, hstranded⟩ := crewed_run moves hstart htended hdisciplined hcareful
  have htendedRun := tended_run moves htended
  have hafter := (stranded_move_iff move hcrewed htendedRun hstranded hpermitted).mpr hstrands
  obtain ⟨more, hmore, hintruded⟩ := not_isolated_of_stranded (tended_move move htendedRun) hafter
  refine ⟨more, (throughout_append moves _).mpr ⟨hdisciplined, hpermitted, hmore⟩, ?_⟩
  intro hisolated
  rw [List.append_cons] at hisolated
  have hlater := hisolated.of_append
  rw [run_concat] at hlater
  exact hintruded hlater

/-- A socket is opened, a client is asked for and admitted, and somebody is about to stop. -/
def admittedMoves : List Move :=
  askedMoves ++ (workMoves (.supervisor 0) (admittingSignals 7) ++ [.begin .stop])

theorem disciplined_admittedMoves :
    (atRest ()).Disciplined admittedMoves ∧ (atRest ()).Careful admittedMoves :=
  disciplined_append disciplined_askedMoves
    (disciplined_append (disciplined_workMoves _ (.supervisor 0) (admittingSignals 7))
      ⟨⟨trivial, trivial⟩, id, trivial⟩)

theorem isolated_until_stranded_admitted :
    ((atRest ()).Disciplined admittedMoves ∧ (atRest ()).Careful admittedMoves) ∧
      (atRest ()).Isolated admittedMoves ∧
        ∃ more, (atRest ()).Disciplined (admittedMoves ++ .resume 2 .nothing :: more) ∧
          ¬ (atRest ()).Isolated (admittedMoves ++ .resume 2 .nothing :: more) := by
  obtain ⟨hdisciplined, hcareful⟩ := disciplined_admittedMoves
  obtain ⟨hisolated, hbroken⟩ := isolated_until_stranded () admittedMoves hdisciplined hcareful
  exact ⟨⟨hdisciplined, hcareful⟩, hisolated,
    hbroken (.resume 2 .nothing) trivial rfl⟩

/-- After the stop a second socket is opened, and then the supervisor of the first goes on. -/
def lateMoves : List Move :=
  admittedMoves ++ (.resume 2 .nothing :: openingMoves 3 ++
    List.replicate 2 (.work (.supervisor 0) .nothing))

/-- The supervisor of the first session closes the second. -/
theorem late_supervisor_closes_newer_session :
    (atRest ()).Disciplined lateMoves ∧
      ((atRest ()).run admittedMoves).server.epoch = 1 ∧
      ((atRest ()).run admittedMoves).supervisors.length = 1 ∧
      ((atRest ()).run lateMoves).server.epoch = 2 ∧
      ((atRest ()).run lateMoves).server.phase = .socketOpen ∧
      (((atRest ()).run lateMoves).move (.work (.supervisor 0) .nothing)).server.phase =
        .uninitialized := by
  refine ⟨(throughout_append admittedMoves _).mpr ⟨disciplined_admittedMoves.1, ?_⟩, rfl, rfl, rfl,
    rfl, rfl⟩
  exact ⟨trivial, trivial, rfl, trivial, trivial, trivial, trivial, trivial, trivial⟩

end Traffic

end TunerRelay.Relay
