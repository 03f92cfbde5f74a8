import TunerRelay.Proofs.Lists
import TunerRelay.Proofs.Relay.Upkeep

/-!
# The crew of a relay

A relay is stranded when the server is at rest although some supervisor is still under way, or about
to be started: whatever is opened next, that supervisor is going to close. As long as a relay is not
stranded it has at most one supervisor under way, and none before the server is asked to serve.
-/

namespace TunerRelay

/-- How many supervisors a phase has room for. -/
def Server.Phase.crew : Server.Phase → Nat
  | .uninitialized | .initialized | .socketOpen => 0
  | .clientOpen | .asyncStarted | .serving | .stopping => 1

/-- Phases of a session that has begun to serve its client. -/
def Server.Phase.IsServed (phase : Server.Phase) : Prop := phase = .serving ∨ phase = .stopping

theorem Server.Phase.IsServed.ne_uninitialized {phase : Server.Phase} (hserved : phase.IsServed) :
    phase ≠ .uninitialized := by
  rcases hserved with rfl | rfl <;> exact nofun

theorem Server.Phase.IsServed.ne_socketOpen {phase : Server.Phase} (hserved : phase.IsServed) :
    phase ≠ .socketOpen := by
  rcases hserved with rfl | rfl <;> exact nofun

def Relay.Call.isLaunching : Relay.Call → Bool
  | .launching _ => true
  | _ => false

namespace Server

variable {server next : Server}

theorem Quiet.crew_eq_one_or (hquiet : Quiet server next) (hcrew : server.phase.crew = 1) :
    next.phase.crew = 1 ∨ next.phase = .uninitialized := by
  cases hquiet with
  | stay | countSent => exact Or.inl hcrew
  | listen endpoint hphase | engage observer hphase =>
      rw [hphase] at hcrew
      cases hcrew
  | register | serve | halt => exact Or.inl rfl
  | close => exact Or.inr (phase_cleanUp server)

theorem Quiet.isServed_or (hquiet : Quiet server next) (hserved : server.phase.IsServed) :
    next.phase.IsServed ∨ next.phase = .uninitialized := by
  cases hquiet with
  | stay | countSent => exact Or.inl hserved
  | listen endpoint hphase | engage observer hphase | register connection hphase | serve hphase =>
      rw [hphase] at hserved
      rcases hserved with habsurd | habsurd <;> cases habsurd
  | halt => exact Or.inl (Or.inr rfl)
  | close => exact Or.inr (phase_cleanUp server)

variable {session : Option Nat} {hand : Option Pool.Buffer}

theorem Work.crew_eq_one_or (hwork : Work session hand server next) (hcrew : server.phase.crew = 1) :
    next.phase.crew = 1 ∨ next.phase = .uninitialized := by
  rcases hwork.quiet_or with hquiet | hphase
  · exact hquiet.crew_eq_one_or hcrew
  · exact Or.inl (hphase ▸ hcrew)

theorem Work.isServed_or (hwork : Work session hand server next) (hserved : server.phase.IsServed) :
    next.phase.IsServed ∨ next.phase = .uninitialized := by
  rcases hwork.quiet_or with hquiet | hphase
  · exact hquiet.isServed_or hserved
  · exact Or.inl (hphase ▸ hserved)

end Server

namespace Relay.Traffic

variable {ω : Type} [Audience ω]

/-! ### How many there are -/

/-- Supervisors that are under way or about to be started. -/
def workers (traffic : Traffic ω) : Nat :=
  traffic.supervisors.countP Supervisor.isUnderWay + traffic.calls.countP Call.isLaunching

/-- The server is at rest, and yet there is a supervisor that is going to close it. -/
def Stranded (traffic : Traffic ω) : Prop :=
  traffic.server.phase = .uninitialized ∧ 0 < traffic.workers

structure Crewed (traffic : Traffic ω) : Prop where
  workers_le : traffic.workers ≤ traffic.server.phase.crew
  served : ∀ supervisor ∈ traffic.supervisors,
    supervisor.place = .spawning ∨ supervisor.place.isAttending = true →
      traffic.server.phase.IsServed
  /-- The supervisor that admitted the client is under way. -/
  admitted : traffic.server.phase = .clientOpen →
    ∃ supervisor ∈ traffic.supervisors, supervisor.isUnderWay = true

omit [Audience ω] in
theorem crewed_of_atRest {traffic : Traffic ω}
    (hphase : traffic.server.phase = .uninitialized) (hstranded : ¬ traffic.Stranded) :
    traffic.Crewed := by
  have hnone : traffic.workers = 0 := by
    by_contra hsome
    exact hstranded ⟨hphase, Nat.pos_of_ne_zero hsome⟩
  refine ⟨hnone ▸ Nat.zero_le _, ?_, ?_⟩
  · intro supervisor hsupervisor hplace
    have hunderWay : supervisor.isUnderWay = true := by
      rcases hplace with hspawning | hattending
      · simp [Supervisor.isUnderWay, hspawning, Supervisor.Place.isUnderWay]
      · exact Supervisor.isUnderWay_of_isAttending hattending
    have hpositive := List.countP_pos_iff.mpr ⟨supervisor, hsupervisor, hunderWay⟩
    unfold workers at hnone
    omega
  · intro habsurd
    rw [hphase] at habsurd
    cases habsurd

end Relay.Traffic

/-! ### Crewed relays stay crewed -/

/-- How the section of a caller moves the phase, the engaging of a supervisor apart. -/
inductive Server.Phase.Turn : Server.Phase → Server.Phase → Prop where
  | stay (phase : Server.Phase) : Turn phase phase
  | stage : Turn .uninitialized .initialized
  | listen : Turn .initialized .socketOpen
  | halt (phase : Server.Phase) (hphase : Phase.asyncStarted.number ≤ phase.number) :
    Turn phase .stopping
  | close (phase : Server.Phase) : Turn phase .uninitialized

namespace Server

@[simp]
theorem phase_feed (server : Server) (bytes : List UInt8) :
    (server.feed bytes).2.phase = server.phase := by
  unfold feed
  split
  · rfl
  · rfl
  · split <;> rfl

theorem turn_stop (server : Server) : Phase.Turn server.phase server.stop.phase := by
  unfold stop
  split
  · exact .stay _
  · split
    · rw [phase_cleanUp]
      exact .close _
    · exact .halt _ (Nat.le_of_not_lt ‹_›)

theorem turn_of_stage {server staged : Server} {header : Wire.Header}
    (hstage : server.stage header = .ok staged) : Phase.Turn server.phase staged.phase := by
  unfold stage at hstage
  split at hstage
  · cases hstage
    rw [‹server.phase = .uninitialized›]
    exact .stage
  · cases hstage

theorem turn_of_listen {server opened : Server} {endpoint : Net.Endpoint}
    (hlisten : server.listen endpoint = .ok opened) :
    Phase.Turn server.phase opened.phase := by
  unfold listen at hlisten
  split at hlisten
  · cases hlisten
    rw [‹server.phase = .initialized›]
    exact .listen
  · cases hlisten

namespace Phase.Turn

variable {phase next : Phase}

theorem crew_le_or (hturn : Turn phase next) : phase.crew ≤ next.crew ∨ next = .uninitialized := by
  cases hturn with
  | stay => exact Or.inl (Nat.le_refl _)
  | stage | listen => exact Or.inl (by decide)
  | halt =>
      left
      cases phase <;> decide
  | close => exact Or.inr rfl

theorem isServed_or (hturn : Turn phase next) (hserved : phase.IsServed) :
    next.IsServed ∨ next = .uninitialized := by
  cases hturn with
  | stay => exact Or.inl hserved
  | stage | listen => rcases hserved with habsurd | habsurd <;> cases habsurd
  | halt => exact Or.inl (Or.inr rfl)
  | close => exact Or.inr rfl

theorem eq_clientOpen (hturn : Turn phase next) (hnext : next = .clientOpen) :
    phase = .clientOpen := by
  cases hturn with
  | stay => exact hnext
  | _ => cases hnext

end Phase.Turn

end Server

namespace Relay

open TunerRelay.Server (Phase)

variable {ω : Type} [Audience ω]

theorem Call.step_engaging {relay : Relay ω} (signal : Signal) (observer : Nat)
    (hphase : relay.server.phase = .socketOpen) :
    (Call.engaging observer).step signal relay =
      (.launching observer,
        relay.withServer
          { relay.server with phase := .asyncStarted, observer := some observer }) := by
  simp only [step, engage, Server.engage, hphase, if_true]

theorem Call.step_engaging_of_ne {relay : Relay ω} (signal : Signal) (observer : Nat)
    (hphase : relay.server.phase ≠ .socketOpen) :
    (Call.engaging observer).step signal relay =
      (.excusing observer (.wrongPhase relay.server.phase),
        relay.withServer relay.server.cleanUp) := by
  simp only [step, engage, Server.engage, hphase, if_false]

theorem Call.turn_step (call : Call) (signal : Signal) (relay : Relay ω) :
    Phase.Turn relay.server.phase (call.step signal relay).2.server.phase ∨
      ∃ observer, call = .engaging observer ∧ relay.server.phase = .socketOpen ∧
        (call.step signal relay).2.server.phase = .asyncStarted := by
  cases call with
  | staging address port header =>
      left
      simp only [step, stage]
      split
      · exact .stay _
      · exact Server.turn_of_stage ‹_›
  | binding | preparing | launching =>
      left
      cases signal <;> exact .stay _
  | listening endpoint =>
      left
      simp only [step, listen]
      split
      · exact .stay _
      · exact Server.turn_of_listen ‹_›
  | abandoning | clearing =>
      left
      have hphase := Server.phase_cleanUp relay.server
      exact hphase ▸ .close _
  | engaging observer =>
      by_cases hphase : relay.server.phase = .socketOpen
      · right
        refine ⟨observer, rfl, hphase, ?_⟩
        rw [step_engaging signal observer hphase]
        rfl
      · left
        rw [step_engaging_of_ne signal observer hphase]
        exact Server.phase_cleanUp relay.server ▸ .close _
  | keeping | awaiting | returned => exact Or.inl (.stay _)
  | excusing observer fault =>
      left
      have hserver : ((Call.excusing observer fault).step signal relay).2.server = relay.server :=
        Hub.server_dismiss relay.hub observer
      rw [hserver]
      exact .stay _
  | stopping => exact Or.inl (Server.turn_stop relay.hub.server)
  | glancing | collecting =>
      left
      simp only [step]
      split <;> exact .stay _
  | feeding bytes =>
      left
      simp only [step, feed]
      split
      · exact .stay _
      · have hphase := Server.phase_feed relay.server bytes
        exact (congrArg (Phase.Turn relay.server.phase) hphase).mpr (.stay _)

theorem Call.isServed_or_step (call : Call) (signal : Signal) {relay : Relay ω}
    (hserved : relay.server.phase.IsServed) :
    (call.step signal relay).2.server.phase.IsServed ∨
      (call.step signal relay).2.server.phase = .uninitialized := by
  rcases call.turn_step signal relay with hturn | ⟨-, -, hopen, -⟩
  · exact hturn.isServed_or hserved
  · exact absurd hopen hserved.ne_socketOpen

theorem Call.isLaunching_step {call : Call} {signal : Signal} {relay : Relay ω}
    (hlaunching : (call.step signal relay).1.isLaunching = true) :
    ∃ observer, call = .engaging observer ∧ relay.server.phase = .socketOpen ∧
      (call.step signal relay).2.server.phase = .asyncStarted := by
  cases call with
  | staging address port header =>
      simp only [step, stage] at hlaunching
      split at hlaunching
      · cases hlaunching
      · dsimp only at hlaunching
        split at hlaunching <;> cases hlaunching
  | binding | preparing | launching => cases signal <;> cases hlaunching
  | listening endpoint =>
      simp only [step, listen] at hlaunching
      split at hlaunching <;> cases hlaunching
  | engaging observer =>
      by_cases hphase : relay.server.phase = .socketOpen
      · refine ⟨observer, rfl, hphase, ?_⟩
        rw [step_engaging signal observer hphase]
        rfl
      · rw [step_engaging_of_ne signal observer hphase] at hlaunching
        cases hlaunching
  | abandoning | keeping | clearing | excusing | stopping | returned => cases hlaunching
  | awaiting | glancing | collecting =>
      simp only [step] at hlaunching
      split at hlaunching <;> cases hlaunching
  | feeding bytes =>
      simp only [step, feed] at hlaunching
      split at hlaunching <;> cases hlaunching

/-- A supervisor comes to serve its client only by making the server serve. -/
theorem Supervisor.Steps.serves_or {supervisor later : Supervisor} {server next : Server}
    (hsteps : supervisor.Steps server later next)
    (hserves : later.place = .spawning ∨ later.place.isAttending = true) :
    (supervisor.place = .spawning ∨ supervisor.place.isAttending = true) ∨
      next.phase = .serving := by
  cases hsteps with
  | note => rcases hserves with habsurd | habsurd <;> cases habsurd
  | walk hleads =>
      obtain ⟨place, observer, session, connection, reader, sent⟩ := supervisor
      cases hleads with
      | enter => exact Or.inr rfl
      | spawnFailed => exact Or.inl (Or.inl rfl)
      | goOn | stop | skip | fetchNothing | fetch | offer | finish | offerAgain | fail | giveBack
      | drop | count | halt | linger => exact Or.inl (Or.inr rfl)
      | _ => rcases hserves with habsurd | habsurd <;> cases habsurd
  | register hplace hadmitted hnext =>
      rcases hnext with rfl | rfl <;> rcases hserves with habsurd | habsurd <;> cases habsurd
  | staff hplace => exact Or.inl (Or.inl hplace)
  | send count hplace => exact Or.inl (Or.inr (by rw [hplace]; rfl))
  | join => rcases hserves with habsurd | habsurd <;> cases habsurd

theorem Supervisor.Steps.isUnderWay_or {supervisor later : Supervisor} {server next : Server}
    (hsteps : supervisor.Steps server later next) (hunderWay : supervisor.isUnderWay = true) :
    later.isUnderWay = true ∨ next.phase = .uninitialized := by
  cases hsteps with
  | walk hleads =>
      obtain ⟨place, observer, session, connection, reader, sent⟩ := supervisor
      cases hleads with
      | close => exact Or.inr (Server.phase_cleanUp server)
      | inform | quit | leave | stay => cases hunderWay
      | _ => exact Or.inl rfl
  | register hplace hadmitted hnext => rcases hnext with rfl | rfl <;> exact Or.inl rfl
  | _ => exact Or.inl rfl

theorem Worker.served_step {worker : Worker} {supervisor : Supervisor} {signal : Signal}
    {hub : Hub ω}
    (hserves : (worker.step signal supervisor hub).1.place = .spawning ∨
      (worker.step signal supervisor hub).1.place.isAttending = true) :
    (supervisor.place = .spawning ∨ supervisor.place.isAttending = true) ∨
      (worker.step signal supervisor hub).2.server.phase = .serving := by
  cases worker with
  | supervisor number => exact (supervisor.steps signal hub).serves_or hserves
  | reader number =>
      left
      simp only [step, Supervisor.place_stepReader] at hserves
      exact hserves

theorem Worker.isUnderWay_step (worker : Worker) {supervisor : Supervisor} (signal : Signal)
    (hub : Hub ω) (hunderWay : supervisor.isUnderWay = true) :
    (worker.step signal supervisor hub).1.isUnderWay = true ∨
      (worker.step signal supervisor hub).2.server.phase = .uninitialized := by
  cases worker with
  | supervisor number => exact (supervisor.steps signal hub).isUnderWay_or hunderWay
  | reader number =>
      left
      simp only [step, Supervisor.isUnderWay, Supervisor.place_stepReader]
      exact hunderWay

namespace Traffic

theorem crewed_work_of_not_isUnderWay {traffic : Traffic ω} {worker : Worker}
    {acting : Supervisor} (signal : Signal) (hcrewed : traffic.Crewed) (htended : acting.Tended)
    (hworker : traffic.supervisors[worker.number]? = some acting)
    (hunderWay : acting.isUnderWay = false) : (traffic.move (.work worker signal)).Crewed := by
  obtain ⟨hkept, hdone⟩ :=
    Worker.step_of_not_isUnderWay worker signal traffic.relay.hub htended hunderWay
  have hserver : (traffic.move (.work worker signal)).server = traffic.server :=
    (server_work signal hworker).trans hkept
  refine ⟨?_, ?_, ?_⟩
  · have hcount := Lists.countP_set Supervisor.isUnderWay
      (worker.step signal acting traffic.relay.hub).1 hworker
    simp only [hunderWay, hdone] at hcount
    have hworkers := hcrewed.workers_le
    unfold workers at hworkers ⊢
    rw [hserver, supervisors_work signal hworker, calls_work]
    omega
  · intro supervisor hsupervisor hserves
    rw [hserver]
    rw [supervisors_work signal hworker] at hsupervisor
    rcases List.mem_or_eq_of_mem_set hsupervisor with hmem | rfl
    · exact hcrewed.served supervisor hmem hserves
    · rcases hserves with hspawning | hattending
      · simp [Supervisor.isUnderWay, hspawning, Supervisor.Place.isUnderWay] at hdone
      · rw [Supervisor.isUnderWay_of_isAttending hattending] at hdone
        cases hdone
  · intro hopen
    rw [hserver] at hopen
    obtain ⟨supervisor, hmem, hsupervisor⟩ := hcrewed.admitted hopen
    obtain ⟨place, hplace⟩ := List.getElem?_of_mem hmem
    refine ⟨supervisor, ?_, hsupervisor⟩
    rw [supervisors_work signal hworker]
    refine List.mem_of_getElem? (i := place) ?_
    rw [List.getElem?_set_ne, hplace]
    intro heq
    rw [heq, hplace] at hworker
    cases hworker
    rw [hsupervisor] at hunderWay
    cases hunderWay

theorem crewed_work {traffic : Traffic ω} (worker : Worker) (signal : Signal)
    (hcrewed : traffic.Crewed) (htended : traffic.Tended)
    (hstranded : ¬ (traffic.move (.work worker signal)).Stranded) :
    (traffic.move (.work worker signal)).Crewed := by
  cases hworker : traffic.supervisors[worker.number]? with
  | none =>
      rw [move_work_of_none signal hworker]
      exact hcrewed
  | some acting =>
      by_cases hphase : (traffic.move (.work worker signal)).server.phase = .uninitialized
      · exact crewed_of_atRest hphase hstranded
      cases hunderWay : acting.isUnderWay with
      | false =>
          exact crewed_work_of_not_isUnderWay signal hcrewed
            (htended acting (List.mem_of_getElem? hworker)) hworker hunderWay
      | true =>
          have hserver := server_work signal hworker
          have hsupervisors := supervisors_work signal hworker
          have hwork := Worker.work_step worker signal acting traffic.relay.hub
          rw [← hserver] at hwork
          have hworkers := hcrewed.workers_le
          have hcount := Lists.countP_set Supervisor.isUnderWay
            (worker.step signal acting traffic.relay.hub).1 hworker
          rw [hunderWay, if_pos rfl] at hcount
          have hsome : (worker.step signal acting traffic.relay.hub).1.isUnderWay = true := by
            refine (Worker.isUnderWay_step worker signal _ hunderWay).resolve_right ?_
            rw [← hserver]
            exact hphase
          rw [hsome, if_pos rfl] at hcount
          refine ⟨?_, ?_, ?_⟩
          · have hpositive := List.countP_pos_iff.mpr
              ⟨acting, List.mem_of_getElem? hworker, hunderWay⟩
            have hcrew : traffic.server.phase.crew = 1 := by
              unfold workers at hworkers
              cases hcase : traffic.server.phase <;> rw [hcase] at hworkers <;>
                simp only [Server.Phase.crew] at hworkers ⊢ <;> omega
            rw [(hwork.crew_eq_one_or hcrew).resolve_right hphase]
            rw [hcrew] at hworkers
            unfold workers at hworkers ⊢
            rw [hsupervisors, calls_work]
            omega
          · intro supervisor hsupervisor hserves
            rw [hsupervisors] at hsupervisor
            rcases List.mem_or_eq_of_mem_set hsupervisor with hmem | rfl
            · have hserved := hcrewed.served supervisor hmem hserves
              exact (hwork.isServed_or hserved).resolve_right hphase
            · rcases Worker.served_step hserves with hbefore | hserving
              · have hserved := hcrewed.served acting (List.mem_of_getElem? hworker) hbefore
                exact (hwork.isServed_or hserved).resolve_right hphase
              · left
                rw [hserver]
                exact hserving
          · intro _
            refine ⟨_, ?_, hsome⟩
            rw [hsupervisors]
            refine List.mem_of_getElem? (i := worker.number) ?_
            rw [List.getElem?_set_self]
            exact (List.getElem?_eq_some_iff.mp hworker).1

/-- A section of a caller makes room in the crew for every supervisor it asks for or starts. -/
theorem workers_resume_le {traffic : Traffic ω} {number : Nat} {call : Call} (signal : Signal)
    (hcall : traffic.calls[number]? = some call)
    (hphase : (traffic.move (.resume number signal)).server.phase ≠ .uninitialized) :
    (traffic.move (.resume number signal)).workers + traffic.server.phase.crew ≤
      traffic.workers + (traffic.move (.resume number signal)).server.phase.crew := by
  have hserver := server_resume signal hcall
  have hasked : (call.step signal traffic.relay).1.isLaunching = true →
      traffic.server.phase.crew = 0 ∧
        (traffic.move (.resume number signal)).server.phase.crew = 1 ∧
          call.isLaunching = false := by
    intro hlaunching
    obtain ⟨observer, rfl, hopen, hstarted⟩ := Call.isLaunching_step hlaunching
    have hopen : traffic.server.phase = .socketOpen := hopen
    rw [hserver, hstarted, hopen]
    exact ⟨rfl, rfl, rfl⟩
  have hroom : traffic.server.phase.crew ≤
      (traffic.move (.resume number signal)).server.phase.crew := by
    rcases Call.turn_step call signal traffic.relay with hturn | ⟨observer, -, hopen, hstarted⟩
    · rw [← hserver] at hturn
      exact hturn.crew_le_or.resolve_right hphase
    · have hopen : traffic.server.phase = .socketOpen := hopen
      rw [hserver, hstarted, hopen]
      exact Nat.zero_le _
  have hcount := Lists.countP_set Call.isLaunching (call.step signal traffic.relay).1 hcall
  have hstarted := Call.supervisors_step call signal traffic.relay
  rw [← supervisors_resume signal hcall] at hstarted
  unfold workers
  rw [calls_resume signal hcall]
  rcases hstarted with hsame | ⟨hmore, observer, rfl⟩
  · rw [show (traffic.move (.resume number signal)).supervisors = traffic.supervisors from hsame]
    cases hlaunching : (call.step signal traffic.relay).1.isLaunching with
    | false =>
        simp only [hlaunching, Bool.false_eq_true, if_false] at hcount
        omega
    | true =>
        obtain ⟨hempty, hfull, hnot⟩ := hasked hlaunching
        simp only [hlaunching, hnot, Bool.false_eq_true, if_false, if_true] at hcount
        omega
  · rw [show (traffic.move (.resume number signal)).supervisors = traffic.supervisors ++ [{}] from
      hmore, List.countP_append]
    have hnew : [({} : Supervisor)].countP Supervisor.isUnderWay = 1 := rfl
    have hlaunched : (Call.launching observer).isLaunching = true := rfl
    cases hlaunching : ((Call.launching observer).step signal traffic.relay).1.isLaunching with
    | false =>
        simp only [hlaunching, hlaunched, Bool.false_eq_true, if_false, if_true] at hcount
        omega
    | true => cases (hasked hlaunching).2.2

theorem crewed_resume {traffic : Traffic ω} (number : Nat) (signal : Signal)
    (hcrewed : traffic.Crewed)
    (hstranded : ¬ (traffic.move (.resume number signal)).Stranded) :
    (traffic.move (.resume number signal)).Crewed := by
  cases hcall : traffic.calls[number]? with
  | none =>
      rw [move_resume_of_none signal hcall]
      exact hcrewed
  | some call =>
      by_cases hphase : (traffic.move (.resume number signal)).server.phase = .uninitialized
      · exact crewed_of_atRest hphase hstranded
      have hserver := server_resume signal hcall
      have hturn := Call.turn_step call signal traffic.relay
      rw [← hserver] at hturn
      have hstarted := Call.supervisors_step call signal traffic.relay
      rw [← supervisors_resume signal hcall] at hstarted
      have hkept : ∀ supervisor ∈ (traffic.move (.resume number signal)).supervisors,
          supervisor ∈ traffic.supervisors ∨ supervisor = {} := by
        intro supervisor hsupervisor
        rcases hstarted with hsame | ⟨hmore, -⟩
        · rw [hsame] at hsupervisor
          exact Or.inl hsupervisor
        · rw [hmore, List.mem_append, List.mem_singleton] at hsupervisor
          exact hsupervisor
      have hstay : ∀ supervisor ∈ traffic.supervisors,
          supervisor ∈ (traffic.move (.resume number signal)).supervisors := by
        intro supervisor hsupervisor
        rcases hstarted with hsame | ⟨hmore, -⟩
        · rw [hsame]
          exact hsupervisor
        · rw [hmore]
          exact List.mem_append_left _ hsupervisor
      refine ⟨?_, ?_, ?_⟩
      · have hle := workers_resume_le signal hcall hphase
        have hworkers := hcrewed.workers_le
        omega
      · intro supervisor hsupervisor hserves
        rcases hkept supervisor hsupervisor with hmem | rfl
        · have hserved := hcrewed.served supervisor hmem hserves
          rcases hturn with hturn | ⟨observer, -, hopen, -⟩
          · exact (hturn.isServed_or hserved).resolve_right hphase
          · exact absurd hopen hserved.ne_socketOpen
        · rcases hserves with habsurd | habsurd <;> cases habsurd
      · intro hopen
        rcases hturn with hturn | ⟨observer, -, -, hengaged⟩
        · obtain ⟨supervisor, hmem, hunderWay⟩ := hcrewed.admitted (hturn.eq_clientOpen hopen)
          exact ⟨supervisor, hstay supervisor hmem, hunderWay⟩
        · cases hopen.symm.trans hengaged

theorem crewed_move {traffic : Traffic ω} (move : Move) (hcrewed : traffic.Crewed)
    (htended : traffic.Tended) (hstranded : ¬ (traffic.move move).Stranded) :
    (traffic.move move).Crewed := by
  cases move with
  | begin operation =>
      have hidle : (Call.ofOperation operation).isLaunching = false := by cases operation <;> rfl
      refine ⟨?_, hcrewed.served, hcrewed.admitted⟩
      have hworkers := hcrewed.workers_le
      unfold workers at hworkers ⊢
      simp only [Traffic.move, List.countP_append, List.countP_singleton, hidle,
        Bool.false_eq_true, if_false]
      exact hworkers
  | resume number signal => exact crewed_resume number signal hcrewed hstranded
  | work worker signal => exact crewed_work worker signal hcrewed htended hstranded

end Traffic

end Relay

end TunerRelay
