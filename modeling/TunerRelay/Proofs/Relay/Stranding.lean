import TunerRelay.Proofs.Relay.Crew

/-!
# How a supervisor gets stranded

Where sockets are opened only at rest and serving is asked for only once a socket is open, three
sections can close the server under a supervisor: the stop that is asked for between the admission
of a client and its serving, and the cleaning up after an opening or a start that failed.
-/

namespace TunerRelay.Relay

open TunerRelay.Server (Phase)

variable {ω : Type} [Audience ω]

/-! ### Which workers close the server -/

theorem Supervisor.Steps.phase_eq {supervisor later : Supervisor} {server next : Server}
    (hsteps : supervisor.Steps server later next) (hplace : supervisor.place ≠ .closing)
    (hclosed : next.phase = .uninitialized) : server.phase = .uninitialized := by
  have hhalted : server.requestStop.phase = .uninitialized → server.phase = .uninitialized := by
    unfold Server.requestStop
    split
    · exact id
    · intro habsurd
      cases habsurd
  cases hsteps with
  | walk hleads =>
      obtain ⟨place, observer, session, connection, reader, sent⟩ := supervisor
      cases hleads with
      | splitFailed | spawnFailed | halt => exact hhalted hclosed
      | enter => cases hclosed
      | fetchNothing epoch | fetch epoch => exact (Server.phase_take server epoch).symm.trans hclosed
      | giveBack buffer | drop buffer =>
          cases session with
          | none => exact hclosed
          | some epoch => exact (Server.phase_giveBack server epoch buffer).symm.trans hclosed
      | close => exact absurd rfl hplace
      | _ => exact hclosed
  | register hplace hadmitted =>
      unfold Server.admit? at hadmitted
      split at hadmitted
      · cases hadmitted
        cases hclosed
      · cases hadmitted
  | _ => exact hclosed

theorem Reader.phase_eq_of_step {reader : Reader} {observer : Nat} {signal : Signal} {hub : Hub ω}
    (hserved : hub.server.phase.IsServed) :
    (reader.step observer signal hub).2.server.phase ≠ .uninitialized := by
  have hhalted : ∀ server : Server, server.phase.IsServed →
      server.requestStop.phase ≠ .uninitialized ∧ server.stop.phase ≠ .uninitialized := by
    intro server hphase
    unfold Server.requestStop Server.stop
    rcases hphase with hphase | hphase <;> simp [hphase, Phase.number]
  have hkept : hub.server.phase ≠ .uninitialized := hserved.ne_uninitialized
  obtain ⟨place, received, records⟩ := reader
  cases place with
  | idle | assembling | judging | counting | handing | ended => exact hkept
  | receiving piece => cases signal <;> exact hkept
  | halting => exact (hhalted hub.server hserved).1
  | acting record =>
      simp only [step, Hub.hear]
      split
      · exact (hhalted hub.server hserved).2
      · exact hkept

namespace Traffic

/-! ### Which calls close the server -/

/-- The move closes the server although some supervisor is under way or about to be started. -/
def Strands (traffic : Traffic ω) : Move → Prop
  | .resume number _ =>
    match traffic.calls[number]? with
    | some .stopping => traffic.server.phase = .clientOpen
    | some (.abandoning _) | some (.clearing _ _) => 0 < traffic.workers
    | _ => False
  | _ => False

/-- Sockets are opened only at rest, and serving is asked for only once a socket is open. -/
def Permits (traffic : Traffic ω) : Move → Prop
  | .resume number _ =>
    match traffic.calls[number]? with
    | some (.staging _ _ _) => traffic.server.phase = .uninitialized
    | some (.engaging _) => traffic.server.phase = .socketOpen
    | _ => True
  | _ => True

end Traffic

theorem Call.closes_step {call : Call} {signal : Signal} {relay : Relay ω}
    (hclosed : (call.step signal relay).2.server.phase = .uninitialized)
    (hopen : relay.server.phase ≠ .uninitialized) :
    (∃ address port header, call = .staging address port header) ∨
      (∃ observer, call = .engaging observer) ∨
      call = .stopping ∧ relay.server.phase.number < Phase.asyncStarted.number ∨
      (∃ fault, call = .abandoning fault) ∨ ∃ observer fault, call = .clearing observer fault := by
  cases call with
  | staging address port header => exact Or.inl ⟨address, port, header, rfl⟩
  | engaging observer => exact Or.inr (Or.inl ⟨observer, rfl⟩)
  | abandoning fault => exact Or.inr (Or.inr (Or.inr (Or.inl ⟨fault, rfl⟩)))
  | clearing observer fault => exact Or.inr (Or.inr (Or.inr (Or.inr ⟨observer, fault, rfl⟩)))
  | stopping =>
      refine Or.inr (Or.inr (Or.inl ⟨rfl, ?_⟩))
      by_contra hlate
      have hstopping : relay.server.stop.phase = .uninitialized := hclosed
      unfold Server.stop at hstopping
      rw [if_neg hopen, if_neg hlate] at hstopping
      cases hstopping
  | binding | preparing | launching => cases signal <;> exact absurd hclosed hopen
  | listening endpoint =>
      simp only [step, listen, Server.listen] at hclosed
      split at hclosed
      · exact absurd hclosed hopen
      · rename_i hlisten
        split at hlisten <;> cases hlisten
        cases hclosed
  | keeping | awaiting | returned => exact absurd hclosed hopen
  | excusing observer fault =>
      exact absurd ((congrArg Server.phase (Hub.server_dismiss relay.hub observer)).symm.trans
        hclosed) hopen
  | glancing | collecting =>
      simp only [step] at hclosed
      split at hclosed <;> exact absurd hclosed hopen
  | feeding bytes =>
      simp only [step, feed] at hclosed
      split at hclosed
      · exact absurd hclosed hopen
      · exact absurd ((Server.phase_feed relay.server bytes).symm.trans hclosed) hopen

namespace Traffic

theorem not_stranded_work {traffic : Traffic ω} (worker : Worker) (signal : Signal)
    (hcrewed : traffic.Crewed) (htended : traffic.Tended) (hstranded : ¬ traffic.Stranded) :
    ¬ (traffic.move (.work worker signal)).Stranded := by
  cases hworker : traffic.supervisors[worker.number]? with
  | none =>
      rw [move_work_of_none signal hworker]
      exact hstranded
  | some acting =>
      have hserver := server_work signal hworker
      have hcount := Lists.countP_set Supervisor.isUnderWay
        (worker.step signal acting traffic.relay.hub).1 hworker
      have htend := htended acting (List.mem_of_getElem? hworker)
      rintro ⟨hclosed, hworkers⟩
      unfold workers at hworkers
      rw [supervisors_work signal hworker, calls_work] at hworkers
      cases hunderWay : acting.isUnderWay with
      | false =>
          obtain ⟨hkept, hdone⟩ :=
            Worker.step_of_not_isUnderWay worker signal traffic.relay.hub htend hunderWay
          rw [hserver, hkept] at hclosed
          simp only [hunderWay, hdone] at hcount
          refine hstranded ⟨hclosed, ?_⟩
          unfold workers
          omega
      | true =>
          have hcrew := hcrewed.workers_le
          have hsingle : traffic.server.phase.crew ≤ 1 := by cases traffic.server.phase <;> decide
          have hpositive := List.countP_pos_iff.mpr
            ⟨acting, List.mem_of_getElem? hworker, hunderWay⟩
          have hopen : traffic.server.phase ≠ .uninitialized := by
            intro hrest
            refine hstranded ⟨hrest, ?_⟩
            unfold workers
            omega
          rw [hserver] at hclosed
          cases worker with
          | supervisor number =>
              have hplace : acting.place = .closing := by
                by_contra hplace
                exact hopen ((acting.steps signal _).phase_eq hplace hclosed)
              have hdone : ((Worker.supervisor number).step signal acting
                  traffic.relay.hub).1.isUnderWay = false := by
                simp [Worker.step, Supervisor.step, hplace, Supervisor.isUnderWay,
                  Supervisor.goTo, Supervisor.Place.isUnderWay]
              simp only [hunderWay, hdone, Bool.false_eq_true, if_false, if_true] at hcount
              unfold workers at hcrew
              omega
          | reader number =>
              rcases htend with hended | ⟨hattending, -⟩
              · simp only [Worker.step] at hclosed
                rw [Supervisor.stepReader_of_readerIsEnded signal _ hended] at hclosed
                exact hopen hclosed
              · have hserved := hcrewed.served acting (List.mem_of_getElem? hworker)
                  (Or.inr hattending)
                simp only [Worker.step, Supervisor.stepReader] at hclosed
                split at hclosed
                · exact Reader.phase_eq_of_step hserved hclosed
                · exact hopen hclosed

/-- A section that neither asks for a supervisor nor starts one leaves their number as it is. -/
theorem workers_resume {traffic : Traffic ω} {number : Nat} {call : Call} (signal : Signal)
    (hcall : traffic.calls[number]? = some call)
    (hlaunching : (call.step signal traffic.relay).1.isLaunching = call.isLaunching)
    (hsupervisors : (call.step signal traffic.relay).2.supervisors = traffic.supervisors) :
    (traffic.move (.resume number signal)).workers = traffic.workers := by
  have hcount := Lists.countP_set Call.isLaunching (call.step signal traffic.relay).1 hcall
  rw [hlaunching] at hcount
  unfold workers
  rw [supervisors_resume signal hcall, calls_resume signal hcall, hsupervisors]
  omega

theorem not_stranded_resume_of_atRest {traffic : Traffic ω} {number : Nat} {call : Call}
    (signal : Signal) (hcall : traffic.calls[number]? = some call)
    (hrest : traffic.server.phase = .uninitialized) (hworkers : traffic.workers = 0) :
    ¬ (traffic.move (.resume number signal)).Stranded := by
  have hnone : traffic.calls.countP Call.isLaunching = 0 := by
    unfold workers at hworkers
    omega
  have hbefore : call.isLaunching = false := by
    simpa using List.countP_eq_zero.mp hnone call (List.mem_of_getElem? hcall)
  have hafter : (call.step signal traffic.relay).1.isLaunching = false := by
    cases hlaunching : (call.step signal traffic.relay).1.isLaunching with
    | false => rfl
    | true =>
        obtain ⟨observer, -, hopen, -⟩ := Call.isLaunching_step hlaunching
        cases hrest.symm.trans hopen
  have hsupervisors : (call.step signal traffic.relay).2.supervisors = traffic.supervisors := by
    rcases Call.supervisors_step call signal traffic.relay with hsame | ⟨-, observer, rfl⟩
    · exact hsame
    · cases hbefore
  rintro ⟨-, hsome⟩
  rw [workers_resume signal hcall (hafter.trans hbefore.symm) hsupervisors, hworkers] at hsome
  exact Nat.lt_irrefl 0 hsome

omit [Audience ω] in
theorem not_strands_of_atRest {traffic : Traffic ω} (move : Move)
    (hrest : traffic.server.phase = .uninitialized) (hworkers : traffic.workers = 0) :
    ¬ traffic.Strands move := by
  cases move with
  | begin | work => exact id
  | resume number signal =>
      unfold Strands
      rw [hrest, hworkers]
      simp only
      split <;> simp

theorem stranded_of_strands {traffic : Traffic ω} (number : Nat) (signal : Signal)
    (hcrewed : traffic.Crewed) (hstrands : traffic.Strands (.resume number signal)) :
    (traffic.move (.resume number signal)).Stranded := by
  unfold Strands at hstrands
  simp only at hstrands
  split at hstrands
  · rename_i hcall
    obtain ⟨supervisor, hmem, hunderWay⟩ := hcrewed.admitted hstrands
    have hpositive := List.countP_pos_iff.mpr ⟨supervisor, hmem, hunderWay⟩
    constructor
    · rw [server_resume signal hcall]
      have hopen : traffic.relay.hub.server.phase = .clientOpen := hstrands
      simp [Call.step, Hub.stop, Server.stop, hopen, Phase.number, Relay.server, Relay.withHub,
        Hub.withServer]
    · rw [workers_resume signal hcall rfl rfl]
      unfold workers
      omega
  · rename_i hcall
    constructor
    · rw [server_resume signal hcall]
      exact Server.phase_cleanUp _
    · rw [workers_resume signal hcall rfl rfl]
      exact hstrands
  · rename_i hcall
    constructor
    · rw [server_resume signal hcall]
      exact Server.phase_cleanUp _
    · rw [workers_resume signal hcall rfl rfl]
      exact hstrands
  · exact hstrands.elim

/-- Of the sections that a disciplined caller may run, just these strand a supervisor. -/
theorem stranded_resume_iff {traffic : Traffic ω} (number : Nat) (signal : Signal)
    (hcrewed : traffic.Crewed) (hstranded : ¬ traffic.Stranded)
    (hpermitted : traffic.Permits (.resume number signal)) :
    (traffic.move (.resume number signal)).Stranded ↔ traffic.Strands (.resume number signal) := by
  cases hcall : traffic.calls[number]? with
  | none =>
      rw [move_resume_of_none signal hcall]
      simp [Strands, hcall, hstranded]
  | some call =>
      by_cases hrest : traffic.server.phase = .uninitialized
      · have hworkers : traffic.workers = 0 := by
          by_contra hsome
          exact hstranded ⟨hrest, Nat.pos_of_ne_zero hsome⟩
        exact iff_of_false (not_stranded_resume_of_atRest signal hcall hrest hworkers)
          (not_strands_of_atRest _ hrest hworkers)
      have hserver := server_resume signal hcall
      constructor
      · rintro ⟨hclosed, hworkers⟩
        rw [hserver] at hclosed
        rcases Call.closes_step hclosed hrest with ⟨address, port, header, rfl⟩ |
          ⟨observer, rfl⟩ | ⟨rfl, hearly⟩ | ⟨fault, rfl⟩ | ⟨observer, fault, rfl⟩
        · simp only [Permits, hcall] at hpermitted
          exact absurd hpermitted hrest
        · simp only [Permits, hcall] at hpermitted
          rw [Call.step_engaging signal observer hpermitted] at hclosed
          cases hclosed
        · rw [workers_resume signal hcall rfl rfl] at hworkers
          simp only [Strands, hcall]
          have hcrew := hcrewed.workers_le
          have hearly : traffic.server.phase.number < Phase.asyncStarted.number := hearly
          cases hphase : traffic.server.phase with
          | clientOpen => rfl
          | uninitialized => exact absurd hphase hrest
          | initialized | socketOpen =>
              rw [hphase] at hcrew
              simp only [Phase.crew] at hcrew
              omega
          | asyncStarted | serving | stopping =>
              rw [hphase] at hearly
              simp [Phase.number] at hearly
        · rw [workers_resume signal hcall rfl rfl] at hworkers
          simp only [Strands, hcall]
          exact hworkers
        · rw [workers_resume signal hcall rfl rfl] at hworkers
          simp only [Strands, hcall]
          exact hworkers
      · exact stranded_of_strands number signal hcrewed

theorem stranded_move_iff {traffic : Traffic ω} (move : Move) (hcrewed : traffic.Crewed)
    (htended : traffic.Tended) (hstranded : ¬ traffic.Stranded)
    (hpermitted : traffic.Permits move) :
    (traffic.move move).Stranded ↔ traffic.Strands move := by
  cases move with
  | begin operation =>
      refine iff_of_false ?_ id
      rintro ⟨hrest, hworkers⟩
      refine hstranded ⟨hrest, ?_⟩
      have hidle : (Call.ofOperation operation).isLaunching = false := by cases operation <;> rfl
      simpa [workers, Traffic.move, hidle, supervisors] using hworkers
  | resume number signal => exact stranded_resume_iff number signal hcrewed hstranded hpermitted
  | work worker signal =>
      exact iff_of_false (not_stranded_work worker signal hcrewed htended hstranded) id

/-! ### Runs in which nobody is stranded -/

/-- Something holds of every move in the state in which it is made. -/
def Throughout (property : Traffic ω → Move → Prop) (traffic : Traffic ω) : List Move → Prop
  | [] => True
  | move :: moves => property traffic move ∧ (traffic.move move).Throughout property moves

theorem throughout_append {property : Traffic ω → Move → Prop} {traffic : Traffic ω}
    (first second : List Move) :
    traffic.Throughout property (first ++ second) ↔
      traffic.Throughout property first ∧ (traffic.run first).Throughout property second := by
  induction first generalizing traffic with
  | nil => simp [Throughout]
  | cons move moves ih => simp only [List.cons_append, Throughout, ih, run_cons, and_assoc]

/-- Every call that opens a socket or asks to be served is made in its phase. -/
def Disciplined (traffic : Traffic ω) (moves : List Move) : Prop :=
  traffic.Throughout Permits moves

/-- No move strands a supervisor. -/
def Careful (traffic : Traffic ω) (moves : List Move) : Prop :=
  traffic.Throughout (fun traffic move => ¬ traffic.Strands move) moves

theorem disciplined_append {traffic : Traffic ω} {first second : List Move}
    (hfirst : traffic.Disciplined first ∧ traffic.Careful first)
    (hsecond : (traffic.run first).Disciplined second ∧ (traffic.run first).Careful second) :
    traffic.Disciplined (first ++ second) ∧ traffic.Careful (first ++ second) :=
  ⟨(throughout_append first second).mpr ⟨hfirst.1, hsecond.1⟩,
    (throughout_append first second).mpr ⟨hfirst.2, hsecond.2⟩⟩

/-- Workers break no discipline and strand nobody. -/
theorem disciplined_workMoves (traffic : Traffic ω) (worker : Worker) (signals : List Signal) :
    traffic.Disciplined (workMoves worker signals) ∧
      traffic.Careful (workMoves worker signals) := by
  induction signals generalizing traffic with
  | nil => exact ⟨trivial, trivial⟩
  | cons signal signals ih =>
      obtain ⟨hdisciplined, hcareful⟩ := ih (traffic.move (.work worker signal))
      exact ⟨⟨trivial, hdisciplined⟩, ⟨id, hcareful⟩⟩

theorem disciplined_askedMoves :
    (atRest ()).Disciplined askedMoves ∧ (atRest ()).Careful askedMoves :=
  ⟨⟨trivial, rfl, trivial, trivial, trivial, trivial, rfl, trivial, trivial, trivial⟩,
    ⟨id, id, id, id, id, id, id, id, id, trivial⟩⟩

omit [Audience ω] in
theorem crewed_atRest (world : ω) : (atRest world).Crewed ∧ ¬ (atRest world).Stranded := by
  have hstranded : ¬ (atRest world).Stranded := fun hstranded => Nat.lt_irrefl 0 hstranded.2
  exact ⟨crewed_of_atRest rfl hstranded, hstranded⟩

theorem crewed_run {traffic : Traffic ω} (moves : List Move)
    (hcrewed : traffic.Crewed ∧ ¬ traffic.Stranded) (htended : traffic.Tended)
    (hdisciplined : traffic.Disciplined moves) (hcareful : traffic.Careful moves) :
    (traffic.run moves).Crewed ∧ ¬ (traffic.run moves).Stranded := by
  induction moves generalizing traffic with
  | nil => exact hcrewed
  | cons move moves ih =>
      have hstranded : ¬ (traffic.move move).Stranded := by
        rw [stranded_move_iff move hcrewed.1 htended hcrewed.2 hdisciplined.1]
        exact hcareful.1
      exact ih ⟨crewed_move move hcrewed.1 htended hstranded, hstranded⟩
        (tended_move move htended) hdisciplined.2 hcareful.2

end Traffic

end TunerRelay.Relay
