import TunerRelay.Proofs.Relay.Stranding

/-!
# Isolation of sessions

No supervisor that was started for an earlier session may touch a later one. The supervisors of a
relay do not know the session they belong to: each closes whatever is open when it gets there. What
keeps sessions apart is that a socket can be opened only at rest, and that the server comes to rest
after its supervisor. Where a stop strands a supervisor, the next session is not safe from it.
-/

namespace TunerRelay

/-- What a session consists of is the same in both. -/
structure Server.SameSession (server next : Server) : Prop where
  phase_eq : next.phase = server.phase
  pool_eq : next.pool = server.pool
  listener_eq : next.listener = server.listener
  client_eq : next.client = server.client

theorem Server.SameSession.of_eq {server next : Server} (heq : next = server) :
    server.SameSession next := by
  subst heq
  exact ⟨rfl, rfl, rfl, rfl⟩

namespace Relay

variable {ω : Type} [Audience ω]

/-! ### Calls that have asked to be served -/

/-- The call has engaged the server. -/
def Call.isLate : Call → Bool
  | .launching _ | .keeping _ | .clearing _ _ | .excusing _ _ | .returned _ => true
  | _ => false

theorem Call.isLate_step {call : Call} (signal : Signal) (relay : Relay ω)
    (hlate : call.isLate = true) :
    (call.step signal relay).1.isLate = true ∧
      (call.step signal relay).1.isLaunching = false := by
  cases call with
  | launching observer => cases signal <;> exact ⟨rfl, rfl⟩
  | keeping | clearing | excusing | returned => exact ⟨rfl, rfl⟩
  | _ => cases hlate

/-- Only a call that starts a supervisor comes to keep its number. -/
theorem Call.keeping_step {call : Call} {signal : Signal} {relay : Relay ω} {number : Nat}
    (hlate : call.isLate = true) (hkeeping : (call.step signal relay).1 = .keeping number) :
    call.isLaunching = true ∧ number = relay.supervisors.length ∧
      (call.step signal relay).2.supervisors = relay.supervisors ++ [({} : Supervisor)] := by
  cases call with
  | launching observer => cases signal <;> cases hkeeping <;> exact ⟨rfl, rfl, rfl⟩
  | keeping | clearing | excusing | returned => cases hkeeping
  | _ => cases hlate

/-- A new session begins with the staging of its pool, at rest. -/
theorem Call.Acts.epoch_eq_or {call next : Call} {server later : Server}
    (hacts : call.Acts server next later) :
    later.epoch = server.epoch ∨
      server.phase = .uninitialized ∧ later.epoch = server.epoch + 1 ∧
        ∃ address port header, call = .staging address port header := by
  cases hacts with
  | stage next hstage =>
      unfold Server.stage at hstage
      split at hstage
      · cases hstage
        exact Or.inr ⟨‹_›, rfl, _, _, _, rfl⟩
      · cases hstage
  | refuse | wait => exact Or.inl rfl
  | feed bytes => exact Or.inl (Server.epoch_feed server bytes)
  | quiet hstaging hfeeding hquiet => exact Or.inl hquiet.epoch_eq

namespace Traffic

theorem epoch_move (traffic : Traffic ω) (move : Move) :
    (traffic.move move).server.epoch = traffic.server.epoch ∨
      traffic.server.phase = .uninitialized ∧
        (traffic.move move).server.epoch = traffic.server.epoch + 1 ∧
        (traffic.move move).supervisors = traffic.supervisors := by
  cases move with
  | begin operation => exact Or.inl rfl
  | resume number signal =>
      cases hcall : traffic.calls[number]? with
      | none =>
          rw [move_resume_of_none signal hcall]
          exact Or.inl rfl
      | some call =>
          rw [server_resume signal hcall, supervisors_resume signal hcall]
          refine (call.acts signal traffic.relay).epoch_eq_or.imp id ?_
          rintro ⟨hrest, hepoch, address, port, header, rfl⟩
          refine ⟨hrest, hepoch, ?_⟩
          rcases Call.supervisors_step (.staging address port header) signal traffic.relay with
            hsame | ⟨-, observer, habsurd⟩
          · exact hsame
          · cases habsurd
  | work worker signal =>
      left
      cases hworker : traffic.supervisors[worker.number]? with
      | none => rw [move_work_of_none signal hworker]
      | some acting =>
          rw [server_work signal hworker]
          exact (Worker.work_step worker signal acting traffic.relay.hub).epoch_eq

/-- A call stays as it is unless it is resumed. -/
theorem call_move {traffic : Traffic ω} {number : Nat} {call : Call} (move : Move)
    (hcall : traffic.calls[number]? = some call) :
    (traffic.move move).calls[number]? = some call ∨
      ∃ signal, move = .resume number signal ∧
        (traffic.move move).calls[number]? = some (call.step signal traffic.relay).1 := by
  obtain ⟨hlt, -⟩ := List.getElem?_eq_some_iff.mp hcall
  cases move with
  | begin operation =>
      left
      simp only [Traffic.move]
      rw [List.getElem?_append_left hlt]
      exact hcall
  | resume other signal =>
      by_cases hother : other = number
      · subst hother
        right
        refine ⟨signal, rfl, ?_⟩
        rw [calls_resume signal hcall, List.getElem?_set_self hlt]
      · left
        cases hresumed : traffic.calls[other]? with
        | none =>
            rw [move_resume_of_none signal hresumed]
            exact hcall
        | some resumed =>
            rw [calls_resume signal hresumed, List.getElem?_set_ne hother]
            exact hcall
  | work worker signal => exact Or.inl hcall

/-- The supervisor of this number has closed the server. -/
def Finished (traffic : Traffic ω) (number : Nat) : Prop :=
  ∃ supervisor, traffic.supervisors[number]? = some supervisor ∧ supervisor.isUnderWay = false

omit [Audience ω] in
theorem finished_of_workers_eq_zero {traffic : Traffic ω} {number : Nat}
    (hworkers : traffic.workers = 0) (hlt : number < traffic.supervisors.length) :
    traffic.Finished number := by
  refine ⟨traffic.supervisors[number], List.getElem?_eq_getElem hlt, ?_⟩
  have hnone : traffic.supervisors.countP Supervisor.isUnderWay = 0 := by
    unfold workers at hworkers
    omega
  simpa using List.countP_eq_zero.mp hnone _ (List.getElem_mem hlt)

theorem supervisors_length_le (traffic : Traffic ω) (move : Move) :
    traffic.supervisors.length ≤ (traffic.move move).supervisors.length := by
  cases move with
  | begin operation => exact Nat.le_refl _
  | resume number signal =>
      cases hcall : traffic.calls[number]? with
      | none => exact Nat.le_of_eq (by rw [move_resume_of_none signal hcall])
      | some call =>
          rw [supervisors_resume signal hcall]
          rcases Call.supervisors_step call signal traffic.relay with hsame | ⟨hmore, -⟩
          · rw [hsame]
            exact Nat.le_refl _
          · rw [hmore, List.length_append]
            exact Nat.le_add_right _ _
  | work worker signal =>
      cases hworker : traffic.supervisors[worker.number]? with
      | none => exact Nat.le_of_eq (by rw [move_work_of_none signal hworker])
      | some acting =>
          exact Nat.le_of_eq (by rw [supervisors_work signal hworker, List.length_set])

theorem finished_move {traffic : Traffic ω} {number : Nat} (move : Move)
    (htended : traffic.Tended) (hfinished : traffic.Finished number) :
    (traffic.move move).Finished number := by
  obtain ⟨supervisor, hsupervisor, hdone⟩ := hfinished
  obtain ⟨hlt, -⟩ := List.getElem?_eq_some_iff.mp hsupervisor
  cases move with
  | begin operation => exact ⟨supervisor, hsupervisor, hdone⟩
  | resume other signal =>
      refine ⟨supervisor, ?_, hdone⟩
      cases hcall : traffic.calls[other]? with
      | none =>
          rw [move_resume_of_none signal hcall]
          exact hsupervisor
      | some call =>
          rw [supervisors_resume signal hcall]
          rcases Call.supervisors_step call signal traffic.relay with hsame | ⟨hmore, -⟩
          · rw [hsame]
            exact hsupervisor
          · rw [hmore]
            exact (List.getElem?_append_left hlt).trans hsupervisor
  | work worker signal =>
      cases hworker : traffic.supervisors[worker.number]? with
      | none =>
          rw [move_work_of_none signal hworker]
          exact ⟨supervisor, hsupervisor, hdone⟩
      | some acting =>
          unfold Finished
          rw [supervisors_work signal hworker]
          by_cases hacting : worker.number = number
          · rw [hacting, hsupervisor] at hworker
            cases hworker
            rw [hacting, List.getElem?_set_self hlt]
            exact ⟨_, rfl, (Worker.step_of_not_isUnderWay worker signal traffic.relay.hub
              (htended supervisor (List.mem_of_getElem? hsupervisor)) hdone).2⟩
          · rw [List.getElem?_set_ne hacting]
            exact ⟨supervisor, hsupervisor, hdone⟩

/-- A finished supervisor and its reader leave the server alone. -/
theorem server_work_of_finished {traffic : Traffic ω} {worker : Worker} (signal : Signal)
    (htended : traffic.Tended) (hfinished : traffic.Finished worker.number) :
    (traffic.move (.work worker signal)).server = traffic.server := by
  obtain ⟨supervisor, hsupervisor, hdone⟩ := hfinished
  rw [server_work signal hsupervisor]
  exact (Worker.step_of_not_isUnderWay worker signal traffic.relay.hub
    (htended supervisor (List.mem_of_getElem? hsupervisor)) hdone).1

/-! ### Supervisors of earlier sessions -/

/-- The supervisor was started by a serve that the server had agreed to before these moves. -/
def StartedBy (traffic : Traffic ω) (moves : List Move) (number : Nat) : Prop :=
  number < traffic.supervisors.length ∨
    ∃ (call observer : Nat) (between : List Move), between <+: moves ∧
      traffic.calls[call]? = some (.launching observer) ∧
      (traffic.run between).calls[call]? = some (.keeping number)

/-- What has become, after some moves, of the serves that the server had agreed to before. -/
structure Aged (traffic : Traffic ω) (moves : List Move) : Prop where
  calls : ∀ (number observer : Nat), traffic.calls[number]? = some (.launching observer) →
    ∃ call : Call, (traffic.run moves).calls[number]? = some call ∧ call.isLate = true ∧
      ((traffic.run moves).server.epoch ≠ traffic.server.epoch → call.isLaunching = false)
  supervisors : ∀ number, traffic.StartedBy moves number →
    number < (traffic.run moves).supervisors.length ∧
      ((traffic.run moves).server.epoch ≠ traffic.server.epoch →
        (traffic.run moves).Finished number)

theorem StartedBy.of_concat {traffic : Traffic ω} {moves : List Move} {move : Move} {number : Nat}
    (hstarted : traffic.StartedBy (moves ++ [move]) number) :
    traffic.StartedBy moves number ∨
      ∃ call observer : Nat, traffic.calls[call]? = some (.launching observer) ∧
        ((traffic.run moves).move move).calls[call]? = some (.keeping number) := by
  rcases hstarted with hbefore | ⟨call, observer, between, hbetween, hlaunching, hkeeping⟩
  · exact Or.inl (Or.inl hbefore)
  · rcases List.prefix_concat_iff.mp hbetween with rfl | hearlier
    · rw [run_concat] at hkeeping
      exact Or.inr ⟨call, observer, hlaunching, hkeeping⟩
    · exact Or.inl (Or.inr ⟨call, observer, between, hearlier, hlaunching, hkeeping⟩)

/-- At the staging of a session nobody is left of the earlier ones. -/
theorem workers_eq_zero_of_epoch {traffic : Traffic ω} {move : Move}
    (hstranded : ¬ traffic.Stranded)
    (hepoch : (traffic.move move).server.epoch ≠ traffic.server.epoch) :
    traffic.workers = 0 ∧ (traffic.move move).supervisors = traffic.supervisors := by
  obtain ⟨hrest, -, hsupervisors⟩ := (epoch_move traffic move).resolve_left hepoch
  refine ⟨?_, hsupervisors⟩
  by_contra hsome
  exact hstranded ⟨hrest, Nat.pos_of_ne_zero hsome⟩

theorem Aged.move {traffic : Traffic ω} {moves : List Move} (move : Move)
    (haged : traffic.Aged moves) (htended : (traffic.run moves).Tended)
    (hstranded : ¬ (traffic.run moves).Stranded) : traffic.Aged (moves ++ [move]) := by
  have hstays : ∀ number observer : Nat, traffic.calls[number]? = some (.launching observer) →
      ∀ call, (traffic.run moves).calls[number]? = some call →
        ((traffic.run moves).move move).server.epoch ≠ traffic.server.epoch →
          call.isLaunching = false := by
    intro number observer hlaunching call hcall hepoch
    obtain ⟨known, hknown, hlate, hpast⟩ := haged.calls number observer hlaunching
    obtain rfl : known = call := Option.some.inj (hknown.symm.trans hcall)
    by_cases hsame : (traffic.run moves).server.epoch = traffic.server.epoch
    · rw [← hsame] at hepoch
      have hworkers := (workers_eq_zero_of_epoch hstranded hepoch).1
      have hnone : (traffic.run moves).calls.countP Call.isLaunching = 0 := by
        unfold workers at hworkers
        omega
      simpa using List.countP_eq_zero.mp hnone known (List.mem_of_getElem? hcall)
    · exact hpast hsame
  constructor
  · intro number observer hlaunching
    rw [run_concat]
    obtain ⟨call, hcall, hlate, hpast⟩ := haged.calls number observer hlaunching
    rcases call_move move hcall with hsame | ⟨signal, rfl, hstepped⟩
    · exact ⟨call, hsame, hlate, hstays number observer hlaunching call hcall⟩
    · obtain ⟨hlateNext, hnot⟩ := Call.isLate_step signal (traffic.run moves).relay hlate
      exact ⟨_, hstepped, hlateNext, fun _ => hnot⟩
  · intro number hstarted
    rw [run_concat]
    have hknown : traffic.StartedBy moves number →
        number < ((traffic.run moves).move move).supervisors.length ∧
          (((traffic.run moves).move move).server.epoch ≠ traffic.server.epoch →
            ((traffic.run moves).move move).Finished number) := by
      intro hearlier
      obtain ⟨hlt, hfinished⟩ := haged.supervisors number hearlier
      refine ⟨Nat.lt_of_lt_of_le hlt (supervisors_length_le _ move), ?_⟩
      intro hepoch
      apply finished_move move htended
      by_cases hsame : (traffic.run moves).server.epoch = traffic.server.epoch
      · rw [← hsame] at hepoch
        exact finished_of_workers_eq_zero (workers_eq_zero_of_epoch hstranded hepoch).1 hlt
      · exact hfinished hsame
    rcases hstarted.of_concat with hearlier | ⟨number', observer, hlaunching, hkeeping⟩
    · exact hknown hearlier
    obtain ⟨call, hcall, hlate, -⟩ := haged.calls number' observer hlaunching
    rcases call_move move hcall with hsame | ⟨signal, rfl, hstepped⟩
    · rw [hsame] at hkeeping
      cases hkeeping
      exact hknown (Or.inr ⟨number', observer, moves, List.prefix_refl moves, hlaunching, hcall⟩)
    · rw [hstepped] at hkeeping
      obtain ⟨hstill, hnumber, hmore⟩ := Call.keeping_step hlate (Option.some.inj hkeeping)
      constructor
      · rw [supervisors_resume signal hcall, hmore, hnumber]
        simp
      · intro hepoch
        rw [hstays number' observer hlaunching call hcall hepoch] at hstill
        cases hstill

theorem aged_run {traffic : Traffic ω} (moves : List Move)
    (hcrewed : traffic.Crewed ∧ ¬ traffic.Stranded) (htended : traffic.Tended)
    (hdisciplined : traffic.Disciplined moves) (hcareful : traffic.Careful moves) :
    traffic.Aged moves := by
  induction moves using List.reverseRecOn with
  | nil =>
      constructor
      · intro number observer hlaunching
        exact ⟨.launching observer, hlaunching, rfl, fun hepoch => absurd rfl hepoch⟩
      · intro number hstarted
        refine ⟨?_, fun hepoch => absurd rfl hepoch⟩
        rcases hstarted with hlt | ⟨call, observer, between, hbetween, hlaunching, hkeeping⟩
        · exact hlt
        · rw [List.prefix_nil.mp hbetween, run_nil, hlaunching] at hkeeping
          cases hkeeping
  | append_singleton moves move ih =>
      have hdisciplined := ((throughout_append moves [move]).mp hdisciplined).1
      have hcareful := ((throughout_append moves [move]).mp hcareful).1
      exact (ih hdisciplined hcareful).move move (tended_run moves htended)
        (crewed_run moves hcrewed htended hdisciplined hcareful).2

/-- After a run, no worker of a session touches a later one. -/
def Isolated (traffic : Traffic ω) (moves : List Move) : Prop :=
  ∀ before after worker signal, moves = before ++ after →
    (traffic.run before).server.epoch < (traffic.run moves).server.epoch →
    (traffic.run before).StartedBy after worker.number →
    (traffic.run moves).server.SameSession
      ((traffic.run moves).move (.work worker signal)).server

theorem isolated_of_careful {traffic : Traffic ω} (moves : List Move)
    (hcrewed : traffic.Crewed ∧ ¬ traffic.Stranded) (htended : traffic.Tended)
    (hdisciplined : traffic.Disciplined moves) (hcareful : traffic.Careful moves) :
    traffic.Isolated moves := by
  rintro before after worker signal rfl hepoch hstarted
  obtain ⟨hdisciplinedBefore, hdisciplinedAfter⟩ := (throughout_append before after).mp hdisciplined
  obtain ⟨hcarefulBefore, hcarefulAfter⟩ := (throughout_append before after).mp hcareful
  have haged := aged_run after
    (crewed_run before hcrewed htended hdisciplinedBefore hcarefulBefore)
    (tended_run before htended) hdisciplinedAfter hcarefulAfter
  rw [run_append] at hepoch ⊢
  have hfinished := (haged.supervisors worker.number hstarted).2 (Nat.ne_of_gt hepoch)
  exact .of_eq (server_work_of_finished signal
    (tended_run after (tended_run before htended)) hfinished)

end Traffic

end Relay

end TunerRelay
