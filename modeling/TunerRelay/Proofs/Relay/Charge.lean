import TunerRelay.Proofs.Relay.Isolation

/-!
# Who is in charge of a session

A caller that has made the server wait for a client is in charge of the session until it has started
its supervisor or, where there is no thread to be had, has cleaned up. A supervisor is in charge until
it has closed the server. Charge is given up only by closing the server or by handing it on, and no
session comes into being, or is stopped by a latecomer, without somebody who is in charge.
-/

namespace TunerRelay

/-- A caller begins a session by engaging a supervisor only. -/
theorem Server.Phase.Turn.crew_eq_one {phase next : Server.Phase}
    (hturn : Server.Phase.Turn phase next) (hcrew : next.crew = 1) : phase.crew = 1 := by
  cases hturn with
  | stay => exact hcrew
  | stage | listen | close => cases hcrew
  | halt _ hlate =>
      revert hlate
      cases phase <;> decide

namespace Relay

/-- Who may be in charge, by number. -/
inductive Keeper where
  | call (number : Nat)
  | supervisor (number : Nat)
deriving DecidableEq, Repr

/-- Whether the call has made the server wait for a client, and neither started the supervisor nor
cleaned up since. -/
def Call.isInCharge : Call → Bool
  | .launching _ | .clearing _ _ => true
  | _ => false

variable {ω : Type} [Audience ω]

namespace Traffic

/-- The keeper has not yet closed the server, and nobody else was told to. -/
def Keeps (traffic : Traffic ω) : Keeper → Prop
  | .call number => ∃ call, traffic.calls[number]? = some call ∧ call.isInCharge = true
  | .supervisor number =>
    ∃ supervisor, traffic.supervisors[number]? = some supervisor ∧ supervisor.isUnderWay = true

/-- A session has somebody in charge. -/
def IsKept (traffic : Traffic ω) : Prop :=
  traffic.server.phase.crew = 1 → ∃ keeper, traffic.Keeps keeper

variable {traffic : Traffic ω} {number : Nat}

/-- A supervisor stays as it is unless one of its threads takes a step. -/
theorem supervisor_move {supervisor : Supervisor} (move : Move)
    (hsupervisor : traffic.supervisors[number]? = some supervisor) :
    (traffic.move move).supervisors[number]? = some supervisor ∨
      ∃ worker signal, move = .work worker signal ∧ worker.number = number ∧
        (traffic.move move).supervisors[number]? =
          some (worker.step signal supervisor traffic.relay.hub).1 ∧
        (traffic.move move).server = (worker.step signal supervisor traffic.relay.hub).2.server := by
  obtain ⟨hlt, -⟩ := List.getElem?_eq_some_iff.mp hsupervisor
  cases move with
  | begin operation => exact .inl hsupervisor
  | resume other signal =>
      left
      cases hcall : traffic.calls[other]? with
      | none =>
          rw [move_resume_of_none signal hcall]
          exact hsupervisor
      | some call =>
          rw [supervisors_resume signal hcall]
          rcases Call.supervisors_step call signal traffic.relay with hsame | ⟨hmore, -⟩
          · rw [hsame]
            exact hsupervisor
          · rw [hmore]
            exact (List.getElem?_append_left hlt).trans hsupervisor
  | work worker signal =>
      by_cases hnumber : worker.number = number
      · right
        subst hnumber
        refine ⟨worker, signal, rfl, rfl, ?_, server_work signal hsupervisor⟩
        rw [supervisors_work signal hsupervisor, List.getElem?_set_self hlt]
      · left
        cases hworker : traffic.supervisors[worker.number]? with
        | none =>
            rw [move_work_of_none signal hworker]
            exact hsupervisor
        | some acting =>
            rw [supervisors_work signal hworker, List.getElem?_set_ne hnumber]
            exact hsupervisor

/-- Charge is given up by closing the server or by handing it on to a new supervisor. -/
theorem keeps_move {keeper : Keeper} (move : Move) (hkeeps : traffic.Keeps keeper) :
    (traffic.move move).Keeps keeper ∨ (traffic.move move).server.phase = .uninitialized ∨
      (∃ number, keeper = .call number) ∧
        (traffic.move move).Keeps (.supervisor traffic.supervisors.length) := by
  cases keeper with
  | supervisor number =>
      obtain ⟨supervisor, hsupervisor, hunderWay⟩ := hkeeps
      rcases supervisor_move move hsupervisor with hsame | ⟨worker, signal, -, -, hnext, hserver⟩
      · exact .inl ⟨supervisor, hsame, hunderWay⟩
      · rcases worker.isUnderWay_step signal traffic.relay.hub hunderWay with hstill | hclosed
        · exact .inl ⟨_, hnext, hstill⟩
        · rw [← hserver] at hclosed
          exact .inr (.inl hclosed)
  | call number =>
      obtain ⟨call, hcall, hcharge⟩ := hkeeps
      rcases call_move move hcall with hsame | ⟨signal, rfl, hnext⟩
      · exact .inl ⟨call, hsame, hcharge⟩
      · cases call with
        | launching observer =>
            cases signal with
            | failure reason => exact .inl ⟨_, hnext, rfl⟩
            | _ =>
                refine .inr (.inr ⟨⟨number, rfl⟩, {}, ?_, rfl⟩)
                rw [supervisors_resume _ hcall]
                exact List.getElem?_concat_length
        | clearing observer fault =>
            refine .inr (.inl ?_)
            rw [server_resume signal hcall]
            exact Server.phase_cleanUp traffic.server
        | _ => cases hcharge

/-- A session that there was not before, and one that is stopped by a latecomer, has somebody in
charge. -/
theorem crew_move (move : Move) (htended : traffic.Tended)
    (hcrew : (traffic.move move).server.phase.crew = 1) :
    traffic.server.phase.crew = 1 ∨ ∃ keeper, (traffic.move move).Keeps keeper := by
  cases move with
  | begin operation => exact .inl hcrew
  | resume number signal =>
      cases hcall : traffic.calls[number]? with
      | none =>
          rw [move_resume_of_none signal hcall] at hcrew
          exact .inl hcrew
      | some call =>
          rw [server_resume signal hcall] at hcrew
          rcases Call.turn_step call signal traffic.relay with hturn | ⟨observer, rfl, hopen, -⟩
          · exact .inl (hturn.crew_eq_one hcrew)
          · refine .inr ⟨.call number, .launching observer, ?_, rfl⟩
            rw [calls_resume signal hcall, Call.step_engaging signal observer hopen,
              List.getElem?_set_self (List.getElem?_eq_some_iff.mp hcall).1]
  | work worker signal =>
      cases hworker : traffic.supervisors[worker.number]? with
      | none =>
          rw [move_work_of_none signal hworker] at hcrew
          exact .inl hcrew
      | some acting =>
          have hlt := (List.getElem?_eq_some_iff.mp hworker).1
          have hserver := server_work signal hworker
          rw [hserver] at hcrew
          cases hunderWay : acting.isUnderWay with
          | false =>
              have hkept := (worker.step_of_not_isUnderWay signal traffic.relay.hub
                (htended acting (List.mem_of_getElem? hworker)) hunderWay).1
              rw [hkept] at hcrew
              exact .inl hcrew
          | true =>
              rcases worker.isUnderWay_step signal traffic.relay.hub hunderWay with hstill | hclosed
              · refine .inr ⟨.supervisor worker.number, _, ?_, hstill⟩
                rw [supervisors_work signal hworker, List.getElem?_set_self hlt]
              · rw [hclosed] at hcrew
                cases hcrew

theorem isKept_move (move : Move) (htended : traffic.Tended) (hkept : traffic.IsKept) :
    (traffic.move move).IsKept := by
  intro hcrew
  rcases crew_move move htended hcrew with hbefore | hexists
  · obtain ⟨keeper, hkeeps⟩ := hkept hbefore
    rcases keeps_move move hkeeps with hstill | hclosed | ⟨-, hhanded⟩
    · exact ⟨keeper, hstill⟩
    · rw [hclosed] at hcrew
      cases hcrew
    · exact ⟨_, hhanded⟩
  · exact hexists

/-- In every run from rest there is somebody in charge of every session. -/
theorem isKept_run (world : ω) (moves : List Move) : ((atRest world).run moves).IsKept := by
  have hboth : ((atRest world).run moves).Tended ∧ ((atRest world).run moves).IsKept :=
    run_induction (fun traffic => traffic.Tended ∧ traffic.IsKept) ⟨tended_atRest world, nofun⟩
      (fun _ move hboth => ⟨tended_move move hboth.1, isKept_move move hboth.1 hboth.2⟩) moves
  exact hboth.2

end Traffic

end Relay

end TunerRelay
