import TunerRelay.Proofs.Lists
import TunerRelay.Proofs.Relay.Reading
import TunerRelay.Proofs.Relay.Staffing

/-!
# The count of commands

The server counts the commands of all sessions together, each of them once, in the section between
the look whether the client is still served and the handing on.
-/

namespace TunerRelay

namespace Server

@[simp]
theorem commands_feed (server : Server) (bytes : List UInt8) :
    (server.feed bytes).2.counters.commands = server.counters.commands := by
  unfold feed
  split
  · rfl
  · rfl
  · split <;> rfl

end Server

namespace Relay

variable {ω : Type} [Audience ω]

/-- The records that the reader of a supervisor has counted. -/
def Supervisor.counted (supervisor : Supervisor) : Nat :=
  match supervisor.reader with
  | some reader => reader.counted
  | none => 0

theorem Supervisor.Steps.counted_eq {supervisor later : Supervisor} {server next : Server}
    (hsteps : supervisor.Steps server later next) (hstaffed : supervisor.Staffed) :
    later.counted = supervisor.counted := by
  unfold counted
  rcases hsteps.reader_of_staffed hstaffed with hsame | ⟨hnone, hnew⟩
  · rw [hsame]
  · rw [hnone, hnew]
    rfl

theorem Supervisor.Place.Leads.commands_eq {session : Option Nat} {server next : Server}
    {place later : Place} (hleads : place.Leads session server later next) :
    next.counters.commands = server.counters.commands := by
  cases hleads with
  | splitFailed | spawnFailed | halt => exact (Server.quiet_requestStop server).commands_eq
  | fetchNothing epoch | fetch epoch =>
      exact congrArg (·.commands) (Server.counters_take server epoch)
  | giveBack buffer | drop buffer =>
      cases session with
      | none => rfl
      | some epoch => exact congrArg (·.commands) (Server.counters_giveBack server epoch buffer)
  | close => exact Server.commands_cleanUp server
  | _ => rfl

theorem Supervisor.Steps.commands_eq {supervisor later : Supervisor} {server next : Server}
    (hsteps : supervisor.Steps server later next) :
    next.counters.commands = server.counters.commands := by
  cases hsteps with
  | walk hleads => exact hleads.commands_eq
  | register hplace hadmitted => exact (Server.quiet_of_admit? hadmitted).commands_eq
  | _ => rfl

theorem Worker.commands_step (worker : Worker) (signal : Signal) {supervisor : Supervisor}
    (hub : Hub ω) (hstaffed : supervisor.Staffed) :
    (worker.step signal supervisor hub).2.server.counters.commands +
        UInt64.ofNat supervisor.counted =
      hub.server.counters.commands +
        UInt64.ofNat (worker.step signal supervisor hub).1.counted := by
  cases worker with
  | supervisor number =>
      have hsteps := supervisor.steps signal hub
      simp only [Worker.step]
      rw [hsteps.commands_eq, hsteps.counted_eq hstaffed]
  | reader number =>
      simp only [Worker.step, Supervisor.stepReader]
      split
      · rename_i reader observer hreader _
        simp only [Supervisor.counted, hreader]
        exact Reader.commands_step reader observer signal hub
      · rfl

theorem Call.Acts.commands_eq {call next : Call} {server later : Server}
    (hacts : call.Acts server next later) :
    later.counters.commands = server.counters.commands := by
  cases hacts with
  | stage next hstage =>
      unfold Server.stage at hstage
      split at hstage
      · cases hstage
        rfl
      · cases hstage
  | refuse | wait => rfl
  | feed bytes => exact Server.commands_feed server bytes
  | quiet hstaging hfeeding hquiet => exact hquiet.commands_eq

namespace Traffic

/-- The records that all readers have counted. -/
def counted (traffic : Traffic ω) : Nat := (traffic.supervisors.map Supervisor.counted).sum

theorem commands_run (world : ω) (moves : List Move) :
    ((atRest world).run moves).server.counters.commands =
      UInt64.ofNat ((atRest world).run moves).counted := by
  induction moves using List.reverseRecOn with
  | nil => rfl
  | append_singleton moves move ih =>
      rw [run_concat]
      cases move with
      | begin operation => exact ih
      | resume number signal =>
          cases hcall : ((atRest world).run moves).calls[number]? with
          | none =>
              rw [move_resume_of_none signal hcall]
              exact ih
          | some call =>
              rw [server_resume signal hcall, (call.acts signal _).commands_eq]
              refine Eq.trans ih ?_
              unfold counted
              rw [supervisors_resume signal hcall]
              rcases Call.supervisors_step call signal ((atRest world).run moves).relay with
                hsame | ⟨hmore, -⟩
              · rw [hsame]
                rfl
              · rw [hmore, List.map_append, List.sum_append]
                rfl
      | work worker signal =>
          cases hworker : ((atRest world).run moves).supervisors[worker.number]? with
          | none =>
              rw [move_work_of_none signal hworker]
              exact ih
          | some acting =>
              rw [server_work signal hworker]
              have hstep := Worker.commands_step worker signal ((atRest world).run moves).relay.hub
                (staffed_run world moves acting (List.mem_of_getElem? hworker))
              have hsum := Lists.sum_map_set Supervisor.counted
                (worker.step signal acting ((atRest world).run moves).relay.hub).1 hworker
              rw [show ((atRest world).run moves).relay.hub.server.counters.commands =
                UInt64.ofNat ((atRest world).run moves).counted from ih, ← UInt64.ofNat_add] at hstep
              apply (UInt64.add_left_inj (UInt64.ofNat acting.counted)).mp
              rw [hstep, ← UInt64.ofNat_add]
              unfold counted
              rw [supervisors_work signal hworker, hsum]

/-- The records that the readers of all other supervisors have counted. -/
def countedElsewhere (traffic : Traffic ω) (number : Nat) : Nat :=
  ((traffic.supervisors.eraseIdx number).map Supervisor.counted).sum

omit [Audience ω] in
theorem counted_eq_add (traffic : Traffic ω) (number : Nat) :
    traffic.counted =
      traffic.countedElsewhere number + ((traffic.reader? number).map Reader.counted).getD 0 := by
  unfold counted countedElsewhere reader?
  cases hsupervisor : traffic.supervisors[number]? with
  | none =>
      rw [List.eraseIdx_of_length_le (List.getElem?_eq_none_iff.mp hsupervisor)]
      rfl
  | some supervisor =>
      obtain ⟨hlt, rfl⟩ := List.getElem?_eq_some_iff.mp hsupervisor
      have hperm := (List.getElem_cons_eraseIdx_perm hlt).map Supervisor.counted
      rw [← hperm.sum_eq, List.map_cons, List.sum_cons, Nat.add_comm]
      congr 1
      simp only [Option.bind_some, Supervisor.counted]
      cases traffic.supervisors[number].reader <;> rfl

end Traffic

end Relay

end TunerRelay
