import TunerRelay.Proofs.Relay.Isolation

/-!
# What a section has to do with observers

A session's observer waits in the server until its supervisor begins and notes it. From then on the
supervisor has to tell it; before, the call that asked to be served has to, if it is refused.
-/

namespace TunerRelay

namespace Server

theorem Phase.crew_le_one (phase : Phase) : phase.crew ≤ 1 := by
  cases phase <;> decide

@[simp]
theorem observer_cleanUp (server : Server) : server.cleanUp.observer = server.observer := by
  unfold cleanUp
  split <;> rfl

@[simp]
theorem observer_requestStop (server : Server) : server.requestStop.observer = server.observer := by
  unfold requestStop
  split <;> rfl

@[simp]
theorem observer_stop (server : Server) : server.stop.observer = server.observer := by
  unfold stop
  split
  · rfl
  · split
    · exact observer_cleanUp server
    · rfl

@[simp]
theorem observer_take (server : Server) (epoch : Nat) :
    (server.take epoch).2.observer = server.observer := by
  unfold take
  split <;> rfl

@[simp]
theorem observer_giveBack (server : Server) (epoch : Nat) (buffer : Pool.Buffer) :
    (server.giveBack epoch buffer).observer = server.observer := by
  unfold giveBack
  split <;> rfl

@[simp]
theorem observer_feed (server : Server) (bytes : List UInt8) :
    (server.feed bytes).2.observer = server.observer := by
  unfold feed
  split
  · rfl
  · rfl
  · split <;> rfl

end Server

namespace Relay

variable {ω : Type} [Audience ω]

/-! ### What workers have to do with it -/

/-- Whether a supervisor knows its observer, and has told it. -/
inductive Standing where
  | ahead
  | due
  | settled
deriving DecidableEq

def Supervisor.Place.standing : Place → Standing
  | .starting => .ahead
  | .leaving _ | .ended => .settled
  | _ => .due

def Supervisor.standing (supervisor : Supervisor) : Standing := supervisor.place.standing

/-- What a section of one of its workers makes of a supervisor and of those who were told, while the
server has this observer. -/
inductive Supervisor.Reports (supervisor : Supervisor) (slot : Option Nat) (told : List Nat) :
    Supervisor → List Nat → Prop where
  | note {later : Supervisor} (hahead : supervisor.standing = .ahead)
    (hdue : later.standing = .due) (hslot : later.observer = slot) :
    Reports supervisor slot told later told
  | tell {later : Supervisor} (observer : Nat) (hdue : supervisor.standing = .due)
    (hobserver : supervisor.observer = some observer) (hkept : later.observer = some observer)
    (hsettled : later.standing = .settled) :
    Reports supervisor slot told later (told ++ [observer])
  | quit {later : Supervisor} (hdue : supervisor.standing = .due)
    (hnone : supervisor.observer = none) (hkept : later.observer = none)
    (hsettled : later.standing = .settled) : Reports supervisor slot told later told
  | hold {later : Supervisor} (hkept : later.observer = supervisor.observer)
    (hstanding : later.standing = supervisor.standing) : Reports supervisor slot told later told

theorem Hub.farewells_hear (hub : Hub ω) (observer : Nat) (record : Wire.Record) :
    (hub.hear observer record).farewells = hub.farewells := by
  unfold hear
  simp only
  split <;> rfl

theorem Reader.farewells_step (reader : Reader) (observer : Nat) (signal : Signal) (hub : Hub ω) :
    (reader.step observer signal hub).2.farewells = hub.farewells := by
  obtain ⟨place, received, records⟩ := reader
  cases place with
  | receiving piece => cases signal <;> rfl
  | acting record => exact hub.farewells_hear observer record
  | _ => rfl

theorem Reader.observer_step (reader : Reader) (observer : Nat) (signal : Signal) (hub : Hub ω) :
    (reader.step observer signal hub).2.server.observer = hub.server.observer := by
  obtain ⟨place, received, records⟩ := reader
  cases place with
  | receiving piece => cases signal <;> rfl
  | halting => exact Server.observer_requestStop hub.server
  | acting record =>
      simp only [step, Hub.hear]
      split
      · exact Server.observer_stop hub.server
      · rfl
  | _ => rfl

theorem Supervisor.Place.Leads.observer_eq {session : Option Nat} {server next : Server}
    {place later : Place} (hleads : place.Leads session server later next) :
    next.observer = server.observer := by
  cases hleads with
  | splitFailed | spawnFailed | halt => exact Server.observer_requestStop server
  | fetchNothing | fetch => exact Server.observer_take server _
  | giveBack | drop =>
      cases session with
      | none => rfl
      | some epoch => exact Server.observer_giveBack server epoch _
  | close => exact Server.observer_cleanUp server
  | _ => rfl

theorem Supervisor.Steps.observer_eq {supervisor later : Supervisor} {server next : Server}
    (hsteps : supervisor.Steps server later next) : next.observer = server.observer := by
  cases hsteps with
  | walk hleads => exact hleads.observer_eq
  | register hplace hadmitted =>
      unfold Server.admit? at hadmitted
      split at hadmitted <;> cases hadmitted
      rfl
  | _ => rfl

theorem Worker.observer_step (worker : Worker) (signal : Signal) (supervisor : Supervisor)
    (hub : Hub ω) : (worker.step signal supervisor hub).2.server.observer = hub.server.observer := by
  cases worker with
  | supervisor number => exact (supervisor.steps signal hub).observer_eq
  | reader number =>
      simp only [step, Supervisor.stepReader]
      split
      · exact Reader.observer_step _ _ signal hub
      · rfl

theorem Supervisor.reports_step (supervisor : Supervisor) (signal : Signal) (hub : Hub ω) :
    supervisor.Reports hub.server.observer hub.farewells (supervisor.step signal hub).1
      (supervisor.step signal hub).2.farewells := by
  obtain ⟨place, observer, session, connection, reader, sent⟩ := supervisor
  cases place with
  | starting => exact .note rfl rfl rfl
  | notifying =>
      cases observer with
      | none => exact .quit rfl rfl rfl rfl
      | some observer =>
          refine .tell observer rfl rfl rfl ?_
          simp only [step, notify, standing, goTo]
          split <;> rfl
  | accepting | splitting => cases signal <;> exact .hold rfl rfl
  | offering buffer offset =>
      cases signal with
      | took count => cases count <;> exact .hold rfl rfl
      | _ => exact .hold rfl rfl
  | registering connection =>
      simp only [step, register]
      split
      · exact .hold rfl rfl
      · refine .hold rfl ?_
        simp only [standing]
        split <;> rfl
  | entering =>
      simp only [step, enter]
      split <;> exact .hold rfl rfl
  | spawning =>
      simp only [step, spawn]
      split <;> exact .hold rfl rfl
  | fetching =>
      simp only [step, fetch]
      split
      · exact .hold rfl rfl
      · refine .hold rfl ?_
        simp only [standing, goTo]
        split <;> rfl
  | returning buffer result =>
      cases result <;> simp only [step, giveBack] <;> split <;> exact .hold rfl rfl
  | seeking | waiting | idle =>
      refine .hold rfl ?_
      simp only [step, standing, goTo]
      split <;> rfl
  | writing buffer offset =>
      simp only [step]
      split
      · exact .hold rfl rfl
      · split <;> exact .hold rfl rfl
  | joining =>
      simp only [step]
      split <;> exact .hold rfl rfl
  | counting | halting | closing | leaving | ended => exact .hold rfl rfl

theorem Worker.reports_step (worker : Worker) (signal : Signal) (supervisor : Supervisor)
    (hub : Hub ω) :
    supervisor.Reports hub.server.observer hub.farewells (worker.step signal supervisor hub).1
      (worker.step signal supervisor hub).2.farewells := by
  cases worker with
  | supervisor number => exact supervisor.reports_step signal hub
  | reader number =>
      obtain ⟨reader, hsame⟩ := supervisor.exists_stepReader signal hub
      have htold : (supervisor.stepReader signal hub).2.farewells = hub.farewells := by
        unfold Supervisor.stepReader
        split
        · exact Reader.farewells_step _ _ signal hub
        · rfl
      simp only [step, htold, hsame]
      exact .hold rfl rfl

/-! ### What calls have to do with it -/

/-- The observer that the call itself may still have to tell. -/
def Call.waits : Call → Option Nat
  | .engaging observer | .launching observer | .clearing observer _ | .excusing observer _ =>
    some observer
  | _ => none

/-- What a section makes of a call and of the relay, as far as observers are concerned. -/
inductive Call.Reports (relay : Relay ω) : Call → Call → Relay ω → Prop where
  | engage {later : Relay ω} (observer : Nat) (hopen : relay.server.phase = .socketOpen)
    (hstarted : later.server.phase = .asyncStarted)
    (hslot : later.server.observer = some observer)
    (hsupervisors : later.supervisors = relay.supervisors)
    (htold : later.hub.farewells = relay.hub.farewells) :
    Reports relay (.engaging observer) (.launching observer) later
  | launch {later : Relay ω} (observer : Nat)
    (hslot : later.server.observer = relay.server.observer)
    (hsupervisors : later.supervisors = relay.supervisors ++ [({} : Supervisor)])
    (htold : later.hub.farewells = relay.hub.farewells) :
    Reports relay (.launching observer) (.keeping relay.supervisors.length) later
  | excuse {later : Relay ω} (observer : Nat) (fault : Server.Fault)
    (hslot : later.server.observer = relay.server.observer)
    (hsupervisors : later.supervisors = relay.supervisors)
    (htold : later.hub.farewells = relay.hub.farewells ++ [observer]) :
    Reports relay (.excusing observer fault) (.returned (.serving (.error fault))) later
  | pass {call next : Call} {later : Relay ω} (hwaits : next.waits = call.waits)
    (hlaunching : next.isLaunching = false)
    (hslot : later.server.observer = relay.server.observer)
    (hsupervisors : later.supervisors = relay.supervisors)
    (htold : later.hub.farewells = relay.hub.farewells) : Reports relay call next later

theorem Hub.farewells_dismiss (hub : Hub ω) (observer : Nat) :
    (hub.dismiss observer).farewells = hub.farewells ++ [observer] := by
  unfold dismiss
  simp only
  split <;> rfl

theorem Call.reports_step (call : Call) (signal : Signal) (relay : Relay ω) :
    Reports relay call (call.step signal relay).1 (call.step signal relay).2 := by
  cases call with
  | staging address port header =>
      simp only [step, stage, Server.stage]
      by_cases hphase : relay.server.phase = .uninitialized
      · simp only [hphase, if_true]
        split <;> exact .pass rfl rfl rfl rfl rfl
      · simp only [hphase, if_false]
        exact .pass rfl rfl rfl rfl rfl
  | binding | preparing => cases signal <;> exact .pass rfl rfl rfl rfl rfl
  | listening endpoint =>
      simp only [step, listen, Server.listen]
      by_cases hphase : relay.server.phase = .initialized
      · simp only [hphase, if_true]
        exact .pass rfl rfl rfl rfl rfl
      · simp only [hphase, if_false]
        exact .pass rfl rfl rfl rfl rfl
  | abandoning | clearing => exact .pass rfl rfl (Server.observer_cleanUp _) rfl rfl
  | engaging observer =>
      by_cases hphase : relay.server.phase = .socketOpen
      · rw [step_engaging signal observer hphase]
        exact .engage observer hphase rfl rfl rfl rfl
      · rw [step_engaging_of_ne signal observer hphase]
        exact .pass rfl rfl (Server.observer_cleanUp _) rfl rfl
  | launching observer =>
      cases signal with
      | failure reason => exact .pass rfl rfl rfl rfl rfl
      | _ => exact .launch observer rfl rfl rfl
  | excusing observer fault =>
      exact .excuse observer fault
        (congrArg Server.observer (Hub.server_dismiss relay.hub observer)) rfl
        (Hub.farewells_dismiss relay.hub observer)
  | stopping => exact .pass rfl rfl (Server.observer_stop _) rfl rfl
  | keeping | returned => exact .pass rfl rfl rfl rfl rfl
  | awaiting supervisor =>
      simp only [step]
      split <;> exact .pass rfl rfl rfl rfl rfl
  | glancing | collecting =>
      simp only [step]
      split <;> exact .pass rfl rfl rfl rfl rfl
  | feeding bytes =>
      simp only [step, feed]
      split
      · exact .pass rfl rfl rfl rfl rfl
      · exact .pass rfl rfl (Server.observer_feed _ bytes) rfl rfl

/-- The call was made for this observer, and has told it if it was refused. -/
def Call.IsFor (observer : Nat) (told : List Nat) : Call → Prop
  | .engaging other | .launching other | .clearing other _ | .excusing other _ => other = observer
  | .keeping _ | .returned (.serving (.ok _)) => True
  | .returned (.serving (.error _)) => observer ∈ told
  | _ => False

theorem Call.IsFor.mono {observer : Nat} {told later : List Nat} {call : Call}
    (hfor : call.IsFor observer told) (hsubset : told ⊆ later) : call.IsFor observer later := by
  cases call with
  | returned outcome =>
      cases outcome with
      | serving result =>
          cases result with
          | ok => trivial
          | error fault => exact hsubset hfor
      | _ => exact hfor
  | _ => exact hfor

theorem Call.IsFor.step {observer : Nat} {call : Call} {relay : Relay ω} (signal : Signal)
    (hfor : call.IsFor observer relay.hub.farewells) :
    (call.step signal relay).1.IsFor observer (call.step signal relay).2.hub.farewells := by
  cases call with
  | engaging other =>
      by_cases hphase : relay.server.phase = .socketOpen
      · rw [step_engaging signal other hphase]
        exact hfor
      · rw [step_engaging_of_ne signal other hphase]
        exact hfor
  | launching other =>
      cases signal with
      | failure reason => exact hfor
      | _ => trivial
  | excusing other fault =>
      have htold := Hub.farewells_dismiss relay.hub other
      simp only [Call.step, Relay.withHub, htold, IsFor]
      rw [show other = observer from hfor]
      exact List.mem_append_right _ (List.mem_singleton_self observer)
  | keeping | clearing | returned => exact hfor
  | _ => exact hfor.elim

end Relay

end TunerRelay
