import Mathlib
import TunerRelay.Proofs.Relay.Steps
import TunerRelay.Relay.Traffic

/-!
# What one move of a relay can do

A move lets one caller or one worker run one section. Most sections are quiet: they put nothing into
the pool and take nothing out of it, they only walk through the phases, count, or close the server.
The others are the staging of a pool, a feed, and the taking and giving back of a buffer.
-/

namespace TunerRelay

namespace Server

/-- A section that puts nothing into the pool, takes nothing out of it and counts no command. -/
inductive Quiet (server : Server) : Server → Prop where
  | stay : Quiet server server
  | listen (endpoint : Net.Endpoint) (hphase : server.phase = .initialized) :
    Quiet server { server with phase := .socketOpen, listener := some endpoint }
  | engage (observer : Nat) (hphase : server.phase = .socketOpen) :
    Quiet server { server with phase := .asyncStarted, observer := some observer }
  | register (connection : Option Nat) (hphase : server.phase = .asyncStarted) :
    Quiet server
      { server with
        phase := .clientOpen
        client := connection
        counters := server.counters.addClient }
  | serve (hphase : server.phase = .clientOpen) : Quiet server { server with phase := .serving }
  | halt (hphase : server.phase ≠ .uninitialized) : Quiet server { server with phase := .stopping }
  | close : Quiet server server.cleanUp
  | countSent (bytes : Nat) : Quiet server (server.countSent bytes)

@[simp]
theorem epoch_cleanUp (server : Server) : server.cleanUp.epoch = server.epoch := by
  unfold cleanUp
  split <;> rfl

@[simp]
theorem phase_cleanUp (server : Server) : server.cleanUp.phase = .uninitialized := by
  unfold cleanUp
  split
  · assumption
  · rfl

@[simp]
theorem commands_cleanUp (server : Server) :
    server.cleanUp.counters.commands = server.counters.commands := by
  unfold cleanUp
  split <;> rfl

@[simp]
theorem epoch_feed (server : Server) (bytes : List UInt8) :
    (server.feed bytes).2.epoch = server.epoch := by
  unfold feed
  split
  · rfl
  · rfl
  · split <;> rfl

theorem quiet_requestStop (server : Server) : Quiet server server.requestStop := by
  unfold requestStop
  split
  · exact .stay
  · exact .halt ‹_›

theorem quiet_stop (server : Server) : Quiet server server.stop := by
  unfold stop
  split
  · exact .stay
  · split
    · exact .close
    · exact .halt ‹_›

theorem quiet_engage (server : Server) (observer : Nat) :
    Quiet server (server.engage observer).2 := by
  unfold engage
  split
  · exact .engage observer ‹_›
  · exact .close

theorem quiet_of_admit? {server admitted : Server} {connection : Option Nat}
    (hadmitted : server.admit? connection = some admitted) : Quiet server admitted := by
  unfold admit? at hadmitted
  split at hadmitted
  · cases hadmitted
    exact .register connection ‹_›
  · cases hadmitted

theorem quiet_of_listen {server opened : Server} {endpoint : Net.Endpoint}
    (hlisten : server.listen endpoint = .ok opened) : Quiet server opened := by
  unfold listen at hlisten
  split at hlisten
  · cases hlisten
    exact .listen endpoint ‹_›
  · cases hlisten

namespace Quiet

variable {server next : Server}

theorem epoch_eq (hquiet : Quiet server next) : next.epoch = server.epoch := by
  cases hquiet with
  | close => exact epoch_cleanUp server
  | _ => rfl

theorem commands_eq (hquiet : Quiet server next) :
    next.counters.commands = server.counters.commands := by
  cases hquiet with
  | close => exact commands_cleanUp server
  | _ => rfl

/-- A quiet section keeps the pool unless it closes the server. -/
theorem pool_eq_or (hquiet : Quiet server next) :
    next.pool = server.pool ∨ next.pool = none ∧ next.phase = .uninitialized := by
  cases hquiet with
  | close =>
      unfold cleanUp
      split
      · exact Or.inl rfl
      · exact Or.inr ⟨rfl, rfl⟩
  | _ => exact Or.inl rfl

end Quiet

/-- A section of a worker whose supervisor sends from the pool of this session, if of any, and has
this buffer in hand, if any. -/
inductive Work (session : Option Nat) (hand : Option Pool.Buffer) (server : Server) :
    Server → Prop where
  | quiet {next : Server} (hquiet : Quiet server next) : Work session hand server next
  | countCommand : Work session hand server server.countCommand
  | take (epoch : Nat) (hsession : session = some epoch) :
    Work session hand server (server.take epoch).2
  | giveBack (epoch : Nat) (buffer : Pool.Buffer) (hsession : session = some epoch)
    (hhand : hand = some buffer) : Work session hand server (server.giveBack epoch buffer)

@[simp]
theorem phase_take (server : Server) (epoch : Nat) :
    (server.take epoch).2.phase = server.phase := by
  unfold take
  split <;> rfl

@[simp]
theorem epoch_take (server : Server) (epoch : Nat) :
    (server.take epoch).2.epoch = server.epoch := by
  unfold take
  split <;> rfl

@[simp]
theorem counters_take (server : Server) (epoch : Nat) :
    (server.take epoch).2.counters = server.counters := by
  unfold take
  split <;> rfl

@[simp]
theorem phase_giveBack (server : Server) (epoch : Nat) (buffer : Pool.Buffer) :
    (server.giveBack epoch buffer).phase = server.phase := by
  unfold giveBack
  split <;> rfl

@[simp]
theorem epoch_giveBack (server : Server) (epoch : Nat) (buffer : Pool.Buffer) :
    (server.giveBack epoch buffer).epoch = server.epoch := by
  unfold giveBack
  split <;> rfl

@[simp]
theorem counters_giveBack (server : Server) (epoch : Nat) (buffer : Pool.Buffer) :
    (server.giveBack epoch buffer).counters = server.counters := by
  unfold giveBack
  split <;> rfl

theorem Work.epoch_eq {session : Option Nat} {hand : Option Pool.Buffer} {server next : Server}
    (hwork : Work session hand server next) : next.epoch = server.epoch := by
  cases hwork with
  | quiet hquiet => exact hquiet.epoch_eq
  | countCommand => rfl
  | take epoch hsession => exact epoch_take server epoch
  | giveBack epoch buffer hsession hhand => exact epoch_giveBack server epoch buffer

/-- A section of a worker that changes the phase is quiet. -/
theorem Work.quiet_or {session : Option Nat} {hand : Option Pool.Buffer} {server next : Server}
    (hwork : Work session hand server next) :
    Quiet server next ∨ next.phase = server.phase := by
  cases hwork with
  | quiet hquiet => exact Or.inl hquiet
  | countCommand => exact Or.inr rfl
  | take epoch hsession => exact Or.inr (phase_take server epoch)
  | giveBack epoch buffer hsession hhand => exact Or.inr (phase_giveBack server epoch buffer)

end Server

namespace Relay

open TunerRelay.Server (Quiet Work)

variable {ω : Type} [Audience ω]

theorem Hub.quiet_hear (hub : Hub ω) (observer : Nat) (record : Wire.Record) :
    Quiet hub.server (hub.hear observer record).server := by
  unfold Hub.hear
  simp only
  split
  · exact Server.quiet_stop hub.server
  · exact .stay

theorem Hub.server_dismiss (hub : Hub ω) (observer : Nat) :
    (hub.dismiss observer).server = hub.server := by
  unfold Hub.dismiss
  simp only
  split <;> rfl

theorem Reader.quiet_step {reader : Reader} (observer : Nat) (signal : Signal) (hub : Hub ω)
    (hcounting : ∀ record, reader.place ≠ .counting record) :
    Quiet hub.server (reader.step observer signal hub).2.server := by
  obtain ⟨place, received, records⟩ := reader
  cases place with
  | idle | assembling | judging | ended => exact .stay
  | receiving piece => cases signal <;> exact .stay
  | halting => exact Server.quiet_requestStop hub.server
  | counting record => exact absurd rfl (hcounting record)
  | handing record => exact .stay
  | acting record => exact Hub.quiet_hear hub observer record

/-- What a section makes of a call and of the server. All but the staging of a pool and the queueing
of a chunk is quiet. -/
inductive Call.Acts (server : Server) : Call → Call → Server → Prop where
  | stage {address : String} {port : UInt16} {header : Wire.Header} {staged : Server} (next : Call)
    (hstage : server.stage header = .ok staged) :
    Acts server (.staging address port header) next staged
  | refuse {address : String} {port : UInt16} {header : Wire.Header} (next : Call)
    (hphase : server.phase ≠ .uninitialized) : Acts server (.staging address port header) next server
  | wait (bytes : List UInt8) : Acts server (.feeding bytes) (.feeding bytes) server
  | feed (bytes : List UInt8) :
    Acts server (.feeding bytes) (.returned (.fed (server.feed bytes).1)) (server.feed bytes).2
  | quiet {call next : Call} {later : Server}
    (hstaging : ∀ address port header, call ≠ .staging address port header)
    (hfeeding : ∀ bytes, call ≠ .feeding bytes) (hquiet : Quiet server later) :
    Acts server call next later

theorem Call.acts (call : Call) (signal : Signal) (relay : Relay ω) :
    call.Acts relay.server (call.step signal relay).1 (call.step signal relay).2.server := by
  cases call with
  | staging address port header =>
      simp only [step, stage]
      split
      · rename_i hstage
        refine .refuse _ ?_
        intro hphase
        simp [Server.stage, hphase] at hstage
      · exact .stage _ ‹_›
  | binding | preparing => cases signal <;> exact .quiet nofun nofun .stay
  | listening endpoint =>
      simp only [step, listen]
      split
      · exact .quiet nofun nofun .stay
      · exact .quiet nofun nofun (Server.quiet_of_listen ‹_›)
  | abandoning | clearing => exact .quiet nofun nofun .close
  | engaging observer =>
      have hengage := Server.quiet_engage relay.server observer
      simp only [step, engage]
      split <;> rename_i heq <;> rw [heq] at hengage <;> exact .quiet nofun nofun hengage
  | launching => cases signal <;> exact .quiet nofun nofun .stay
  | keeping | awaiting | returned => exact .quiet nofun nofun .stay
  | excusing observer fault =>
      refine .quiet nofun nofun ?_
      simp only [step]
      rw [show (relay.withHub (relay.hub.dismiss observer)).server = relay.server from
        Hub.server_dismiss relay.hub observer]
      exact .stay
  | stopping => exact .quiet nofun nofun (Server.quiet_stop relay.hub.server)
  | glancing =>
      simp only [step]
      split <;> exact .quiet nofun nofun .stay
  | feeding bytes =>
      simp only [step, feed]
      split
      · exact .wait bytes
      · exact .feed bytes
  | collecting =>
      simp only [step]
      split <;> exact .quiet nofun nofun .stay

/-! ### Moves of the whole relay -/

/-- The buffer that a supervisor has taken out of the pool and not yet given back. -/
def Supervisor.Place.hand : Supervisor.Place → Option Pool.Buffer
  | .writing buffer _ | .offering buffer _ | .returning buffer _ => some buffer
  | _ => none

/-- A section of one of the threads that belong to a supervisor. -/
def Worker.step (worker : Worker) (signal : Signal) (supervisor : Supervisor) (hub : Hub ω) :
    Supervisor × Hub ω :=
  match worker with
  | .supervisor _ => supervisor.step signal hub
  | .reader _ => supervisor.stepReader signal hub

theorem Supervisor.Place.Leads.work {session : Option Nat} {server next : Server}
    {place later : Place} (hleads : place.Leads session server later next) :
    Work session place.hand server next := by
  cases hleads with
  | splitFailed | spawnFailed | halt => exact .quiet (Server.quiet_requestStop server)
  | enter hphase => exact .quiet (.serve hphase)
  | fetchNothing epoch hsession | fetch epoch buffer hsession => exact .take epoch hsession
  | giveBack buffer | drop buffer =>
      cases session with
      | none => exact .quiet .stay
      | some epoch => exact .giveBack epoch buffer rfl rfl
  | count bytes => exact .quiet (.countSent bytes)
  | close => exact .quiet .close
  | _ => exact .quiet .stay

theorem Supervisor.Steps.work {supervisor later : Supervisor} {server next : Server}
    (hsteps : supervisor.Steps server later next) :
    Work supervisor.epoch supervisor.place.hand server next := by
  cases hsteps with
  | walk hleads => exact hleads.work
  | register hplace hadmitted => exact .quiet (Server.quiet_of_admit? hadmitted)
  | _ => exact .quiet .stay

theorem Reader.work_step (reader : Reader) (session : Option Nat) (hand : Option Pool.Buffer)
    (observer : Nat) (signal : Signal) (hub : Hub ω) :
    Work session hand hub.server (reader.step observer signal hub).2.server := by
  by_cases hcounting : ∃ record, reader.place = .counting record
  · obtain ⟨record, hplace⟩ := hcounting
    simp only [step, hplace]
    exact .countCommand
  · refine .quiet (quiet_step observer signal hub ?_)
    intro record hplace
    exact hcounting ⟨record, hplace⟩

theorem Worker.work_step (worker : Worker) (signal : Signal) (supervisor : Supervisor)
    (hub : Hub ω) :
    Work supervisor.epoch supervisor.place.hand hub.server
      (worker.step signal supervisor hub).2.server := by
  cases worker with
  | supervisor number => exact (supervisor.steps signal hub).work
  | reader number =>
      simp only [step, Supervisor.stepReader]
      split
      · exact Reader.work_step _ _ _ _ signal hub
      · exact .quiet .stay

namespace Traffic

def server (traffic : Traffic ω) : Server := traffic.relay.server

def supervisors (traffic : Traffic ω) : List Supervisor := traffic.relay.supervisors

@[simp]
theorem run_nil (traffic : Traffic ω) : traffic.run [] = traffic := rfl

@[simp]
theorem run_cons (traffic : Traffic ω) (move : Move) (moves : List Move) :
    traffic.run (move :: moves) = (traffic.move move).run moves := rfl

theorem run_append (traffic : Traffic ω) (first second : List Move) :
    traffic.run (first ++ second) = (traffic.run first).run second :=
  List.foldl_append

theorem run_concat (traffic : Traffic ω) (moves : List Move) (move : Move) :
    traffic.run (moves ++ [move]) = (traffic.run moves).move move := by
  rw [run_append, run_cons, run_nil]

theorem move_resume {traffic : Traffic ω} {number : Nat} {call : Call} (signal : Signal)
    (hcall : traffic.calls[number]? = some call) :
    traffic.move (.resume number signal) =
      { relay := (call.step signal traffic.relay).2
        calls := traffic.calls.set number (call.step signal traffic.relay).1 } := by
  simp [move, resume, hcall]

theorem move_resume_of_none {traffic : Traffic ω} {number : Nat} (signal : Signal)
    (hcall : traffic.calls[number]? = none) :
    traffic.move (.resume number signal) = traffic := by
  simp [move, resume, hcall]

theorem move_work {traffic : Traffic ω} {worker : Worker} {supervisor : Supervisor}
    (signal : Signal) (hsupervisor : traffic.supervisors[worker.number]? = some supervisor) :
    traffic.move (.work worker signal) =
      { relay :=
          { hub := (worker.step signal supervisor traffic.relay.hub).2
            supervisors := traffic.supervisors.set worker.number
              (worker.step signal supervisor traffic.relay.hub).1
            handle := traffic.relay.handle }
        calls := traffic.calls } := by
  unfold supervisors at hsupervisor ⊢
  cases worker <;> simp [move, work, hsupervisor, Worker.step]

theorem move_work_of_none {traffic : Traffic ω} {worker : Worker} (signal : Signal)
    (hsupervisor : traffic.supervisors[worker.number]? = none) :
    traffic.move (.work worker signal) = traffic := by
  unfold supervisors at hsupervisor
  simp [move, work, hsupervisor]

section Parts

variable {traffic : Traffic ω} {number : Nat} {call : Call} {worker : Worker}
  {supervisor : Supervisor} (signal : Signal)

theorem server_resume (hcall : traffic.calls[number]? = some call) :
    (traffic.move (.resume number signal)).server = (call.step signal traffic.relay).2.server := by
  rw [move_resume signal hcall]
  rfl

theorem supervisors_resume (hcall : traffic.calls[number]? = some call) :
    (traffic.move (.resume number signal)).supervisors =
      (call.step signal traffic.relay).2.supervisors := by
  rw [move_resume signal hcall]
  rfl

theorem calls_resume (hcall : traffic.calls[number]? = some call) :
    (traffic.move (.resume number signal)).calls =
      traffic.calls.set number (call.step signal traffic.relay).1 := by
  rw [move_resume signal hcall]

theorem server_work (hsupervisor : traffic.supervisors[worker.number]? = some supervisor) :
    (traffic.move (.work worker signal)).server =
      (worker.step signal supervisor traffic.relay.hub).2.server := by
  rw [move_work signal hsupervisor]
  rfl

theorem supervisors_work (hsupervisor : traffic.supervisors[worker.number]? = some supervisor) :
    (traffic.move (.work worker signal)).supervisors =
      traffic.supervisors.set worker.number
        (worker.step signal supervisor traffic.relay.hub).1 := by
  rw [move_work signal hsupervisor]
  rfl

theorem calls_work (worker : Worker) :
    (traffic.move (.work worker signal)).calls = traffic.calls := rfl

end Parts

/-- What survives every move survives a run. -/
theorem run_induction (property : Traffic ω → Prop) {traffic : Traffic ω}
    (hstart : property traffic)
    (hmove : ∀ traffic move, property traffic → property (traffic.move move))
    (moves : List Move) : property (traffic.run moves) := by
  induction moves using List.reverseRecOn with
  | nil => exact hstart
  | append_singleton moves move ih =>
      rw [run_concat]
      exact hmove _ move ih

end Traffic

/-- A section of a call starts at most one supervisor, and touches none of those there are. -/
theorem Call.supervisors_step (call : Call) (signal : Signal) (relay : Relay ω) :
    (call.step signal relay).2.supervisors = relay.supervisors ∨
      (call.step signal relay).2.supervisors = relay.supervisors ++ [({} : Supervisor)] ∧
        ∃ observer, call = .launching observer := by
  cases call with
  | staging address port header =>
      simp only [step, stage]
      split <;> exact Or.inl rfl
  | binding | preparing => cases signal <;> exact Or.inl rfl
  | listening endpoint =>
      simp only [step, listen]
      split <;> exact Or.inl rfl
  | engaging observer =>
      simp only [step, engage]
      split <;> exact Or.inl rfl
  | launching observer =>
      cases signal with
      | failure reason => exact Or.inl rfl
      | _ => exact Or.inr ⟨rfl, observer, rfl⟩
  | abandoning | keeping | clearing | excusing | stopping | awaiting | returned => exact Or.inl rfl
  | glancing | collecting =>
      simp only [step]
      split <;> exact Or.inl rfl
  | feeding bytes =>
      simp only [step, feed]
      split <;> exact Or.inl rfl

/-- What a new supervisor has and its workers keep, every supervisor has. -/
theorem Traffic.forall_supervisors_move {traffic : Traffic ω} {property : Supervisor → Prop}
    (hnew : property {})
    (hstep : ∀ (worker : Worker) (signal : Signal) (supervisor : Supervisor),
      property supervisor → property (worker.step signal supervisor traffic.relay.hub).1)
    (move : Move)
    (hall : ∀ supervisor ∈ traffic.supervisors, property supervisor) :
    ∀ supervisor ∈ (traffic.move move).supervisors, property supervisor := by
  intro supervisor hsupervisor
  cases move with
  | begin operation => exact hall supervisor hsupervisor
  | resume number signal =>
      cases hcall : traffic.calls[number]? with
      | none =>
          rw [move_resume_of_none signal hcall] at hsupervisor
          exact hall supervisor hsupervisor
      | some call =>
          rw [supervisors_resume signal hcall] at hsupervisor
          rcases Call.supervisors_step call signal traffic.relay with hsame | ⟨hmore, -⟩
          · rw [hsame] at hsupervisor
            exact hall supervisor hsupervisor
          · rw [hmore, List.mem_append, List.mem_singleton] at hsupervisor
            rcases hsupervisor with hmem | rfl
            · exact hall supervisor hmem
            · exact hnew
  | work worker signal =>
      cases hworker : traffic.supervisors[worker.number]? with
      | none =>
          rw [move_work_of_none signal hworker] at hsupervisor
          exact hall supervisor hsupervisor
      | some acting =>
          rw [supervisors_work signal hworker] at hsupervisor
          rcases List.mem_or_eq_of_mem_set hsupervisor with hmem | rfl
          · exact hall supervisor hmem
          · exact hstep worker signal acting (hall acting (List.mem_of_getElem? hworker))

/-! ### How runs begin -/

/-- The call of this number opens a socket. -/
def openingMoves (number : Nat) : List Move :=
  .begin (.openSocket "127.0.0.1" 0 (.rtl 5 29)) :: List.replicate 4 (.resume number .nothing)

/-- The call of this number asks for a client on behalf of an observer. -/
def servingMoves (number observer : Nat) : List Move :=
  .begin (.serve observer) :: List.replicate 3 (.resume number .nothing)

/-- A socket is opened and somebody asks to be served. -/
def askedMoves : List Move := openingMoves 0 ++ servingMoves 1 0

/-- A worker goes on while it meets these signals. -/
def workMoves (worker : Worker) (signals : List Signal) : List Move := signals.map (.work worker)

/-- A client is admitted. -/
def admittingSignals (connection : Nat) : List Signal :=
  [.nothing, .nothing, .nothing, .client connection, .nothing]

/-- A client is admitted and served. -/
def servingSignals (connection : Nat) : List Signal :=
  admittingSignals connection ++ List.replicate 3 .nothing

end Relay

end TunerRelay
