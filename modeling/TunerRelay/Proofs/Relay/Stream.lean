import TunerRelay.Proofs.Relay.Delivery
import TunerRelay.Proofs.Relay.Ledger
import TunerRelay.Proofs.Relay.Upkeep

/-!
# The stream of a session

Whatever the threads of a relay do and in whatever order, the client of a session with one supervisor
gets the header and the queued chunks: no byte is lost, repeated, reordered or made up before the
session ends. Until the supervisor notes the session, all that is owed waits in the pool. From then
on, it is divided among the client, the supervisor and the pool.
-/

namespace TunerRelay.Relay

open TunerRelay.Pool (Buffer)
open TunerRelay.Server (Work)

variable {ω : Type} [Audience ω]

namespace Supervisor

/-- It has sent nothing before it has noted its session, its session owes a header, and what it has
in hand takes bytes. -/
structure Proper (epoch : Nat) (ledger : Ledger) (supervisor : Supervisor) : Prop where
  starting : supervisor.place = .starting → supervisor.epoch = none ∧ supervisor.sent = []
  headed : supervisor.epoch = some epoch → ledger.header.isSome = true
  hand : ∀ buffer, supervisor.place.hand = some buffer → buffer.kind = .ushort

theorem Proper.entered {epoch : Nat} {server next : Server} {ledger entered : Ledger}
    {supervisor : Supervisor} (hproper : supervisor.Proper epoch ledger)
    (hentry : Ledger.Entry epoch server next ledger entered) :
    supervisor.Proper epoch entered where
  starting := hproper.starting
  headed hepoch := hentry.isSome_header (hproper.headed hepoch)
  hand := hproper.hand

/-- A buffer comes into the hands of a supervisor out of a pool. -/
theorem Place.Leads.hand_eq_or {session : Option Nat} {server next : Server}
    {place later : Place} (hleads : place.Leads session server later next) {buffer : Buffer}
    (hheld : later.hand = some buffer) :
    place.hand = some buffer ∨ ∃ epoch, (server.take epoch).1 = some buffer := by
  cases hleads with
  | fetch epoch taken hsession htake => exact Or.inr ⟨epoch, htake.trans hheld⟩
  | offer | finish | offerAgain | fail => exact Or.inl hheld
  | _ => cases hheld

theorem Place.Leads.ne_starting {session : Option Nat} {server next : Server}
    {place later : Place} (hleads : place.Leads session server later next) :
    later ≠ .starting := by
  cases hleads <;> exact nofun

section Steps

variable {supervisor later : Supervisor} {server next : Server}

theorem Steps.epoch_eq (hsteps : supervisor.Steps server later next)
    (hstarting : supervisor.place ≠ .starting) : later.epoch = supervisor.epoch := by
  cases hsteps with
  | note hplace => exact absurd hplace hstarting
  | _ => rfl

theorem Steps.proper {epoch : Nat} {ledger : Ledger} (hsteps : supervisor.Steps server later next)
    (hstocked : server.Stocked)
    (hheaded : (server.poolOf? epoch).isSome = true → ledger.header.isSome = true)
    (hproper : supervisor.Proper epoch ledger) : later.Proper epoch ledger := by
  cases hsteps with
  | note hplace =>
      exact ⟨nofun, fun hepoch => hheaded (isSome_poolOf?_of_note hepoch).2, nofun⟩
  | walk hleads =>
      refine ⟨fun hplace => absurd hplace hleads.ne_starting, hproper.headed, ?_⟩
      intro buffer hheld
      rcases hleads.hand_eq_or hheld with hbefore | ⟨session, htake⟩
      · exact hproper.hand buffer hbefore
      · exact Server.kind_take hstocked htake
  | register hplace hadmitted hnext =>
      rcases hnext with rfl | rfl <;> exact ⟨nofun, hproper.headed, nofun⟩
  | staff => exact ⟨nofun, hproper.headed, nofun⟩
  | send count hplace =>
      refine ⟨nofun, hproper.headed, ?_⟩
      intro buffer hheld
      exact hproper.hand buffer (by rw [hplace]; exact hheld)
  | join => exact ⟨nofun, hproper.headed, nofun⟩

end Steps

/-- A reader takes nothing out of any pool. -/
theorem work_stepReader (supervisor : Supervisor) (signal : Signal) (hub : Hub ω) :
    Work none none hub.server (supervisor.stepReader signal hub).2.server := by
  unfold stepReader
  split
  · exact Reader.work_step _ none none _ signal hub
  · exact .quiet .stay

end Supervisor

theorem Worker.epoch_step {supervisor : Supervisor} (worker : Worker) (signal : Signal)
    (hub : Hub ω) (hstarting : supervisor.place ≠ .starting) :
    (worker.step signal supervisor hub).1.epoch = supervisor.epoch := by
  cases worker with
  | supervisor number => exact (supervisor.steps signal hub).epoch_eq hstarting
  | reader number =>
      obtain ⟨reader, hsame⟩ := supervisor.exists_stepReader signal hub
      rw [Worker.step, hsame]

theorem Worker.proper_step {epoch : Nat} {ledger : Ledger} {supervisor : Supervisor}
    (worker : Worker) (signal : Signal) (hub : Hub ω) (hstocked : hub.server.Stocked)
    (hheaded : (hub.server.poolOf? epoch).isSome = true → ledger.header.isSome = true)
    (hproper : supervisor.Proper epoch ledger) :
    (worker.step signal supervisor hub).1.Proper epoch ledger := by
  cases worker with
  | supervisor number => exact (supervisor.steps signal hub).proper hstocked hheaded hproper
  | reader number =>
      obtain ⟨reader, hsame⟩ := supervisor.exists_stepReader signal hub
      rw [Worker.step, hsame]
      exact ⟨hproper.starting, hproper.headed, hproper.hand⟩

theorem Worker.delivers_note {epoch : Nat} {owed : List UInt8} {supervisor : Supervisor}
    (worker : Worker) (signal : Signal) (hub : Hub ω)
    (hnoted : (worker.step signal supervisor hub).1.epoch = some epoch)
    (hnone : supervisor.epoch = none) (hstarting : supervisor.place = .starting)
    (hsent : supervisor.sent = [])
    (hholds : ∀ pool, hub.server.poolOf? epoch = some pool → pool.Holds owed) :
    (worker.step signal supervisor hub).1.Delivers (worker.step signal supervisor hub).2.server
      epoch owed := by
  cases worker with
  | supervisor number =>
      simp only [Worker.step, Supervisor.step, hstarting] at hnoted ⊢
      exact .note hnoted hsent hholds
  | reader number =>
      obtain ⟨reader, hsame⟩ := supervisor.exists_stepReader signal hub
      rw [Worker.step, hsame] at hnoted
      cases hnone.symm.trans hnoted

theorem Worker.delivers_step {epoch : Nat} {owed : List UInt8} {supervisor : Supervisor}
    (worker : Worker) (signal : Signal) (hub : Hub ω) (hstocked : hub.server.Stocked)
    (hhand : ∀ buffer, supervisor.place.hand = some buffer → buffer.kind = .ushort)
    (hepoch : supervisor.epoch = some epoch) (hstarting : supervisor.place ≠ .starting)
    (hdelivers : supervisor.Delivers hub.server epoch owed) :
    (worker.step signal supervisor hub).1.Delivers (worker.step signal supervisor hub).2.server
      epoch owed := by
  cases worker with
  | supervisor number =>
      exact hdelivers.step hstocked hepoch hstarting hhand (supervisor.steps signal hub)
  | reader number =>
      have hwork := Supervisor.work_stepReader supervisor signal hub
      have hafter := hdelivers.spared (hwork.supplies hstocked nofun nofun)
      obtain ⟨reader, hsame⟩ := supervisor.exists_stepReader signal hub
      simp only [Worker.step, hsame]
      exact hafter.goOn rfl rfl hafter.late id

/-! ### The supervisor of a session -/

/-- This supervisor sends from the pool of the session, and no other does. -/
structure Serves (supervisors : List Supervisor) (epoch number : Nat) (supervisor : Supervisor) :
    Prop where
  running : supervisors[number]? = some supervisor
  noted : supervisor.epoch = some epoch
  alone : ∀ other rival, supervisors[other]? = some rival → rival.epoch = some epoch →
    other = number

/-- What a session owes is divided among the client, its supervisor and the pool. -/
structure Streams (epoch : Nat) (server : Server) (supervisors : List Supervisor)
    (ledger : Ledger) : Prop where
  stocked : server.Stocked
  unopened : server.epoch < epoch → ledger = {}
  headed : (server.poolOf? epoch).isSome = true → ledger.header.isSome = true
  proper : ∀ supervisor ∈ supervisors, supervisor.Proper epoch ledger
  fresh : (∀ supervisor ∈ supervisors, supervisor.epoch ≠ some epoch) →
    ∀ pool, server.poolOf? epoch = some pool → pool.Holds ledger.bytes
  delivers : ∀ number supervisor, Serves supervisors epoch number supervisor →
    supervisor.Delivers server epoch ledger.bytes

namespace Streams

variable {epoch : Nat} {server next : Server} {supervisors : List Supervisor}
  {ledger entered : Ledger}

omit [Audience ω] in
theorem bytes_of_unopened (hstreams : Streams epoch server supervisors ledger)
    (hearly : server.epoch < epoch) : ledger.bytes = [] := by
  rw [hstreams.unopened hearly]
  rfl

/-- A call may start a supervisor, which has no session yet. -/
theorem enter {new : List Supervisor} (hstreams : Streams epoch server supervisors ledger)
    (hentry : Ledger.Entry epoch server next ledger entered)
    (hnew : ∀ supervisor ∈ new, supervisor = {}) :
    Streams epoch next (supervisors ++ new) entered := by
  obtain ⟨gain, hbytes, hsupplies⟩ := hentry.supplies hstreams.unopened
  refine ⟨hsupplies.stocked, hentry.unopened hstreams.unopened, hentry.headed hstreams.headed,
    ?_, ?_, ?_⟩
  · intro supervisor hmem
    rcases List.mem_append.mp hmem with hold | hstarted
    · exact (hstreams.proper supervisor hold).entered hentry
    · rw [hnew supervisor hstarted]
      exact ⟨fun _ => ⟨rfl, rfl⟩, nofun, nofun⟩
  · intro hnone later hlater
    rw [hbytes]
    refine hsupplies.holds hstreams.bytes_of_unopened (hstreams.fresh ?_) hlater
    exact fun supervisor hold => hnone supervisor (List.mem_append_left new hold)
  · intro number supervisor hserves
    rw [hbytes]
    refine (hstreams.delivers number supervisor ⟨?_, hserves.noted, ?_⟩).supplied hsupplies
    · have hrunning := hserves.running
      rw [List.getElem?_append] at hrunning
      split at hrunning
      · exact hrunning
      · have hmem := List.mem_of_getElem? hrunning
        have hepoch := hserves.noted
        rw [hnew supervisor hmem] at hepoch
        cases hepoch
    · intro other rival hrival
      refine hserves.alone other rival ?_
      rw [List.getElem?_append_left (List.getElem?_eq_some_iff.mp hrival).1]
      exact hrival

section Workers

variable {hub : Hub ω} {worker : Worker} {acting : Supervisor} (signal : Signal)

/-- What a supervisor has noted is still noted after a step of one of them. -/
theorem exists_noted (hstreams : Streams epoch hub.server supervisors ledger)
    (hacting : supervisors[worker.number]? = some acting) {other : Nat} {rival : Supervisor}
    (hrival : supervisors[other]? = some rival) (hepoch : rival.epoch = some epoch) :
    ∃ later, (supervisors.set worker.number (worker.step signal acting hub).1)[other]? =
      some later ∧ later.epoch = some epoch := by
  by_cases hsame : other = worker.number
  · subst hsame
    obtain rfl : rival = acting := Option.some.inj (hrival.symm.trans hacting)
    refine ⟨_, List.getElem?_set_self (List.getElem?_eq_some_iff.mp hacting).1, ?_⟩
    rw [worker.epoch_step signal hub, hepoch]
    intro hstarting
    have hnone := ((hstreams.proper rival (List.mem_of_getElem? hacting)).starting hstarting).1
    cases hnone.symm.trans hepoch
  · refine ⟨rival, ?_, hepoch⟩
    rw [List.getElem?_set_ne (Ne.symm hsame)]
    exact hrival

theorem fresh_worked (hstreams : Streams epoch hub.server supervisors ledger)
    (hacting : supervisors[worker.number]? = some acting)
    (hnone : ∀ supervisor ∈ supervisors.set worker.number (worker.step signal acting hub).1,
      supervisor.epoch ≠ some epoch) {later : Pool}
    (hlater : (worker.step signal acting hub).2.server.poolOf? epoch = some later) :
    later.Holds ledger.bytes := by
  have hbefore : ∀ supervisor ∈ supervisors, supervisor.epoch ≠ some epoch := by
    intro supervisor hmem hepoch
    obtain ⟨place, hplace⟩ := List.mem_iff_getElem?.mp hmem
    obtain ⟨rival, hrival, hnoted⟩ := hstreams.exists_noted signal hacting hplace hepoch
    exact hnone rival (List.mem_of_getElem? hrival) hnoted
  have hmem := List.mem_of_getElem? hacting
  have hsupplies := (worker.work_step signal acting hub).supplies hstreams.stocked
    (hstreams.proper acting hmem).hand (hbefore acting hmem)
  have hholds := hsupplies.holds hstreams.bytes_of_unopened (hstreams.fresh hbefore) hlater
  rw [List.append_nil] at hholds
  exact hholds

/-- The one supervisor of the session has moved on, or somebody else has. -/
theorem delivers_worked (hstreams : Streams epoch hub.server supervisors ledger)
    (hacting : supervisors[worker.number]? = some acting) {number : Nat} {supervisor : Supervisor}
    (hserves : Serves (supervisors.set worker.number (worker.step signal acting hub).1) epoch
      number supervisor) :
    supervisor.Delivers (worker.step signal acting hub).2.server epoch ledger.bytes := by
  have hproper := hstreams.proper acting (List.mem_of_getElem? hacting)
  have halone : ∀ other rival, supervisors[other]? = some rival → rival.epoch = some epoch →
      other = number := by
    intro other rival hrival hepoch
    obtain ⟨later, hlater, hnoted⟩ := hstreams.exists_noted signal hacting hrival hepoch
    exact hserves.alone other later hlater hnoted
  have hrunning := hserves.running
  by_cases hnumber : worker.number = number
  · subst hnumber
    rw [List.getElem?_set_self (List.getElem?_eq_some_iff.mp hacting).1] at hrunning
    obtain rfl := Option.some.inj hrunning
    by_cases hstarting : acting.place = .starting
    · obtain ⟨hnone, hsent⟩ := hproper.starting hstarting
      have hbefore : ∀ supervisor ∈ supervisors, supervisor.epoch ≠ some epoch := by
        intro rival hmem hepoch
        obtain ⟨place, hplace⟩ := List.mem_iff_getElem?.mp hmem
        rw [halone place rival hplace hepoch, hacting] at hplace
        cases hplace
        cases hnone.symm.trans hepoch
      exact worker.delivers_note signal hub hserves.noted hnone hstarting hsent
        (hstreams.fresh hbefore)
    · have hepoch : acting.epoch = some epoch :=
        (worker.epoch_step signal hub hstarting).symm.trans hserves.noted
      exact worker.delivers_step signal hub hstreams.stocked hproper.hand hepoch hstarting
        (hstreams.delivers _ acting ⟨hacting, hepoch, halone⟩)
  · rw [List.getElem?_set_ne hnumber] at hrunning
    have hother : acting.epoch ≠ some epoch :=
      fun hepoch => hnumber (halone worker.number acting hacting hepoch)
    have hbefore := hstreams.delivers number supervisor ⟨hrunning, hserves.noted, halone⟩
    exact hbefore.spared
      ((worker.work_step signal acting hub).supplies hstreams.stocked hproper.hand hother)

/-- A worker gives up nothing of what is owed, unless the session is cut short. -/
theorem worked (hstreams : Streams epoch hub.server supervisors ledger)
    (hacting : supervisors[worker.number]? = some acting) :
    Streams epoch (worker.step signal acting hub).2.server
      (supervisors.set worker.number (worker.step signal acting hub).1) ledger := by
  have hproper := hstreams.proper acting (List.mem_of_getElem? hacting)
  have hwork := worker.work_step signal acting hub
  refine ⟨hwork.stocked hstreams.stocked hproper.hand, ?_, ?_, ?_, ?_, ?_⟩
  · rw [hwork.epoch_eq]
    exact hstreams.unopened
  · exact fun hpool => hstreams.headed (hwork.isSome_poolOf? hpool)
  · intro supervisor hmem
    rcases List.mem_or_eq_of_mem_set hmem with hold | rfl
    · exact hstreams.proper supervisor hold
    · exact worker.proper_step signal hub hstreams.stocked hstreams.headed hproper
  · exact fun hnone _ hlater => hstreams.fresh_worked signal hacting hnone hlater
  · exact fun _ _ hserves => hstreams.delivers_worked signal hacting hserves

end Workers

end Streams

namespace Traffic

theorem streams_move {epoch : Nat} {traffic : Traffic ω} {ledger : Ledger} (move : Move)
    (hstreams : Streams epoch traffic.server traffic.supervisors ledger) :
    Streams epoch (traffic.move move).server (traffic.move move).supervisors
      (traffic.enter epoch ledger move) := by
  cases move with
  | begin operation => exact hstreams
  | resume number signal =>
      cases hcall : traffic.calls[number]? with
      | none =>
          have hnothing : traffic.enter epoch ledger (.resume number signal) = ledger := by
            simp only [enter, hcall]
          rw [move_resume_of_none signal hcall, hnothing]
          exact hstreams
      | some call =>
          have hentry := (call.acts signal traffic.relay).entry epoch ledger hstreams.stocked
          have hentered : traffic.enter epoch ledger (.resume number signal) =
              ledger.enter epoch traffic.server call (call.step signal traffic.relay).1 := by
            simp only [enter, hcall]
          rw [server_resume signal hcall, supervisors_resume signal hcall, hentered]
          rcases call.supervisors_step signal traffic.relay with hsame | ⟨hmore, -⟩
          · rw [hsame, ← List.append_nil traffic.relay.supervisors]
            exact hstreams.enter hentry fun _ hmem => absurd hmem List.not_mem_nil
          · rw [hmore]
            exact hstreams.enter hentry fun _ hmem => List.mem_singleton.mp hmem
  | work worker signal =>
      cases hacting : traffic.supervisors[worker.number]? with
      | none =>
          rw [move_work_of_none signal hacting]
          exact hstreams
      | some acting =>
          rw [server_work signal hacting, supervisors_work signal hacting]
          exact hstreams.worked signal hacting

omit [Audience ω] in
theorem streams_atRest (epoch : Nat) (world : ω) :
    Streams epoch (atRest world).server (atRest world).supervisors {} where
  stocked := ⟨nofun, fun hphase => absurd rfl hphase⟩
  unopened _ := rfl
  headed hpool := by
    obtain ⟨pool, hpool⟩ := Option.isSome_iff_exists.mp hpool
    cases (Server.poolOf?_eq_some_iff.mp hpool).2
  proper _ hmem := absurd hmem List.not_mem_nil
  fresh _ _ hpool := by cases (Server.poolOf?_eq_some_iff.mp hpool).2
  delivers _ _ hserves := by cases hserves.running

theorem streams_run (epoch : Nat) (world : ω) (moves : List Move) :
    Streams epoch ((atRest world).run moves).server ((atRest world).run moves).supervisors
      ((atRest world).ledger epoch {} moves) := by
  induction moves using List.reverseRecOn with
  | nil => exact streams_atRest epoch world
  | append_singleton moves move ih =>
      rw [run_concat, ledger_concat]
      exact streams_move move ih

/-- **The client gets what was queued for it.** What its socket has taken is at every moment the
beginning of the header and the queued chunks. Until the session is stopped or the socket fails, the
rest is in the hands of the supervisor and in the pool, so that once both are empty the client has it
all. -/
theorem stream_delivered {world : ω} {moves : List Move} {epoch number : Nat}
    {supervisor : Supervisor}
    (hserves : Serves ((atRest world).run moves).supervisors epoch number supervisor) :
    ∃ header chunks, (atRest world).ledger epoch {} moves = ⟨some header, chunks⟩ ∧
      supervisor.sent <+: header.toBytes ++ chunks.flatten ∧
      (¬ ((atRest world).run moves).server.Over epoch → supervisor.place.isFailing = false →
        ∃ pool waiting, ((atRest world).run moves).server.pool = some pool ∧ pool.Holds waiting ∧
          header.toBytes ++ chunks.flatten = supervisor.sent ++ supervisor.carried ++ waiting ∧
          (pool.queued 1 = 0 → supervisor.place.hand = none →
            supervisor.sent = header.toBytes ++ chunks.flatten)) := by
  have hstreams := streams_run epoch world moves
  have hheaded := (hstreams.proper supervisor (List.mem_of_getElem? hserves.running)).headed
    hserves.noted
  have hdelivers := hstreams.delivers number supervisor hserves
  have hstocked := hstreams.stocked
  generalize ((atRest world).run moves).server = server at hdelivers hstocked
  generalize (atRest world).ledger epoch {} moves = ledger at hheaded hdelivers
  obtain ⟨header?, chunks⟩ := ledger
  obtain ⟨header, rfl⟩ := Option.isSome_iff_exists.mp hheaded
  refine ⟨header, chunks, rfl, hdelivers.sent_prefix, ?_⟩
  intro hover hfailing
  have hopen := (Server.not_over_iff.mp hover).2.2
  obtain ⟨pool, hpool⟩ := Option.isSome_iff_exists.mp (hstocked.isSome hopen)
  obtain ⟨waiting, hholds, howed⟩ := hdelivers.owed_eq hover hfailing hpool
  refine ⟨pool, waiting, hpool, hholds, howed, ?_⟩
  intro hqueued hhand
  rw [hholds.eq_nil hqueued, Supervisor.carried_eq_nil hhand, List.append_nil,
    List.append_nil] at howed
  exact howed.symm

def feedMoves (call : Nat) (bytes : List UInt8) : List Move :=
  [.begin (.feed bytes), .resume call .nothing, .resume call .nothing]

/-- A client is served, and its socket takes five bytes of the header. -/
def headerSignals : List Signal := servingSignals 7 ++ [.nothing, .nothing, .nothing, .took 5]

/-- The socket takes the rest piece by piece and has to be tried again once. -/
def chunkSignals : List Signal :=
  [.nothing, .took 100, .nothing, .nothing, .nothing, .nothing, .nothing, .nothing, .took 1,
    .nothing, .nothing, .nothing, .took 9, .nothing, .nothing, .nothing, .nothing, .nothing,
    .nothing, .nothing, .nothing, .nothing, .nothing, .nothing, .took 2, .nothing, .nothing,
    .nothing]

/-- Chunks of an odd, of no and of an even length are queued. -/
def streamMoves : List Move :=
  askedMoves ++ workMoves (.supervisor 0) headerSignals ++ feedMoves 2 [1, 2, 3] ++
    feedMoves 3 [] ++ feedMoves 4 [4, 5] ++ workMoves (.supervisor 0) chunkSignals

/-- The supervisor after these moves. -/
def streamSupervisor : Supervisor :=
  { place := .idle, observer := some 0, epoch := some 1, connection := some 7, reader := some {}
    sent := [82, 84, 76, 48, 0, 0, 0, 5, 0, 0, 0, 29, 1, 2, 3, 4, 5] }

theorem stream_delivered_served :
    Serves ((atRest ()).run streamMoves).supervisors 1 0 streamSupervisor ∧
      (atRest ()).ledger 1 {} streamMoves = ⟨some (.rtl 5 29), [[1, 2, 3], [], [4, 5]]⟩ ∧
      streamSupervisor.sent = (Wire.Header.rtl 5 29).toBytes ++ [1, 2, 3, 4, 5] := by
  have hall : ((atRest ()).run streamMoves).supervisors = [streamSupervisor] := by decide +kernel
  have hledger : (atRest ()).ledger 1 {} streamMoves =
      ⟨some (.rtl 5 29), [[1, 2, 3], [], [4, 5]]⟩ := by decide +kernel
  have hqueued : ((atRest ()).run streamMoves).server.pool.map (fun pool => pool.queued 1) =
      some 0 := by decide +kernel
  have hserves : Serves ((atRest ()).run streamMoves).supervisors 1 0 streamSupervisor := by
    rw [hall]
    refine ⟨rfl, rfl, ?_⟩
    intro other rival hrival _
    cases other with
    | zero => rfl
    | succ other => cases hrival
  refine ⟨hserves, hledger, ?_⟩
  obtain ⟨header, chunks, howes, -, hrest⟩ := stream_delivered hserves
  obtain ⟨hheader, rfl⟩ := Ledger.mk.inj (hledger.symm.trans howes)
  obtain rfl := Option.some.inj hheader
  obtain ⟨pool, waiting, hpool, -, -, hsent⟩ :=
    hrest (Server.not_over_iff.mpr (by decide +kernel)) rfl
  rw [hpool] at hqueued
  exact hsent (Option.some.inj hqueued) rfl

end Traffic

end TunerRelay.Relay
