import TunerRelay.Proofs.Lists
import TunerRelay.Proofs.Relay.Writing

/-!
# The count of bytes sent

When a write returns with a number of bytes, its supervisor counts them, once the buffer is given
back. So the server's count, together with what is about to be counted, is what the sockets took in
the writes that have not failed, in all sessions. A session can only have failed in its last write.
-/

namespace TunerRelay

namespace Server

@[simp]
theorem sent_cleanUp (server : Server) :
    server.cleanUp.counters.sent = server.counters.sent := by
  unfold cleanUp
  split <;> rfl

@[simp]
theorem sent_requestStop (server : Server) :
    server.requestStop.counters.sent = server.counters.sent := by
  unfold requestStop
  split <;> rfl

@[simp]
theorem sent_stop (server : Server) : server.stop.counters.sent = server.counters.sent := by
  unfold stop
  split
  · rfl
  · split
    · exact sent_cleanUp server
    · rfl

@[simp]
theorem sent_engage (server : Server) (observer : Nat) :
    (server.engage observer).2.counters.sent = server.counters.sent := by
  unfold engage
  split
  · rfl
  · exact sent_cleanUp server

@[simp]
theorem sent_feed (server : Server) (bytes : List UInt8) :
    (server.feed bytes).2.counters.sent = server.counters.sent := by
  unfold feed
  split
  · rfl
  · rfl
  · split <;> rfl

theorem sent_of_stage {server staged : Server} {header : Wire.Header}
    (hstage : server.stage header = .ok staged) :
    staged.counters.sent = server.counters.sent := by
  unfold stage at hstage
  split at hstage
  · cases hstage
    rfl
  · cases hstage

theorem sent_of_listen {server opened : Server} {endpoint : Net.Endpoint}
    (hlisten : server.listen endpoint = .ok opened) :
    opened.counters.sent = server.counters.sent := by
  unfold listen at hlisten
  split at hlisten
  · cases hlisten
    rfl
  · cases hlisten

theorem sent_of_admit? {server admitted : Server} {connection : Option Nat}
    (hadmitted : server.admit? connection = some admitted) :
    admitted.counters.sent = server.counters.sent := by
  unfold admit? at hadmitted
  split at hadmitted
  · cases hadmitted
    rfl
  · cases hadmitted

end Server

namespace Relay

variable {ω : Type} [Audience ω]

/-! ### Who counts -/

/-- No section of a call counts bytes. -/
theorem Call.sent_step (call : Call) (signal : Signal) (relay : Relay ω) :
    (call.step signal relay).2.server.counters.sent = relay.server.counters.sent := by
  cases call with
  | staging address port header =>
      simp only [step, stage]
      split
      · rfl
      · exact Server.sent_of_stage ‹_›
  | binding | preparing | launching => cases signal <;> rfl
  | listening endpoint =>
      simp only [step, listen]
      split
      · rfl
      · exact Server.sent_of_listen ‹_›
  | abandoning | clearing => exact Server.sent_cleanUp relay.server
  | engaging observer =>
      have hengage := Server.sent_engage relay.server observer
      simp only [step, engage]
      split <;> rename_i heq <;> rw [heq] at hengage <;> exact hengage
  | excusing observer fault =>
      exact congrArg (·.counters.sent) (Hub.server_dismiss relay.hub observer)
  | stopping => exact Server.sent_stop relay.server
  | glancing bytes =>
      simp only [step]
      split <;> rfl
  | feeding bytes =>
      simp only [step, feed]
      split
      · rfl
      · exact Server.sent_feed relay.server bytes
  | collecting =>
      simp only [step]
      split <;> rfl
  | keeping | awaiting | returned => rfl

/-- No reader counts bytes. -/
theorem Supervisor.sent_stepReader (supervisor : Supervisor) (signal : Signal) (hub : Hub ω) :
    (supervisor.stepReader signal hub).2.server.counters.sent = hub.server.counters.sent := by
  unfold stepReader
  split
  · rename_i reader observer hreader hobserver
    obtain ⟨place, received, records⟩ := reader
    cases place with
    | receiving piece => cases signal <;> rfl
    | halting => exact Server.sent_requestStop hub.server
    | acting record =>
        simp only [Reader.step, Hub.hear]
        split
        · exact Server.sent_stop hub.server
        · rfl
    | _ => rfl
  · rfl

namespace Supervisor

/-- Bytes that a write has returned and that are about to be counted. -/
def Place.uncounted : Place → Nat
  | .returning _ (some bytes) | .counting bytes => bytes
  | _ => 0

theorem Place.uncounted_of_written? {place : Place} {buffer : Pool.Buffer}
    (hplace : place.written? = some buffer) : place.uncounted = 0 := by
  cases place <;> first | rfl | cases hplace

theorem Place.Leads.sent_eq {session : Option Nat} {server next : Server} {place later : Place}
    (hleads : place.Leads session server later next) (hplace : place.written? = none) :
    next.counters.sent + UInt64.ofNat later.uncounted =
      server.counters.sent + UInt64.ofNat place.uncounted := by
  cases hleads with
  | offer | finish | offerAgain | fail => cases hplace
  | giveUp place happroaching => cases place <;> first | rfl | cases happroaching
  | count bytes => exact UInt64.add_zero _
  | giveBack buffer | drop buffer =>
      cases session with
      | none => rfl
      | some epoch => exact congrArg (·.sent + _) (Server.counters_giveBack server epoch buffer)
  | fetchNothing epoch | fetch epoch =>
      exact congrArg (·.sent + _) (Server.counters_take server epoch)
  | splitFailed | spawnFailed | halt => exact congrArg (· + _) (Server.sent_requestStop server)
  | close => exact congrArg (· + _) (Server.sent_cleanUp server)
  | _ => rfl

theorem Steps.sent_eq {supervisor later : Supervisor} {server next : Server}
    (hsteps : supervisor.Steps server later next) (hplace : supervisor.place.written? = none) :
    next.counters.sent + UInt64.ofNat later.place.uncounted =
      server.counters.sent + UInt64.ofNat supervisor.place.uncounted := by
  cases hsteps with
  | walk hleads => exact hleads.sent_eq hplace
  | note hat | staff hat =>
      rw [hat]
      rfl
  | register hat hadmitted hnext =>
      rw [hat, Server.sent_of_admit? hadmitted]
      rcases hnext with rfl | rfl <;> rfl
  | send count hat =>
      rw [hat] at hplace
      cases hplace
  | join hat hended =>
      rw [hat]
      rfl

/-- A supervisor that writes leaves the server alone. -/
theorem hub_step_of_written? {supervisor : Supervisor} {buffer : Pool.Buffer} (signal : Signal)
    (hub : Hub ω) (hplace : supervisor.place.written? = some buffer) :
    (supervisor.step signal hub).2 = hub := by
  cases hat : supervisor.place with
  | writing buffer offset =>
      simp only [step, hat]
      split
      · rfl
      · split <;> rfl
  | offering buffer offset => simp only [step, hat]
  | _ => simp [hat, Place.written?] at hplace

end Supervisor

/-! ### What the writes of a supervisor come to -/

/-- The bytes that are counted for a write: those that the socket took, unless it failed. -/
def Write.counted (write : Write) : Nat :=
  match write.verdict with
  | .sent _ => write.accepted.length
  | _ => 0

namespace Traced

/-- The bytes that are counted for the writes of a supervisor. -/
def counted (traced : Traced) : Nat := (traced.writes.map Write.counted).sum

def uncounted (traced : Traced) : Nat := traced.supervisor.place.uncounted

omit [Audience ω] in
theorem counted_eq (traced : Traced) :
    traced.counted = (traced.finished.map Write.counted).sum := by
  unfold counted
  cases hplace : traced.supervisor.place.written? with
  | none => rw [writes_of_none hplace]
  | some buffer =>
      rw [writes_of_some hplace, List.map_append, List.sum_append]
      rfl

omit [Audience ω] in
theorem counted_enter (traced : Traced) (supervisor : Supervisor) (buffer : Pool.Buffer)
    (result : Option Nat) (contacts : List Contact) :
    (traced.enter (supervisor.goTo (.returning buffer result)) contacts).counted =
      traced.counted + Write.counted
        { data := buffer.appendTo [], contacts, verdict := .ofResult result } := by
  rw [counted_eq, counted_eq]
  simp [enter, Supervisor.goTo]

/-- Where a write returns, the bytes that it got rid of are about to be counted. -/
theorem Steps.counted_eq {origin : List UInt8} {traced later : Traced} {buffer : Pool.Buffer}
    (hsteps : traced.Steps later) (hfits : Fits origin traced)
    (hplace : traced.supervisor.place.written? = some buffer) :
    later.counted = traced.counted + later.uncounted := by
  cases hsteps with
  | aside hnone => exact absurd (hnone.symm.trans hplace) nofun
  | look | retry | take => exact (Traced.counted_eq _).trans (Traced.counted_eq traced).symm
  | @finish other offset hat hdone =>
      obtain ⟨hproceeds, -⟩ := hfits.inStep_writing hat
      rw [counted_enter]
      exact congrArg (traced.counted + ·) hproceeds.length_accepted
  | @stop other offset hat hleft =>
      obtain ⟨hproceeds, -⟩ := hfits.inStep_writing hat
      rw [counted_enter]
      refine congrArg (traced.counted + ·) (Eq.trans ?_ hproceeds.length_accepted)
      exact congrArg List.length (accepted_concat_of_taken rfl)
  | fail => exact counted_enter ..

omit [Audience ω] in
theorem Steps.counted_of_none {traced later : Traced} (hsteps : traced.Steps later)
    (hplace : traced.supervisor.place.written? = none) : later.counted = traced.counted := by
  cases hsteps with
  | aside => exact (Traced.counted_eq _).trans (Traced.counted_eq traced).symm
  | look hat | finish hat | stop hat | retry hat | take count hat | fail hat =>
      rw [hat] at hplace
      cases hplace

/-- What a worker of the supervisor does. -/
def work (worker : Worker) (signal : Signal) (hub : Hub ω) (traced : Traced) : Traced :=
  match worker with
  | .supervisor _ => traced.step signal hub
  | .reader _ => { traced with supervisor := (traced.supervisor.stepReader signal hub).1 }

theorem supervisor_step (traced : Traced) (signal : Signal) (hub : Hub ω) :
    (traced.step signal hub).supervisor = (traced.supervisor.step signal hub).1 :=
  supervisor_enter _ _ traced

theorem supervisor_work (traced : Traced) (worker : Worker) (signal : Signal) (hub : Hub ω) :
    (traced.work worker signal hub).supervisor = (worker.step signal traced.supervisor hub).1 := by
  cases worker with
  | supervisor number => exact supervisor_step traced signal hub
  | reader number => rfl

theorem Fits.work {origin : List UInt8} {traced : Traced} (hfits : Fits origin traced)
    (worker : Worker) (signal : Signal) (hub : Hub ω) :
    Fits origin (traced.work worker signal hub) := by
  cases worker with
  | supervisor number => exact hfits.of_steps (traced.steps signal hub)
  | reader number =>
      obtain ⟨reader, hreader⟩ := traced.supervisor.exists_stepReader signal hub
      simp only [Traced.work, hreader]
      exact ⟨hfits.finished, hfits.inStep, hfits.orderly, hfits.sent⟩

/-- A step of a worker counts what its supervisor has got rid of, sooner or later. -/
theorem sent_work {origin : List UInt8} {traced : Traced} (hfits : Fits origin traced)
    (worker : Worker) (signal : Signal) (hub : Hub ω) :
    (worker.step signal traced.supervisor hub).2.server.counters.sent +
        UInt64.ofNat (traced.work worker signal hub).uncounted + UInt64.ofNat traced.counted =
      hub.server.counters.sent + UInt64.ofNat traced.uncounted +
        UInt64.ofNat (traced.work worker signal hub).counted := by
  cases worker with
  | reader number =>
      obtain ⟨reader, hreader⟩ := traced.supervisor.exists_stepReader signal hub
      have hserver := traced.supervisor.sent_stepReader signal hub
      simp only [Worker.step, work, hserver, hreader]
      rfl
  | supervisor number =>
      have hsteps := traced.steps signal hub
      cases hplace : traced.supervisor.place.written? with
      | none =>
          have hsent := (traced.supervisor.steps signal hub).sent_eq hplace
          rw [← supervisor_step traced signal hub] at hsent
          exact congrArg₂ (· + UInt64.ofNat ·) hsent (hsteps.counted_of_none hplace).symm
      | some buffer =>
          have hhub := Supervisor.hub_step_of_written? signal hub hplace
          have huncounted : traced.uncounted = 0 := Supervisor.Place.uncounted_of_written? hplace
          simp only [Worker.step, work]
          rw [hhub, huncounted, hsteps.counted_eq hfits hplace, UInt64.ofNat_add,
            show UInt64.ofNat 0 = 0 from rfl, UInt64.add_zero, UInt64.add_assoc,
            UInt64.add_comm (UInt64.ofNat _) (UInt64.ofNat traced.counted)]

end Traced

/-! ### Whole runs -/

namespace Traffic

/-- The traces with those of supervisors that have none yet. -/
def enroll (supervisors : List Supervisor) (traces : List Traced) : List Traced :=
  traces ++ (supervisors.drop traces.length).map Traced.ofSupervisor

omit [Audience ω] in
theorem enroll_append {supervisors : List Supervisor} {traces : List Traced}
    (htraces : traces.map Traced.supervisor = supervisors) (more : List Supervisor) :
    enroll (supervisors ++ more) traces = traces ++ more.map Traced.ofSupervisor := by
  have hlength : traces.length = supervisors.length := by rw [← htraces, List.length_map]
  rw [enroll, hlength, List.drop_left]

/-- The traces of all supervisors after one more move. -/
def note (traffic : Traffic ω) (traces : List Traced) : Move → List Traced
  | .work worker signal => traces.modify worker.number (Traced.work worker signal traffic.relay.hub)
  | move => enroll (traffic.move move).supervisors traces

/-- The traces of all supervisors after more moves. -/
def traces (traffic : Traffic ω) (traces : List Traced) : List Move → List Traced
  | [] => traces
  | move :: moves => Traffic.traces (traffic.move move) (traffic.note traces move) moves

@[simp]
theorem traces_nil (traffic : Traffic ω) (traces : List Traced) :
    traffic.traces traces [] = traces := rfl

theorem traces_concat (traffic : Traffic ω) (traces : List Traced) (moves : List Move)
    (move : Move) :
    traffic.traces traces (moves ++ [move]) =
      (traffic.run moves).note (traffic.traces traces moves) move := by
  induction moves generalizing traffic traces with
  | nil => rfl
  | cons first moves ih => exact ih (traffic.move first) (traffic.note traces first)

/-- What the traces are to the supervisors and the count of a run. -/
structure Tallies (traffic : Traffic ω) (traces : List Traced) : Prop where
  supervisors : traces.map Traced.supervisor = traffic.supervisors
  fits : ∀ traced ∈ traces, Traced.Fits [] traced
  sent : traffic.server.counters.sent + UInt64.ofNat (traces.map Traced.uncounted).sum =
    UInt64.ofNat (traces.map Traced.counted).sum

namespace Tallies

variable {traffic : Traffic ω} {traces : List Traced}

omit [Audience ω] in
/-- Nothing has happened to the supervisors. -/
theorem of_same (htallies : traffic.Tallies traces) {later : Traffic ω}
    (hsupervisors : later.supervisors = traffic.supervisors)
    (hsent : later.server.counters.sent = traffic.server.counters.sent) :
    later.Tallies traces where
  supervisors := htallies.supervisors.trans hsupervisors.symm
  fits := htallies.fits
  sent := by
    rw [hsent]
    exact htallies.sent

omit [Audience ω] in
/-- A supervisor has been started. -/
theorem concat (htallies : traffic.Tallies traces) {later : Traffic ω}
    (hsupervisors : later.supervisors = traffic.supervisors ++ [({} : Supervisor)])
    (hsent : later.server.counters.sent = traffic.server.counters.sent) :
    later.Tallies (traces ++ [({} : Traced)]) where
  supervisors := by
    rw [List.map_append, htallies.supervisors, hsupervisors]
    rfl
  fits := by
    intro traced htraced
    rcases List.mem_append.mp htraced with hmem | hlast
    · exact htallies.fits traced hmem
    · rw [List.mem_singleton.mp hlast]
      exact ⟨nofun, rfl, .inl nofun, rfl⟩
  sent := by
    rw [hsent, List.map_append, List.map_append, List.sum_append, List.sum_append]
    exact htallies.sent

omit [Audience ω] in
theorem getElem? (htallies : traffic.Tallies traces) {number : Nat} {traced : Traced}
    (htraced : traces[number]? = some traced) :
    traffic.supervisors[number]? = some traced.supervisor := by
  rw [← htallies.supervisors, List.getElem?_map, htraced]
  rfl

/-- A worker has done a step. -/
theorem set (htallies : traffic.Tallies traces) {worker : Worker} {traced : Traced}
    (htraced : traces[worker.number]? = some traced) (signal : Signal) :
    (traffic.move (.work worker signal)).Tallies
      (traces.set worker.number (traced.work worker signal traffic.relay.hub)) where
  supervisors := by
    rw [List.map_set, htallies.supervisors, supervisors_work signal (htallies.getElem? htraced),
      Traced.supervisor_work]
  fits := by
    intro other hother
    rcases List.mem_or_eq_of_mem_set hother with hmem | rfl
    · exact htallies.fits other hmem
    · exact (htallies.fits traced (List.mem_of_getElem? htraced)).work worker signal _
  sent := by
    have hstep := Traced.sent_work (htallies.fits traced (List.mem_of_getElem? htraced)) worker
      signal traffic.relay.hub
    have huncounted := congrArg UInt64.ofNat (Lists.sum_map_set Traced.uncounted
      (traced.work worker signal traffic.relay.hub) htraced)
    have hcounted := congrArg UInt64.ofNat (Lists.sum_map_set Traced.counted
      (traced.work worker signal traffic.relay.hub) htraced)
    have hsent := htallies.sent
    rw [UInt64.ofNat_add, UInt64.ofNat_add] at huncounted hcounted
    rw [server_work signal (htallies.getElem? htraced)]
    change _ = traffic.server.counters.sent + _ + _ at hstep
    grind

omit [Audience ω] in
/-- A call may start a supervisor, and counts nothing. -/
theorem enroll (htallies : traffic.Tallies traces) {later : Traffic ω}
    (hsupervisors : later.supervisors = traffic.supervisors ∨
      later.supervisors = traffic.supervisors ++ [({} : Supervisor)])
    (hsent : later.server.counters.sent = traffic.server.counters.sent) :
    later.Tallies (Traffic.enroll later.supervisors traces) := by
  rcases hsupervisors with hsame | hmore
  · have henroll := enroll_append htallies.supervisors []
    rw [List.append_nil, List.map_nil, List.append_nil] at henroll
    rw [hsame, henroll]
    exact htallies.of_same hsame hsent
  · rw [hmore, enroll_append htallies.supervisors]
    exact htallies.concat hmore hsent

theorem move (htallies : traffic.Tallies traces) (move : Move) :
    (traffic.move move).Tallies (traffic.note traces move) := by
  cases move with
  | begin operation => exact htallies.enroll (.inl rfl) rfl
  | resume number signal =>
      refine htallies.enroll ?_ ?_
      · cases hcall : traffic.calls[number]? with
        | none => exact .inl (by rw [move_resume_of_none signal hcall])
        | some call =>
            rw [supervisors_resume signal hcall]
            exact (Call.supervisors_step call signal traffic.relay).imp_right And.left
      · cases hcall : traffic.calls[number]? with
        | none => rw [move_resume_of_none signal hcall]
        | some call =>
            rw [server_resume signal hcall]
            exact call.sent_step signal traffic.relay
  | work worker signal =>
      simp only [note]
      cases htraced : traces[worker.number]? with
      | some traced =>
          rw [Lists.modify_of_getElem? _ htraced]
          exact htallies.set htraced signal
      | none =>
          have hnone : traffic.supervisors[worker.number]? = none := by
            rw [← htallies.supervisors, List.getElem?_map, htraced]
            rfl
          rw [List.modify_eq_self (List.getElem?_eq_none_iff.mp htraced),
            move_work_of_none signal hnone]
          exact htallies

end Tallies

theorem tallies_run (world : ω) (moves : List Move) :
    ((atRest world).run moves).Tallies ((atRest world).traces [] moves) := by
  induction moves using List.reverseRecOn with
  | nil => exact ⟨rfl, fun _ habsurd => absurd habsurd List.not_mem_nil, rfl⟩
  | append_singleton moves move ih =>
      rw [run_concat, traces_concat]
      exact ih.move move

/-- **Writes and the count of bytes sent are exact.** Any bytes can stand in a buffer, and the
socket fails on a mishap just when it is not worth another try. Whatever a supervisor that begins to
write a buffer finds and hears in its turns, this write and the socket agree, and until it returns
every turn is a contact of it. In a run of any moves all writes of all supervisors are like that. The
writes of a supervisor together are what its socket took, and only the last of them can have failed
or be under way. The server's count of bytes sent, with what has been returned and is about to be
counted, is what the sockets took in the writes that returned a number. -/
theorem writes_exact (world : ω) (moves : List Move) :
    (∀ data, ∃ buffer : Pool.Buffer, buffer.appendTo [] = data) ∧
    (∀ mishap, (Signal.ofMishap mishap).fails = !mishap.kind.isRetryable) ∧
    (∀ (supervisor : Supervisor) (buffer : Pool.Buffer) (turns : List (Signal × Hub ω)),
      ∃ write later, ((Traced.ofWrite supervisor buffer).run turns).writes = write :: later ∧
        write.data = buffer.appendTo [] ∧ write.Exact ∧
        (write.verdict = .underWay → write.contacts.length = turns.length)) ∧
    let traffic := (atRest world).run moves
    let traces := (atRest world).traces [] moves
    traces.map Traced.supervisor = traffic.supervisors ∧
    (∀ traced ∈ traces,
      (∀ write ∈ traced.writes, write.Exact) ∧
      (∀ write ∈ traced.writes.dropLast, ∃ count, write.verdict = .sent count) ∧
      traced.supervisor.sent = traced.writes.flatMap Write.accepted) ∧
    traffic.server.counters.sent + UInt64.ofNat (traces.map Traced.uncounted).sum =
      UInt64.ofNat (traces.map Traced.counted).sum := by
  have htallies := tallies_run world moves
  refine ⟨fun data => ?_, Signal.fails_ofMishap, Traced.run_ofWrite, htallies.supervisors, ?_,
    htallies.sent⟩
  · exact ⟨((Pool.Buffer.ofKind .ushort).fill data).2, Pool.Buffer.bytes_fill data rfl⟩
  · intro traced htraced
    have hfits := htallies.fits traced htraced
    exact ⟨hfits.exact, hfits.sent_dropLast, hfits.sent_eq⟩

example :
    let buffer := ((Pool.Buffer.ofKind .ushort).fill [1, 2, 3]).2
    let hub : Hub Unit := { server := { phase := .serving }, world := () }
    ((Traced.ofWrite {} buffer).run [(.nothing, hub), (.took 2, hub), (.nothing, hub),
      (.nothing, hub), (.nothing, hub), (.took 1, hub), (.nothing, hub)]).writes =
        [{ data := [1, 2, 3]
           contacts := [.look true, .offer [1, 2, 3] (.took 2), .look true, .offer [3] .nothing,
             .look true, .offer [3] (.took 1)]
           verdict := .sent 3 }] := rfl

end Traffic

end Relay

end TunerRelay
