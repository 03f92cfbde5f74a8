import TunerRelay.Device.Logged
import TunerRelay.Proofs.Relay.Reports
import TunerRelay.Proofs.Session.Requests
import TunerRelay.Proofs.Session.Stages

/-!
# Between looking and acting

An observer looks whether it still cares before it acts, and nothing keeps the two together. A thread
whose observer has looked intends to act, whatever becomes of the observer in between. Where no observer
cares any more, nobody comes to intend anything: what is still carried out was intended before.
-/

namespace TunerRelay

/-- Whether an observer turns to the receiver with this record. With a command to end the session it
does not. -/
def Wire.Record.isForReceiver (record : Record) : Bool :=
  match record.command? with
  | none | some .exit => false
  | some _ => true

namespace Relay

/-- How often the observer is about to turn to the receiver on behalf of this thread. -/
def Reader.intents (reader : Reader) : Nat :=
  match reader.place with
  | .acting record => if record.isForReceiver then 1 else 0
  | _ => 0

def Supervisor.Place.intents : Place → Nat
  | .leaving _ => 1
  | _ => 0

/-- The intents of a supervisor and of its reader. -/
def Supervisor.intents (supervisor : Supervisor) : Nat :=
  supervisor.place.intents + supervisor.reader.elim 0 Reader.intents

/-- The intents that a step of a worker carries out. -/
def Worker.carriesOut (supervisor : Supervisor) : Worker → Nat
  | .supervisor _ => supervisor.place.intents
  | .reader _ =>
    match supervisor.reader, supervisor.observer with
    | some thread, some _ => thread.intents
    | _, _ => 0

variable {ω : Type}

def intents (relay : Relay ω) : Nat := (relay.supervisors.map Supervisor.intents).sum

def carriesOut (worker : Worker) (relay : Relay ω) : Nat :=
  relay.supervisors[worker.number]?.elim 0 worker.carriesOut

/-! ### One supervisor -/

theorem Reader.intents_le_one (reader : Reader) : reader.intents ≤ 1 := by
  unfold intents
  split
  · split
    · exact Nat.le_refl 1
    · exact Nat.zero_le 1
  · exact Nat.zero_le 1

namespace Supervisor

theorem Place.intents_le_one (place : Place) : place.intents ≤ 1 := by
  cases place with
  | leaving observer => exact Nat.le_refl 1
  | _ => exact Nat.zero_le 1

theorem Place.intents_of_isAttending {place : Place} (hattending : place.isAttending = true) :
    place.intents = 0 := by
  cases place with
  | leaving observer => cases hattending
  | _ => rfl

variable {supervisor next : Supervisor} {server later : Server}

theorem readerIntents_of_readerIsEnded (hended : supervisor.readerIsEnded = true) :
    supervisor.reader.elim 0 Reader.intents = 0 := by
  cases hreader : supervisor.reader with
  | none => rfl
  | some reader =>
      have hplace : reader.place = .ended := by
        simpa [readerIsEnded, hreader, Reader.isEnded] using hended
      rw [Option.elim_some, Reader.intents, hplace]

/-- A reader ends before its supervisor leaves, so that only one of the two intends anything. -/
theorem Tended.intents_le_one (htended : supervisor.Tended) : supervisor.intents ≤ 1 := by
  unfold intents
  rcases htended with hended | ⟨hattending, -⟩
  · rw [readerIntents_of_readerIsEnded hended, Nat.add_zero]
    exact supervisor.place.intents_le_one
  · rw [Place.intents_of_isAttending hattending, Nat.zero_add]
    cases supervisor.reader with
    | none => exact Nat.zero_le 1
    | some reader => exact reader.intents_le_one

theorem Tended.intents_of_ended (htended : supervisor.Tended) (hplace : supervisor.place = .ended) :
    supervisor.intents = 0 := by
  have hended : supervisor.readerIsEnded = true := by
    refine htended.resolve_right fun hattending => ?_
    rw [hplace] at hattending
    cases hattending.1
  rw [intents, readerIntents_of_readerIsEnded hended, hplace]
  rfl

theorem Place.Leads.intents_eq {session : Option Nat} {place after : Place}
    (hleads : place.Leads session server after later) (hplace : place ≠ .notifying) :
    after.intents = 0 := by
  cases hleads with
  | inform => exact absurd rfl hplace
  | _ => rfl

theorem Steps.intents_place (hsteps : supervisor.Steps server next later)
    (hplace : supervisor.place ≠ .notifying) : next.place.intents = 0 := by
  cases hsteps with
  | walk hleads => exact hleads.intents_eq hplace
  | register hregistering hadmitted hnext => rcases hnext with rfl | rfl <;> rfl
  | _ => rfl

/-- A supervisor does not change what its reader intends. The reader that it starts intends nothing. -/
theorem Steps.readerIntents_eq (hsteps : supervisor.Steps server next later)
    (htended : supervisor.Tended) :
    next.reader.elim 0 Reader.intents = supervisor.reader.elim 0 Reader.intents := by
  cases hsteps with
  | staff hplace hobserver =>
      have hended : supervisor.readerIsEnded = true := by
        refine htended.resolve_right fun hattending => ?_
        rw [hplace] at hattending
        cases hattending.1
      exact (readerIntents_of_readerIsEnded hended).symm
  | _ => rfl

end Supervisor

/-! ### Steps without attention -/

variable [Audience ω]

/-- None of the observers of this supervisor cares. -/
def Supervisor.Unheeded (hub : Hub ω) (supervisor : Supervisor) : Prop :=
  ∀ observer, supervisor.observer = some observer → hub.attends observer = false

theorem Reader.intents_step (reader : Reader) {observer : Nat} (signal : Signal) {hub : Hub ω}
    (hunheeded : hub.attends observer = false) : (reader.step observer signal hub).1.intents = 0 := by
  obtain ⟨place, received, records⟩ := reader
  cases place with
  | idle =>
      simp only [step, goTo]
      split <;> rfl
  | assembling piece =>
      simp only [step, goTo, assemble]
      split
      · rfl
      · split <;> rfl
  | receiving piece => cases signal <;> rfl
  | judging record =>
      simp only [step, goTo]
      split <;> rfl
  | handing record =>
      simp only [step, hunheeded]
      rfl
  | halting | counting | acting | ended => rfl

theorem Supervisor.intents_place_step {supervisor : Supervisor} (signal : Signal) {hub : Hub ω}
    (hunheeded : supervisor.Unheeded hub) : (supervisor.step signal hub).1.place.intents = 0 := by
  by_cases hplace : supervisor.place = .notifying
  · simp only [step, hplace, notify]
    cases hobserver : supervisor.observer with
    | none => rfl
    | some observer =>
        simp only [goTo, hunheeded observer hobserver]
        rfl
  · exact (supervisor.steps signal hub).intents_place hplace

/-- What a worker carries out was intended, and nothing else comes to be intended. -/
theorem Worker.intents_step (worker : Worker) (signal : Signal) {supervisor : Supervisor}
    {hub : Hub ω} (htended : supervisor.Tended) (hunheeded : supervisor.Unheeded hub) :
    worker.carriesOut supervisor + (worker.step signal supervisor hub).1.intents =
      supervisor.intents := by
  cases worker with
  | supervisor number =>
      have hreader := (supervisor.steps signal hub).readerIntents_eq htended
      have hplace := Supervisor.intents_place_step signal hunheeded
      calc supervisor.place.intents + (supervisor.step signal hub).1.intents
          = supervisor.place.intents + (0 + supervisor.reader.elim 0 Reader.intents) := by
            rw [Supervisor.intents, hplace, hreader]
        _ = supervisor.intents := by rw [Nat.zero_add, Supervisor.intents]
  | reader number =>
      simp only [carriesOut, step, Supervisor.stepReader]
      cases hreader : supervisor.reader with
      | none => exact Nat.zero_add _
      | some reader =>
          cases hobserver : supervisor.observer with
          | none => exact Nat.zero_add _
          | some observer =>
              have hnone := reader.intents_step signal (hunheeded observer hobserver)
              simp only [Supervisor.intents, hreader, Option.elim_some, hnone]
              omega

/-! ### All of them -/

theorem intents_work {relay : Relay ω} (hkept : relay.Kept)
    (hunheeded : ∀ supervisor ∈ relay.supervisors, supervisor.Unheeded relay.hub)
    (worker : Worker) (signal : Signal) :
    relay.carriesOut worker + (relay.work worker signal).intents = relay.intents := by
  cases hsupervisor : relay.supervisors[worker.number]? with
  | none =>
      rw [work_eq_of_none signal hsupervisor, carriesOut, hsupervisor]
      exact Nat.zero_add _
  | some supervisor =>
      have hmem := List.mem_of_getElem? hsupervisor
      have hsum := Lists.sum_map_set Supervisor.intents
        (worker.step signal supervisor relay.hub).1 hsupervisor
      have hstep := worker.intents_step signal (hkept.tended supervisor hmem)
        (hunheeded supervisor hmem)
      rw [work_eq signal hsupervisor, carriesOut, hsupervisor, Option.elim_some]
      change worker.carriesOut supervisor + ((relay.supervisors.set worker.number
        (worker.step signal supervisor relay.hub).1).map Supervisor.intents).sum =
          (relay.supervisors.map Supervisor.intents).sum
      omega

omit [Audience ω] in
theorem IsOver.intents_eq {relay : Relay ω} (hover : relay.IsOver) (hkept : relay.Kept) :
    relay.intents = 0 := by
  refine List.sum_eq_zero fun count hcount => ?_
  obtain ⟨supervisor, hmem, rfl⟩ := List.mem_map.mp hcount
  exact (hkept.tended supervisor hmem).intents_of_ended (hover supervisor hmem)

omit [Audience ω] in
theorem Attends.intents_le_one {relay : Relay ω} {number : Nat} (hattends : relay.Attends number)
    (hkept : relay.Kept) : relay.intents ≤ 1 := by
  have hlt : number < relay.supervisors.length := hattends.length_eq ▸ Nat.lt_succ_self number
  have hlast := List.getElem?_eq_getElem hlt
  have hsum := Lists.sum_map_set Supervisor.intents ({} : Supervisor) hlast
  -- With the last supervisor put back to its start, none intends anything.
  have hothers : ((relay.supervisors.set number {}).map Supervisor.intents).sum = 0 := by
    refine List.sum_eq_zero fun count hcount => ?_
    obtain ⟨supervisor, hmem, rfl⟩ := List.mem_map.mp hcount
    obtain ⟨other, hother⟩ := List.getElem?_of_mem hmem
    by_cases hself : number = other
    · subst hself
      rw [List.getElem?_set_self hlt] at hother
      obtain rfl := Option.some.inj hother
      rfl
    · rw [List.getElem?_set_ne hself] at hother
      obtain ⟨hbound, -⟩ := List.getElem?_eq_some_iff.mp hother
      have hless : other < number := by
        rw [hattends.length_eq] at hbound
        omega
      have htended := hkept.tended supervisor (List.mem_of_getElem? hother)
      exact htended.intents_of_ended (hattends.ended other supervisor hless hother)
  have hone := (hkept.tended _ (List.getElem_mem hlt)).intents_le_one
  have hnew : ({} : Supervisor).intents = 0 := rfl
  rw [intents]
  omega

omit [Audience ω] in
/-- What is intended can be carried out at once. -/
theorem Kept.exists_carriesOut {relay : Relay ω} (hkept : relay.Kept) (hintents : 0 < relay.intents) :
    ∃ worker, 0 < relay.carriesOut worker := by
  have hsome : ∃ supervisor ∈ relay.supervisors, supervisor.intents ≠ 0 := by
    by_contra hnone
    push Not at hnone
    refine hintents.ne' (List.sum_eq_zero fun count hcount => ?_)
    obtain ⟨supervisor, hmem, rfl⟩ := List.mem_map.mp hcount
    exact hnone supervisor hmem
  obtain ⟨supervisor, hmem, hpositive⟩ := hsome
  obtain ⟨number, hnumber⟩ := List.getElem?_of_mem hmem
  rcases hkept.tended supervisor hmem with hended | ⟨-, hobserver⟩
  · refine ⟨.supervisor number, ?_⟩
    rw [Supervisor.intents, Supervisor.readerIntents_of_readerIsEnded hended] at hpositive
    simp only [carriesOut, Worker.number, hnumber, Option.elim_some, Worker.carriesOut]
    omega
  · by_cases hplace : supervisor.place.intents = 0
    · refine ⟨.reader number, ?_⟩
      obtain ⟨observer, hobserver⟩ := Option.isSome_iff_exists.mp hobserver
      cases hreader : supervisor.reader with
      | none => simp [Supervisor.intents, hplace, hreader] at hpositive
      | some reader =>
          have hreads : reader.intents ≠ 0 := by
            simpa [Supervisor.intents, hplace, hreader] using hpositive
          simp only [carriesOut, Worker.number, hnumber, Option.elim_some, Worker.carriesOut, hreader,
            hobserver]
          omega
    · refine ⟨.supervisor number, ?_⟩
      simp only [carriesOut, Worker.number, hnumber, Option.elim_some, Worker.carriesOut]
      omega

end Relay

/-! ### What is asked of the receiver -/

open TunerRelay.Device (Tuner Request Logged)

theorem Adapter.Reaction.isForReceiver_of_request {gains : List Int32} {record : Wire.Record}
    {request : Request} (hreaction : ofRecord gains record = .request request) :
    record.isForReceiver = true := by
  unfold ofRecord at hreaction
  unfold Wire.Record.isForReceiver
  split at hreaction
  · rename_i command hcommand
    rw [hcommand]
    cases command with
    | exit => cases hreaction
    | _ => rfl
  · cases hreaction

namespace Adapters

variable {τ : Type}

/-- The receiver has got so many requests more, at most. -/
def Asks (world : Adapters (Logged τ)) (bound : Nat) (next : Adapters (Logged τ)) : Prop :=
  ∃ late, next.device.requests = world.device.requests ++ late ∧ late.length ≤ bound

theorem asks_same {world next : Adapters (Logged τ)} (hsame : next = world) (bound : Nat) :
    world.Asks bound next :=
  ⟨[], by rw [hsame, List.append_nil], Nat.zero_le bound⟩

theorem Asks.trans {world next last : Adapters (Logged τ)} {first second : Nat}
    (hfirst : world.Asks first next) (hsecond : next.Asks second last) :
    world.Asks (first + second) last := by
  obtain ⟨early, hearly, hlength⟩ := hfirst
  obtain ⟨late, hlate, hrest⟩ := hsecond
  refine ⟨early ++ late, ?_, ?_⟩
  · rw [hlate, hearly, List.append_assoc]
  · rw [List.length_append]
    exact Nat.add_le_add hlength hrest

variable [Tuner τ]

theorem asks_request (world : Adapters (Logged τ)) (request : Request) :
    world.Asks 1 (world.request request).2 :=
  ⟨[request], rfl, Nat.le_refl 1⟩

theorem asks_react (world : Adapters (Logged τ)) (record : Wire.Record) :
    world.Asks (if record.isForReceiver then 1 else 0) (world.react record).2 := by
  cases hreaction : Adapter.Reaction.ofRecord (Tuner.gains world.device) record with
  | request request =>
      simp only [react, hreaction, Adapter.Reaction.isForReceiver_of_request hreaction, if_true]
      exact world.asks_request request
  | stop | nothing =>
      simp only [react, hreaction]
      exact asks_same rfl _

end Adapters

namespace Relay

variable {τ : Type} [Tuner τ]

theorem Reader.asks_step (reader : Reader) (observer : Nat) (signal : Signal)
    (hub : Hub (Adapters (Logged τ))) :
    hub.world.Asks reader.intents (reader.step observer signal hub).2.world := by
  by_cases hacting : ∃ record, reader.place = .acting record
  · obtain ⟨record, hplace⟩ := hacting
    simp only [step, intents, hplace, Hub.world_hear]
    exact hub.world.asks_react record
  · refine Adapters.asks_same (reader.world_step observer signal hub fun record hplace => ?_) _
    exact hacting ⟨record, hplace⟩

/-- A worker asks the receiver for no more than it carries out. -/
theorem Worker.asks_step (worker : Worker) (signal : Signal) (supervisor : Supervisor)
    (hub : Hub (Adapters (Logged τ))) :
    hub.world.Asks (worker.carriesOut supervisor) (worker.step signal supervisor hub).2.world := by
  cases worker with
  | supervisor number =>
      by_cases hleaving : ∃ observer, supervisor.place = .leaving observer
      · obtain ⟨observer, hplace⟩ := hleaving
        simp only [carriesOut, step, Supervisor.step, hplace]
        exact hub.world.asks_request .cancel
      · refine Adapters.asks_same (supervisor.world_step signal hub fun observer hplace => ?_) _
        exact hleaving ⟨observer, hplace⟩
  | reader number =>
      simp only [carriesOut, step, Supervisor.stepReader]
      cases hreader : supervisor.reader with
      | none => exact Adapters.asks_same rfl _
      | some reader =>
          cases hobserver : supervisor.observer with
          | none => exact Adapters.asks_same rfl _
          | some observer => exact reader.asks_step observer signal hub

theorem asks_work (relay : Relay (Adapters (Logged τ))) (worker : Worker) (signal : Signal) :
    relay.hub.world.Asks (relay.carriesOut worker) (relay.work worker signal).hub.world := by
  cases hsupervisor : relay.supervisors[worker.number]? with
  | none =>
      rw [work_eq_of_none signal hsupervisor]
      exact Adapters.asks_same rfl _
  | some supervisor =>
      rw [work_eq signal hsupervisor, carriesOut, hsupervisor]
      exact worker.asks_step signal supervisor relay.hub

end Relay

end TunerRelay
