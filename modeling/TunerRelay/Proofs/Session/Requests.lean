import Mathlib
import TunerRelay.Proofs.Relay.Moves
import TunerRelay.Session.Course

/-!
# What reaches the receiver

Whoever takes a step, it comes to one request of the receiver at most, and capturing leaves its
settings alone. What all requests keep, every course of sessions keeps.
-/

namespace TunerRelay

/-! ### Observers -/

namespace Relay

variable {ω : Type} [Audience ω]

/-- What a section does to the world of the observers: at most one of them acts. -/
inductive Hub.Affects (world : ω) : ω → Prop where
  | stay : Affects world world
  | hear (observer : Nat) (record : Wire.Record) :
    Affects world (Audience.hear observer record world).2
  | leave (observer : Nat) : Affects world (Audience.leave observer world)

open Hub (Affects)

theorem Hub.affects_dismiss (hub : Hub ω) (observer : Nat) :
    Affects hub.world (hub.dismiss observer).world := by
  unfold Hub.dismiss
  simp only
  split
  · exact .leave observer
  · exact .stay

theorem Hub.world_hear (hub : Hub ω) (observer : Nat) (record : Wire.Record) :
    (hub.hear observer record).world = (Audience.hear observer record hub.world).2 := by
  unfold hear
  simp only
  split <;> rfl

/-! Only an observer that acts changes their common world. -/

theorem Reader.world_step {reader : Reader} (observer : Nat) (signal : Signal) (hub : Hub ω)
    (hplace : ∀ record, reader.place ≠ .acting record) :
    (reader.step observer signal hub).2.world = hub.world := by
  obtain ⟨place, received, records⟩ := reader
  cases place with
  | receiving piece => cases signal <;> rfl
  | acting record => exact absurd rfl (hplace record)
  | _ => rfl

theorem Reader.affects_step (reader : Reader) (observer : Nat) (signal : Signal) (hub : Hub ω) :
    Affects hub.world (reader.step observer signal hub).2.world := by
  by_cases hacting : ∃ record, reader.place = .acting record
  · obtain ⟨record, hplace⟩ := hacting
    simp only [step, hplace, Hub.world_hear]
    exact .hear observer record
  · rw [reader.world_step observer signal hub fun record hplace => hacting ⟨record, hplace⟩]
    exact .stay

theorem Supervisor.world_step {supervisor : Supervisor} (signal : Signal) (hub : Hub ω)
    (hplace : ∀ observer, supervisor.place ≠ .leaving observer) :
    (supervisor.step signal hub).2.world = hub.world := by
  obtain ⟨place, observer, session, connection, reader, sent⟩ := supervisor
  cases place with
  | accepting | splitting => cases signal <;> rfl
  | registering connection =>
      simp only [step, register]
      split <;> rfl
  | entering =>
      simp only [step, enter]
      split <;> rfl
  | spawning =>
      simp only [step, spawn]
      split <;> rfl
  | fetching => cases session <;> rfl
  | writing buffer offset =>
      simp only [step]
      split
      · rfl
      · split <;> rfl
  | returning buffer result => cases session <;> rfl
  | notifying => cases observer <;> rfl
  | leaving observer => exact absurd rfl (hplace observer)
  | _ => rfl

theorem Supervisor.affects_step (supervisor : Supervisor) (signal : Signal) (hub : Hub ω) :
    Affects hub.world (supervisor.step signal hub).2.world := by
  by_cases hleaving : ∃ observer, supervisor.place = .leaving observer
  · obtain ⟨observer, hplace⟩ := hleaving
    simp only [step, hplace]
    exact .leave observer
  · rw [supervisor.world_step signal hub fun observer hplace => hleaving ⟨observer, hplace⟩]
    exact .stay

theorem affects_work (relay : Relay ω) (worker : Worker) (signal : Signal) :
    Affects relay.hub.world (relay.work worker signal).hub.world := by
  unfold work
  split
  · exact .stay
  · rename_i supervisor hsupervisor
    cases worker with
    | supervisor number => exact supervisor.affects_step signal relay.hub
    | reader number =>
        simp only [Supervisor.stepReader]
        split
        · exact Reader.affects_step _ _ signal relay.hub
        · exact .stay

theorem Call.world_step {call : Call} (signal : Signal) (relay : Relay ω)
    (hcall : ∀ observer fault, call ≠ .excusing observer fault) :
    (call.step signal relay).2.hub.world = relay.hub.world := by
  cases call with
  | staging address port header =>
      simp only [step, stage]
      split <;> rfl
  | binding | preparing | launching => cases signal <;> rfl
  | listening endpoint =>
      simp only [step, listen]
      split <;> rfl
  | engaging observer =>
      simp only [step, engage]
      split <;> rfl
  | excusing observer fault => exact absurd rfl (hcall observer fault)
  | glancing | collecting =>
      simp only [step]
      split <;> rfl
  | feeding bytes =>
      simp only [step, feed]
      split <;> rfl
  | _ => rfl

theorem Call.affects_step (call : Call) (signal : Signal) (relay : Relay ω) :
    Affects relay.hub.world (call.step signal relay).2.hub.world := by
  by_cases hexcusing : ∃ observer fault, call = .excusing observer fault
  · obtain ⟨observer, fault, rfl⟩ := hexcusing
    exact relay.hub.affects_dismiss observer
  · rw [call.world_step signal relay fun observer fault hcall => hexcusing ⟨observer, fault, hcall⟩]
    exact .stay

end Relay

/-! ### Requests -/

namespace Session

open TunerRelay.Device (Request Tuner)
open TunerRelay.Relay.Hub (Affects)

section Asking

variable {σ : Type} [Tuner σ]

/-- What a step of anybody does to the receiver: it makes a request or none. -/
inductive Asked (device : σ) : σ → Prop where
  | stay : Asked device device
  | request (request : Request) : Asked device (Tuner.perform request device).2

theorem asked_of_affects {world next : Adapters σ} (haffects : Affects world next) :
    Asked world.device next.device := by
  cases haffects with
  | stay => exact .stay
  | hear observer record =>
      have hreact : Asked world.device (world.react record).2.device := by
        unfold Adapters.react
        split
        · exact .request _
        · exact .stay
        · exact .stay
      exact hreact
  | leave observer => exact .request .cancel

theorem asked_perform (setup : Setup) (device : σ) : Asked device (setup.perform device).2 := by
  unfold Setup.perform
  split
  · exact .stay
  · exact .request _

theorem asked_stepCall (signal : Signal) (call : Relay.Call) (service : Service σ) :
    Asked service.device (stepCall signal call service).2.device :=
  asked_of_affects (call.affects_step signal.relaySignal service.relay)

omit [Tuner σ] in
theorem device_afterOpening (call : Relay.Call) (service : Service σ) :
    (afterOpening call service).2.device = service.device := by
  unfold afterOpening
  split <;> rfl

omit [Tuner σ] in
theorem device_deactivate (world : Adapters σ) (adapter : Nat) :
    (world.deactivate adapter).device = world.device := by
  unfold Adapters.deactivate
  split <;> rfl

theorem asked_step (arguments : Arguments) (signal : Signal) (place : Place) (service : Service σ) :
    Asked service.device (step arguments signal place service).2.device := by
  cases place with
  | configuring rest =>
      cases rest with
      | nil => exact .stay
      | cons setup rest =>
          simp only [step, configure]
          split <;> exact asked_perform setup service.device
  | opening call =>
      simp only [step]
      rw [device_afterOpening]
      exact asked_stepCall signal call service
  | engaging adapter call => exact asked_stepCall signal call service
  | joining call streamed => exact asked_stepCall signal call service
  | starting adapter =>
      simp only [step]
      split <;> rename_i hrequest
      all_goals
        have hdevice := congrArg (fun answered => answered.2.device) hrequest
        exact hdevice ▸ .request .stream
  | streaming adapter => cases signal <;> exact .stay
  | deactivating adapter streamed =>
      have hsame := device_deactivate service.relay.hub.world adapter
      exact (congrArg (Asked service.device) hsame).mpr .stay
  | withdrawing adapter failure =>
      have hsame := device_deactivate service.relay.hub.world adapter
      exact (congrArg (Asked service.device) hsame).mpr .stay
  | closing | releasing => exact .request .close
  | _ => exact .stay

end Asking

/-- What a step does to a receiver that captures: it makes a request, goes on capturing, or does
nothing. -/
inductive Concerns (receiver : Receiver) : Receiver → Prop where
  | stay : Concerns receiver receiver
  | request (request : Request) : Concerns receiver (receiver.perform request).2
  | capture (place : Receiver.Place) (signal : Receiver.Signal) :
    Concerns receiver (Receiver.Capture.step signal { place, receiver }).receiver

theorem Asked.concerns {receiver next : Receiver} (hasked : Asked receiver next) :
    Concerns receiver next := by
  cases hasked with
  | stay => exact .stay
  | request request => exact .request request

namespace Course

theorem concerns_move (course : Course) (move : Move) :
    Concerns course.receiver (course.move move).receiver := by
  cases move with
  | begin arguments =>
      simp only [Course.move]
      split <;> exact .stay
  | advance signal =>
      simp only [Course.move, advance]
      split
      · exact .stay
      · exact (asked_step _ _ _ course.service).concerns
  | capture signal => exact .capture course.capture signal
  | cancel => exact .request .cancel
  | work worker signal =>
      exact (asked_of_affects (course.service.relay.affects_work worker signal)).concerns
  | call operation => exact .stay
  | resume number signal =>
      simp only [Course.move, resume]
      split
      · exact .stay
      · exact (asked_of_affects (Relay.Call.affects_step _ signal course.service.relay)).concerns
  | markClose => exact .stay

theorem run_concat (course : Course) (moves : List Move) (move : Move) :
    course.run (moves ++ [move]) = (course.run moves).move move :=
  List.foldl_append

/-- What no step takes from the receiver, no run does. -/
theorem run_induction (property : Receiver → Prop)
    (hkept : ∀ receiver next, Concerns receiver next → property receiver → property next)
    {course : Course} (hstart : property course.receiver) (moves : List Move) :
    property (course.run moves).receiver := by
  induction moves using List.reverseRecOn with
  | nil => exact hstart
  | append_singleton moves move ih =>
      rw [run_concat]
      exact hkept _ _ (concerns_move _ move) ih

end Course

end Session

end TunerRelay
