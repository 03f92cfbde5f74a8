import TunerRelay.Proofs.Relay.Moves

/-!
# Supervisors and their readers

A supervisor is under way until it has closed the server. Its reader ends while it attends to the
client, so that once it is no longer under way neither of the two touches the server again.
-/

namespace TunerRelay

namespace Relay

variable {ω : Type} [Audience ω]

/-- Whether the supervisor has yet to close the server. -/
def Supervisor.Place.isUnderWay : Supervisor.Place → Bool
  | .notifying | .leaving _ | .ended => false
  | _ => true

/-- Whether the supervisor has begun to serve its client and not yet waited for the reader. -/
def Supervisor.Place.isAttending : Supervisor.Place → Bool
  | .idle | .fetching | .writing _ _ | .offering _ _ | .returning _ _ | .counting _ | .halting
  | .joining => true
  | _ => false

def Supervisor.isUnderWay (supervisor : Supervisor) : Bool := supervisor.place.isUnderWay

/-- Only the supervisor of an observer has a reader, which ends while the client is attended to. -/
def Supervisor.Tended (supervisor : Supervisor) : Prop :=
  supervisor.readerIsEnded = true ∨
    supervisor.place.isAttending = true ∧ supervisor.observer.isSome = true

theorem Supervisor.isUnderWay_of_isAttending {supervisor : Supervisor}
    (hattending : supervisor.place.isAttending = true) : supervisor.isUnderWay = true := by
  unfold isUnderWay
  cases hplace : supervisor.place <;> simp_all [Place.isAttending, Place.isUnderWay]

/-! ### What a worker does to its supervisor -/

theorem Reader.isEnded_step (observer : Nat) (signal : Signal) {reader : Reader} (hub : Hub ω)
    (hended : reader.isEnded = true) : reader.step observer signal hub = (reader, hub) := by
  have hplace : reader.place = .ended := by simpa [isEnded] using hended
  simp [step, hplace]

theorem Supervisor.stepReader_of_readerIsEnded {supervisor : Supervisor} (signal : Signal)
    (hub : Hub ω) (hended : supervisor.readerIsEnded = true) :
    supervisor.stepReader signal hub = (supervisor, hub) := by
  unfold stepReader
  split
  · rename_i reader observer hreader hobserver
    have hreaderEnded : reader.isEnded = true := by simpa [readerIsEnded, hreader] using hended
    rw [Reader.isEnded_step observer signal hub hreaderEnded]
    simp [← hreader]
  · rfl

theorem Supervisor.exists_stepReader (supervisor : Supervisor) (signal : Signal) (hub : Hub ω) :
    ∃ reader, (supervisor.stepReader signal hub).1 = { supervisor with reader } := by
  unfold stepReader
  split
  · exact ⟨_, rfl⟩
  · exact ⟨supervisor.reader, rfl⟩

theorem Supervisor.place_stepReader (supervisor : Supervisor) (signal : Signal) (hub : Hub ω) :
    (supervisor.stepReader signal hub).1.place = supervisor.place := by
  obtain ⟨reader, hsame⟩ := supervisor.exists_stepReader signal hub
  rw [hsame]

theorem Supervisor.Place.Leads.isAttending {session : Option Nat} {server next : Server}
    {place later : Place} (hleads : place.Leads session server later next)
    (hattending : place.isAttending = true) : later.isAttending = true := by
  cases hleads with
  | giveUp place hplace =>
      cases place <;>
        first
          | exact absurd hattending Bool.false_ne_true
          | exact absurd hplace Bool.false_ne_true
  | goOn | stop | skip | fetchNothing | fetch | offer | finish | offerAgain | fail | giveBack | drop
  | count | halt | linger => rfl
  | _ => cases hattending

theorem Supervisor.Steps.tended {supervisor later : Supervisor} {server next : Server}
    (hsteps : supervisor.Steps server later next) (htended : supervisor.Tended) :
    later.Tended := by
  cases hsteps with
  | note hplace =>
      refine htended.imp id fun hattending => ?_
      rw [hplace] at hattending
      cases hattending.1
  | walk hleads =>
      exact htended.imp id fun hattending => ⟨hleads.isAttending hattending.1, hattending.2⟩
  | register hplace =>
      refine htended.imp id fun hattending => ?_
      rw [hplace] at hattending
      cases hattending.1
  | staff hplace hobserver => exact Or.inr ⟨rfl, hobserver⟩
  | send count hplace => exact htended.imp id fun hattending => ⟨rfl, hattending.2⟩
  | join hplace hended => exact Or.inl hended

theorem Supervisor.tended_stepReader {supervisor : Supervisor} (signal : Signal)
    (hub : Hub ω) (htended : supervisor.Tended) :
    (supervisor.stepReader signal hub).1.Tended := by
  rcases htended with hended | ⟨hattending, hobserver⟩
  · rw [stepReader_of_readerIsEnded signal hub hended]
    exact Or.inl hended
  · right
    refine ⟨?_, ?_⟩
    · rw [place_stepReader]
      exact hattending
    · unfold stepReader
      split <;> exact hobserver

theorem Worker.tended_step {supervisor : Supervisor} (worker : Worker) (signal : Signal)
    (hub : Hub ω) (htended : supervisor.Tended) : (worker.step signal supervisor hub).1.Tended := by
  cases worker with
  | supervisor number => exact (supervisor.steps signal hub).tended htended
  | reader number => exact Supervisor.tended_stepReader signal hub htended

/-- Once it has closed the server, neither a supervisor nor its reader touches it again. -/
theorem Worker.step_of_not_isUnderWay {supervisor : Supervisor} (worker : Worker)
    (signal : Signal) (hub : Hub ω) (htended : supervisor.Tended)
    (hdone : supervisor.isUnderWay = false) :
    (worker.step signal supervisor hub).2.server = hub.server ∧
      (worker.step signal supervisor hub).1.isUnderWay = false := by
  have hended : supervisor.readerIsEnded = true := by
    refine htended.resolve_right ?_
    intro hattending
    rw [Supervisor.isUnderWay_of_isAttending hattending.1] at hdone
    cases hdone
  cases worker with
  | reader number =>
      simp only [Worker.step]
      rw [Supervisor.stepReader_of_readerIsEnded signal hub hended]
      exact ⟨rfl, hdone⟩
  | supervisor number =>
      obtain ⟨place, observer, epoch, connection, reader, sent⟩ := supervisor
      cases place with
      | notifying =>
          simp only [Worker.step, Supervisor.step, Supervisor.notify]
          split
          · exact ⟨rfl, rfl⟩
          · refine ⟨rfl, ?_⟩
            simp only [Supervisor.goTo]
            split <;> rfl
      | leaving | ended => exact ⟨rfl, rfl⟩
      | _ => simp [Supervisor.isUnderWay, Supervisor.Place.isUnderWay] at hdone

namespace Traffic

def Tended (traffic : Traffic ω) : Prop :=
  ∀ supervisor ∈ traffic.supervisors, supervisor.Tended

theorem tended_move {traffic : Traffic ω} (move : Move) (htended : traffic.Tended) :
    (traffic.move move).Tended :=
  forall_supervisors_move (Or.inl rfl)
    (fun worker signal _ => Worker.tended_step worker signal _) move htended

theorem tended_run {traffic : Traffic ω} (moves : List Move) (htended : traffic.Tended) :
    (traffic.run moves).Tended :=
  run_induction Tended htended (fun _ move htended => tended_move move htended) moves

omit [Audience ω] in
theorem tended_atRest (world : ω) : (atRest world).Tended :=
  fun _ hsupervisor => absurd hsupervisor List.not_mem_nil

end Traffic

end Relay

end TunerRelay
