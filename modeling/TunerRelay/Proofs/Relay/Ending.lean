import Mathlib
import TunerRelay.Proofs.Relay.Crew

/-!
# How workers come to their end

While a server neither waits for a client nor serves one, every step takes a supervisor or its reader
nearer to the end, whatever the network does. A supervisor that waits for its reader is the one
exception, and then the reader comes nearer.
-/

namespace TunerRelay

namespace Server.Phase

/-- Phases in which a client is neither waited for nor served. -/
def isVacant : Phase → Bool
  | asyncStarted | clientOpen | serving => false
  | _ => true

end Server.Phase

namespace Relay

variable {ω : Type} [Audience ω]

/-- How many steps the reader is away from its end at most, while nobody is served. -/
def Reader.delay (reader : Reader) : Nat :=
  match reader.place with
  | .ended => 0
  | .idle => 1
  | .halting | .judging _ | .acting _ => 2
  | .assembling _ | .handing _ => 3
  | .receiving _ | .counting _ => 4

namespace Supervisor

/-- How many steps a place is away from the end at most, apart from those of the reader. -/
def Place.delay : Place → Nat
  | ended => 0
  | leaving _ => 1
  | notifying => 2
  | closing => 3
  | waiting | registering _ | entering | joining => 4
  | seeking | accepting | splitting | halting => 5
  | starting | idle => 6
  | spawning | counting _ => 7
  | returning _ _ => 8
  | writing _ _ => 9
  | fetching | offering _ _ => 10

/-- A step of the supervisor outweighs all of its reader. -/
def delay (supervisor : Supervisor) : Nat :=
  5 * supervisor.place.delay + supervisor.reader.elim 0 Reader.delay

end Supervisor

omit [Audience ω] in
theorem Hub.isServing_eq_false {hub : Hub ω} (hvacant : hub.server.phase.isVacant = true) :
    hub.isServing = false := by
  refine Bool.eq_false_iff.mpr fun hserving => ?_
  rw [Hub.isServing_iff.mp hserving] at hvacant
  cases hvacant

theorem Reader.delay_step {reader : Reader} (observer : Nat) (signal : Signal) {hub : Hub ω}
    (hvacant : hub.server.phase.isVacant = true) (hended : reader.isEnded = false) :
    (reader.step observer signal hub).1.delay < reader.delay := by
  have hidle := Hub.isServing_eq_false hvacant
  obtain ⟨place, received, records⟩ := reader
  cases place with
  | idle => simp [step, hidle, goTo, delay]
  | assembling piece =>
      simp only [step, hidle, goTo, assemble]
      cases Wire.Record.ofBytes? piece <;> simp [delay]
  | receiving piece => cases signal <;> simp [step, goTo, delay]
  | judging record => simp [step, hidle, goTo, delay]
  | handing record =>
      simp only [step]
      split <;> simp [delay]
  | halting | counting | acting => simp [step, goTo, delay]
  | ended => cases hended

namespace Supervisor

theorem Place.Leads.delay_lt {session : Option Nat} {server later : Server} {place next : Place}
    (hvacant : server.phase.isVacant = true) (hleads : place.Leads session server next later) :
    next.delay < place.delay ∨ next = place ∧ (place = .joining ∨ place = .ended) := by
  cases hleads with
  | expect hphase | enter hphase | goOn hphase | offer _ _ hphase =>
      rw [hphase] at hvacant
      cases hvacant
  | giveUp place hplace =>
      cases place with
      | seeking | waiting | accepting | registering | splitting | entering =>
          exact .inl (by simp [delay])
      | _ => cases hplace
  | linger => exact .inr ⟨rfl, .inl rfl⟩
  | stay => exact .inr ⟨rfl, .inr rfl⟩
  | _ => exact .inl (by simp [delay])

theorem Steps.delay_lt {supervisor next : Supervisor} {server later : Server}
    (hvacant : server.phase.isVacant = true) (hsteps : supervisor.Steps server next later) :
    next.delay < supervisor.delay ∨
      next = supervisor ∧ (supervisor.place = .joining ∨ supervisor.place = .ended) := by
  cases hsteps with
  | note hplace => exact .inl (by simp [delay, hplace, Supervisor.note, Place.delay])
  | walk hleads =>
      rcases hleads.delay_lt hvacant with hless | ⟨rfl, hblocked⟩
      · exact .inl (by simp only [delay, goTo]; omega)
      · exact .inr ⟨rfl, hblocked⟩
  | register hplace hadmitted hnext =>
      unfold Server.admit? at hadmitted
      split at hadmitted
      · rename_i hphase
        rw [hphase] at hvacant
        cases hvacant
      · cases hadmitted
  | staff hplace hobserver =>
      refine .inl ?_
      simp only [delay, hplace, Place.delay, Option.elim_some, Reader.delay]
      omega
  | send count hplace => exact .inl (by simp [delay, hplace, Place.delay])
  | join hplace hended => exact .inl (by simp [delay, hplace, goTo, Place.delay])

/-- A supervisor that does not come nearer waits for its reader, or has ended. -/
theorem delay_step (supervisor : Supervisor) (signal : Signal) {hub : Hub ω}
    (hvacant : hub.server.phase.isVacant = true) :
    (supervisor.step signal hub).1.delay < supervisor.delay ∨
      (supervisor.step signal hub).1 = supervisor ∧
        (supervisor.place = .ended ∨
          supervisor.place = .joining ∧ supervisor.readerIsEnded = false) := by
  rcases (supervisor.steps signal hub).delay_lt hvacant with hless | ⟨hsame, hjoining | hended⟩
  · exact .inl hless
  · refine .inr ⟨hsame, .inr ⟨hjoining, Bool.eq_false_iff.mpr fun hreader => ?_⟩⟩
    have hnext : supervisor.step signal hub = (supervisor.goTo .closing, hub) := by
      simp only [step, hjoining, hreader, if_true]
    rw [hnext] at hsame
    have hplace := congrArg Supervisor.place hsame
    rw [hjoining] at hplace
    cases hplace
  · exact .inr ⟨hsame, .inl hended⟩

theorem delay_stepReader {supervisor : Supervisor} (signal : Signal) {hub : Hub ω}
    (hvacant : hub.server.phase.isVacant = true) (htended : supervisor.Tended)
    (hended : supervisor.readerIsEnded = false) :
    (supervisor.stepReader signal hub).1.delay < supervisor.delay := by
  obtain ⟨place, observer, session, connection, reader, sent⟩ := supervisor
  obtain ⟨-, hobserver⟩ := htended.resolve_left (Bool.eq_false_iff.mp hended)
  obtain ⟨observer, rfl⟩ := Option.isSome_iff_exists.mp hobserver
  cases reader with
  | none => cases hended
  | some reader =>
      have hless := Reader.delay_step observer signal hvacant hended
      simp only [stepReader, delay, Option.elim_some]
      omega

end Supervisor

/-- No step of a worker takes its supervisor farther from the end. -/
theorem Worker.delay_step (worker : Worker) (signal : Signal) {supervisor : Supervisor}
    {hub : Hub ω} (hvacant : hub.server.phase.isVacant = true) (htended : supervisor.Tended) :
    (worker.step signal supervisor hub).1.delay < supervisor.delay ∨
      (worker.step signal supervisor hub).1 = supervisor := by
  cases worker with
  | supervisor number => exact (supervisor.delay_step signal hvacant).imp_right And.left
  | reader number =>
      cases hended : supervisor.readerIsEnded with
      | true =>
          exact .inr (congrArg Prod.fst (Supervisor.stepReader_of_readerIsEnded signal hub hended))
      | false => exact .inl (Supervisor.delay_stepReader signal hvacant htended hended)

/-- Before the end there is always a worker that comes nearer. -/
theorem Supervisor.exists_nearer {supervisor : Supervisor} (number : Nat) {hub : Hub ω}
    (hvacant : hub.server.phase.isVacant = true) (htended : supervisor.Tended)
    (hplace : supervisor.place ≠ .ended) :
    ∃ worker : Worker, worker.number = number ∧
      ∀ signal, (worker.step signal supervisor hub).1.delay < supervisor.delay := by
  by_cases hwaits : supervisor.place = .joining ∧ supervisor.readerIsEnded = false
  · exact ⟨.reader number, rfl, fun signal => delay_stepReader signal hvacant htended hwaits.2⟩
  · refine ⟨.supervisor number, rfl, fun signal => ?_⟩
    refine (supervisor.delay_step signal hvacant).resolve_right ?_
    rintro ⟨-, hended | hblocked⟩
    · exact hplace hended
    · exact hwaits hblocked

/-- A supervisor that neither of its threads changes any more has ended. -/
theorem Supervisor.place_eq_ended {supervisor : Supervisor} {signal readerSignal : Signal}
    {hub readerHub : Hub ω} (hvacant : hub.server.phase.isVacant = true)
    (hreaderVacant : readerHub.server.phase.isVacant = true) (htended : supervisor.Tended)
    (hstill : (supervisor.step signal hub).1 = supervisor)
    (hreaderStill : (supervisor.stepReader readerSignal readerHub).1 = supervisor) :
    supervisor.place = .ended := by
  rcases supervisor.delay_step signal hvacant with hless | ⟨-, hended | hwaits⟩
  · exact absurd (congrArg delay hstill) hless.ne
  · exact hended
  · have hless := delay_stepReader readerSignal hreaderVacant htended hwaits.2
    exact absurd (congrArg delay hreaderStill) hless.ne

end Relay

end TunerRelay
