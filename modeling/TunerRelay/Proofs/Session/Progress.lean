import TunerRelay.Proofs.Relay.Ending
import TunerRelay.Proofs.Session.Closing

/-!
# What takes a session further

Every step takes a session nearer to its end, but at two places it has to wait: for streaming to end,
and for its supervisor. While it waits, its steps change nothing, and the supervisor of a stopped
server comes nearer to its own end.
-/

namespace TunerRelay

open TunerRelay.Server (Phase)

theorem Server.Phase.isVacant_of_isClosing {phase : Phase} (hclosing : phase.isClosing = true) :
    phase.isVacant = true := by
  revert hclosing
  cases phase <;> decide

namespace Session

open TunerRelay.Device (Tuner)
open TunerRelay.Relay (Call Supervisor Worker)

/-! ### The way of a session -/

/-- How many steps of the session are left at most. -/
def Place.remaining : Place → Nat
  | configuring rest => 24 + rest.length
  | opening (.staging _ _ _) => 23
  | opening (.binding _) => 22
  | opening (.preparing _) => 21
  | opening (.listening _) => 20
  | opening (.abandoning _) => 19
  | engaging _ (.engaging _) => 18
  | engaging _ (.launching _) => 17
  | engaging _ (.keeping _) | engaging _ (.clearing _ _) => 16
  | engaging _ (.excusing _ _) => 15
  | checking _ => 14
  | halting _ => 13
  | announcing _ => 12
  | starting _ => 11
  | streaming _ => 10
  | deactivating _ _ => 9
  | closing _ => 8
  | stopping _ => 7
  | joining .collecting _ => 6
  | joining _ _ => 5
  | withdrawing _ _ => 4
  | releasing _ => 3
  | forgetting _ => 2
  | reporting _ => 1
  | returned _ | opening _ | engaging _ _ => 0

/-- A step with this signal does not take the session any further. -/
def Place.Waits {ω : Type} (signal : Signal) (relay : Relay ω) : Place → Prop
  | streaming _ => ∃ outside, signal = .outside outside
  | joining (.awaiting number) _ => relay.hasEnded number = false
  | returned _ => True
  | _ => False

section Steps

variable {σ : Type} [Tuner σ] {service : Service σ}

theorem remaining_opening (arguments : Arguments) (signal : Signal) {call : Call}
    (hholds : ((Place.opening call).stage service.relay.handle).Holds service.relay) :
    (step arguments signal (.opening call) service).1.remaining <
      (Place.opening call).remaining := by
  cases call with
  | staging address port header =>
      simp only [step, stepCall, Call.step, Call.stage]
      cases service.relay.server.stage header with
      | error fault => simp [afterOpening, Place.remaining]
      | ok server => cases Call.endpoint? address port <;> simp [afterOpening, Place.remaining]
  | binding endpoint | preparing endpoint =>
      simp only [step, stepCall, Call.step]
      cases signal.relaySignal <;> simp [afterOpening, Place.remaining]
  | listening endpoint =>
      simp only [step, stepCall, Call.step, Call.listen]
      cases service.relay.server.listen endpoint <;>
        simp [afterOpening, Place.remaining, Call.ofOperation]
  | abandoning fault => simp [step, stepCall, Call.step, afterOpening, Place.remaining]
  | _ => exact absurd hholds.1 List.not_mem_nil

theorem remaining_engaging (arguments : Arguments) (signal : Signal) {adapter : Nat} {call : Call}
    (hholds : ((Place.engaging adapter call).stage service.relay.handle).Holds service.relay) :
    (step arguments signal (.engaging adapter call) service).1.remaining <
      (Place.engaging adapter call).remaining := by
  cases call with
  | engaging observer =>
      simp only [step, stepCall]
      by_cases hphase : service.relay.server.phase = .socketOpen
      · rw [Call.step_engaging _ observer hphase]
        simp [afterEngaging, Place.remaining]
      · rw [Call.step_engaging_of_ne _ observer hphase]
        simp [afterEngaging, Place.remaining]
  | launching observer =>
      simp only [step, stepCall, Call.step]
      cases signal.relaySignal <;> simp [afterEngaging, Place.remaining]
  | clearing | excusing | keeping => simp [step, stepCall, Call.step, afterEngaging, Place.remaining]
  | _ => exact absurd hholds.1 List.not_mem_nil

theorem remaining_step (arguments : Arguments) (signal : Signal) {place : Place}
    (hholds : (place.stage service.relay.handle).Holds service.relay) :
    (step arguments signal place service).1.remaining < place.remaining ∨
      (step arguments signal place service).1 = place ∧ place.Waits signal service.relay := by
  cases place with
  | configuring rest =>
      cases rest with
      | nil => exact .inl (by simp [step, Place.remaining, Call.ofOperation])
      | cons setup rest =>
          rw [step_configuring]
          refine .inl ?_
          cases (setup.perform service.device).1 <;> simp only [Place.remaining, List.length_cons] <;>
            omega
  | opening call => exact .inl (remaining_opening arguments signal hholds)
  | engaging adapter call => exact .inl (remaining_engaging arguments signal hholds)
  | checking adapter =>
      simp only [step]
      split <;> exact .inl (by simp [Place.remaining])
  | starting adapter =>
      rw [step_starting]
      cases (service.request .stream).1 <;> exact .inl (by simp [Place.remaining])
  | streaming adapter =>
      cases signal with
      | outside signal => exact .inr ⟨rfl, signal, rfl⟩
      | streamed result => exact .inl (by simp [step, Place.remaining])
  | joining call streamed =>
      cases call with
      | collecting =>
          simp only [step, stepCall, Call.step]
          split <;> exact .inl (by simp [afterJoining, Place.remaining])
      | awaiting number =>
          cases hended : service.relay.hasEnded number with
          | true =>
              refine .inl ?_
              simp [step, stepCall, Call.step, hended, afterJoining, Place.remaining]
          | false => exact .inr ⟨by simp [step, stepCall, Call.step, hended, afterJoining], hended⟩
      | _ => exact absurd hholds.1 List.not_mem_nil
  | returned result => exact .inr ⟨rfl, trivial⟩
  | _ => exact .inl (by simp [step, Place.remaining, Call.ofOperation])

theorem Place.Waits.relay_step {place : Place} {signal : Signal}
    (hwaits : place.Waits signal service.relay) (arguments : Arguments) :
    (step arguments signal place service).2.relay = service.relay := by
  cases place with
  | streaming adapter => cases signal <;> rfl
  | joining call streamed =>
      cases call with
      | awaiting number => rfl
      | _ => cases hwaits
  | returned result => rfl
  | _ => cases hwaits

end Steps

namespace Hosting

variable {σ : Type} [Tuner σ] {hosting : Hosting σ}

/-! ### A session that waits -/

omit [Tuner σ] in
theorem exists_session (hrunning : hosting.isRunning = true) :
    ∃ arguments, hosting.session = some (arguments, hosting.place) := by
  unfold isRunning at hrunning
  unfold place
  split at hrunning
  · cases hrunning
  · cases hrunning
  · rename_i session hreturned hsession
    obtain ⟨arguments, place⟩ := session
    exact ⟨arguments, by simp only [hsession]⟩

theorem move_begin_of_isRunning (hrunning : hosting.isRunning = true) (arguments : Arguments) :
    hosting.move (.begin arguments) = hosting := by
  simp only [Hosting.move, hrunning, if_true]

/-- A step takes the session further, or the session waits and nothing is changed. -/
theorem advance_cases (hfits : hosting.Fits) (signal : Signal) :
    (hosting.advance signal).place.remaining < hosting.place.remaining ∨
      (hosting.advance signal).place = hosting.place ∧
        (hosting.advance signal).relay = hosting.relay ∧
        hosting.place.Waits signal hosting.relay := by
  obtain ⟨arguments, hplace, hservice, -⟩ := hosting.exists_step signal
  rw [hplace, relay, hservice]
  rcases remaining_step arguments signal hfits.holds with hless | ⟨hsame, hwaits⟩
  · exact .inl hless
  · exact .inr ⟨hsame, hwaits.relay_step arguments, hwaits⟩

theorem place_move (hfits : hosting.Fits) (hrunning : hosting.isRunning = true) (move : Move) :
    (hosting.move move).place.remaining < hosting.place.remaining ∨
      (hosting.move move).place = hosting.place := by
  cases move with
  | begin arguments => exact .inr (congrArg place (move_begin_of_isRunning hrunning arguments))
  | advance signal => exact (advance_cases hfits signal).imp_right And.left
  | resume number signal =>
      rw [Hosting.move, resume]
      split <;> exact .inr rfl
  | work | close | feed | cancel => exact .inr rfl

/-- While the session waits, workers work and others stop the server. -/
theorem relay_move (hfits : hosting.Fits) (hrunning : hosting.isRunning = true) {move : Move}
    (hsettled : (hosting.move move).place = hosting.place) :
    (∃ worker signal, (hosting.move move).relay = hosting.relay.work worker signal) ∨
      (hosting.move move).relay.supervisors = hosting.relay.supervisors ∧
        (hosting.move move).relay.handle = hosting.relay.handle ∧
        ((hosting.move move).server.phase = hosting.server.phase ∨
          (hosting.move move).server.phase = hosting.server.phase.stopped) := by
  cases move with
  | begin arguments =>
      rw [move_begin_of_isRunning hrunning arguments]
      exact .inr ⟨rfl, rfl, .inl rfl⟩
  | advance signal =>
      rcases advance_cases hfits signal with hless | ⟨-, hrelay, -⟩
      · exact absurd (congrArg Place.remaining hsettled) hless.ne
      · rw [server, Hosting.move, hrelay]
        exact .inr ⟨rfl, rfl, .inl rfl⟩
  | work worker signal => exact .inl ⟨worker, signal, rfl⟩
  | resume number signal =>
      cases hcall : hosting.calls[number]? with
      | none =>
          rw [Hosting.move, resume, hcall]
          exact .inr ⟨rfl, rfl, .inl rfl⟩
      | some call =>
          have haside := hfits.aside call (List.mem_of_getElem? hcall)
          obtain ⟨-, hsupervisors, hhandle, hphase⟩ := Call.aside_step signal hosting.relay haside
          rw [Hosting.move, resume, hcall]
          exact .inr ⟨hsupervisors, hhandle, hphase.imp_right And.right⟩
  | close | feed | cancel => exact .inr ⟨rfl, rfl, .inl rfl⟩

/-- The session waits, the server is stopped, and this supervisor is on its way to the end. -/
structure Winds (number : Nat) (hosting : Hosting σ) : Prop where
  attended : hosting.place.stage hosting.relay.handle = .attended (some number)
  closing : hosting.server.phase.isClosing = true

theorem Winds.move {number : Nat} (hwinds : hosting.Winds number) (hfits : hosting.Fits)
    (hrunning : hosting.isRunning = true) {move : Move}
    (hsettled : (hosting.move move).place = hosting.place) : (hosting.move move).Winds number := by
  rcases relay_move hfits hrunning hsettled with ⟨worker, signal, hwork⟩ | ⟨-, hhandle, hphase⟩
  · refine ⟨?_, ?_⟩
    · rw [hsettled, hwork, Relay.handle_work]
      exact hwinds.attended
    · rw [server, hwork]
      exact Relay.phase_work (fun phase => phase.isClosing = true)
        Server.Quiet.isClosing hwinds.closing worker signal
  · refine ⟨?_, ?_⟩
    · rw [hsettled, hhandle]
      exact hwinds.attended
    · rcases hphase with hsame | hstopped
      · rw [hsame]
        exact hwinds.closing
      · rw [hstopped]
        exact Phase.isClosing_stopped_of_isClosing hwinds.closing

omit [Tuner σ] in
theorem Winds.attends {number : Nat} (hwinds : hosting.Winds number) (hfits : hosting.Fits) :
    hosting.relay.Attends number := by
  have hholds := hfits.holds
  rw [hwinds.attended] at hholds
  obtain ⟨known, hknown, hattends⟩ := hholds
  exact Option.some.inj hknown ▸ hattends

/-- Neither the supervisor nor anybody else delays its end. -/
theorem Winds.delay_move {number : Nat} (hwinds : hosting.Winds number) (hfits : hosting.Fits)
    (hrunning : hosting.isRunning = true) {move : Move}
    (hsettled : (hosting.move move).place = hosting.place) :
    (hosting.move move).relay.supervisors[number]?.elim 0 Supervisor.delay <
        hosting.relay.supervisors[number]?.elim 0 Supervisor.delay ∨
      (hosting.move move).relay.supervisors[number]? = hosting.relay.supervisors[number]? := by
  rcases relay_move hfits hrunning hsettled with ⟨worker, signal, hwork⟩ | ⟨hsupervisors, -, -⟩
  · rw [hwork]
    cases hacting : hosting.relay.supervisors[worker.number]? with
    | none =>
        rw [Relay.work_eq_of_none signal hacting]
        exact .inr rfl
    | some acting =>
        rw [Relay.work_eq signal hacting]
        by_cases hnumber : worker.number = number
        · subst hnumber
          obtain ⟨hlt, -⟩ := List.getElem?_eq_some_iff.mp hacting
          have htended := hfits.kept.tended acting (List.mem_of_getElem? hacting)
          simp only [List.getElem?_set_self hlt, hacting, Option.elim_some, Option.some.injEq]
          exact worker.delay_step signal (Phase.isVacant_of_isClosing hwinds.closing) htended
        · exact .inr (List.getElem?_set_ne hnumber)
  · rw [hsupervisors]
    exact .inr rfl

end Hosting

end Session

end TunerRelay
