import TunerRelay.Proofs.Session.Coverage
import TunerRelay.Proofs.Session.Intents

/-!
# What reaches a closed receiver

At its end a session deactivates its adapter, closes the receiver, and only then stops the server and
waits for the supervisor. From the closing on nobody comes to intend anything with the receiver, but an
observer that looked before may act only now. So a closed receiver is still asked for what was intended
when it was closed. That is one thing at most, and if the session returns, it has happened.
-/

namespace TunerRelay.Session

open TunerRelay.Device (Tuner Request Logged)
open TunerRelay.Relay (Call Supervisor Worker)

/-- About to close the receiver. -/
def Place.closesReceiver : Place → Bool
  | closing _ | releasing _ => true
  | _ => false

/-- The session has closed the receiver. -/
def Place.hasClosed : Place → Bool
  | stopping _ | joining _ _ | forgetting _ | reporting _ | returned _ => true
  | _ => false

theorem Place.adapter?_of_hasClosed {place : Place} (hclosed : place.hasClosed = true) :
    place.adapter? = none := by
  cases place with
  | stopping | joining | forgetting | reporting | returned => rfl
  | _ => cases hclosed

section Steps

variable {σ : Type} [Tuner σ] {service : Service σ} {place : Place}

theorem step_of_closesReceiver (arguments : Arguments) (signal : Signal) (service : Service σ)
    (hcloses : place.closesReceiver = true) :
    (step arguments signal place service).1.hasClosed = true ∧
      (step arguments signal place service).2 = (service.request .close).2 := by
  cases place with
  | closing | releasing => exact ⟨rfl, rfl⟩
  | _ => cases hcloses

theorem step_of_hasClosed (arguments : Arguments) (signal : Signal)
    (hclosed : place.hasClosed = true)
    (hholds : (place.stage service.relay.handle).Holds service.relay) :
    (step arguments signal place service).1.hasClosed = true ∧
      (step arguments signal place service).2.relay.hub.world = service.relay.hub.world ∧
      (step arguments signal place service).2.relay.supervisors = service.relay.supervisors := by
  cases place with
  | stopping | forgetting | reporting | returned => exact ⟨rfl, rfl, rfl⟩
  | joining call streamed =>
      cases call with
      | collecting | awaiting =>
          simp only [step, stepCall, Call.step]
          split <;> simp only [afterJoining, Place.hasClosed, and_self]
      | _ => exact absurd hholds.1 List.not_mem_nil
  | _ => cases hclosed

end Steps

namespace Hosting

/-- What can still happen between the end of streaming and the next session. -/
def Move.isTrailing : Move → Bool
  | .begin _ | .cancel => false
  | _ => true

variable {σ : Type} [Tuner σ]

/-- How often a move has an observer turn to the receiver. -/
def carriesOut (hosting : Hosting σ) : Move → Nat
  | .work worker _ => hosting.relay.carriesOut worker
  | _ => 0

/-- How often a run does. -/
def carriedOut (hosting : Hosting σ) : List Move → Nat
  | [] => 0
  | move :: moves => hosting.carriesOut move + (hosting.move move).carriedOut moves

variable {τ : Type} [Tuner τ] {hosting : Hosting (Logged τ)}

/-- The session has closed the receiver, in a host where all is in order. -/
structure Closed (hosting : Hosting (Logged τ)) : Prop where
  sound : hosting.Sound
  covered : hosting.Covered
  hasClosed : hosting.place.hasClosed = true

namespace Closed

theorem unheeded (hclosed : hosting.Closed) {supervisor : Supervisor}
    (hmem : supervisor ∈ hosting.relay.supervisors) : supervisor.Unheeded hosting.relay.hub := by
  intro observer hobserver
  exact hclosed.covered.attends_eq_false (Place.adapter?_of_hasClosed hclosed.hasClosed)
    (.inr ⟨supervisor, hmem, hobserver⟩)

theorem move (hclosed : hosting.Closed) {move : Move} (htrailing : move.isTrailing = true) :
    (hosting.move move).Closed where
  sound := hclosed.sound.move move
  covered := hclosed.covered.move hclosed.sound move
  hasClosed := by
    cases move with
    | begin | cancel => cases htrailing
    | advance signal =>
        obtain ⟨arguments, hplace, -, -⟩ := hosting.exists_step signal
        rw [Hosting.move, hplace]
        exact (step_of_hasClosed arguments signal hclosed.hasClosed hclosed.sound.fits.holds).1
    | work | close | feed => exact hclosed.hasClosed
    | resume number signal =>
        rw [Hosting.move, resume]
        split <;> exact hclosed.hasClosed

/-- Apart from the workers, nobody touches the receiver or the workers' intents. -/
theorem move_or_work (hclosed : hosting.Closed) {move : Move} (htrailing : move.isTrailing = true) :
    (∃ worker signal, move = .work worker signal) ∨ hosting.carriesOut move = 0 ∧
      (hosting.move move).world = hosting.world ∧
      (hosting.move move).relay.supervisors = hosting.relay.supervisors := by
  cases move with
  | begin | cancel => cases htrailing
  | work worker signal => exact .inl ⟨worker, signal, rfl⟩
  | close | feed => exact .inr ⟨rfl, rfl, rfl⟩
  | advance signal =>
      obtain ⟨arguments, -, hservice, -⟩ := hosting.exists_step signal
      obtain ⟨-, hworld, hsupervisors⟩ :=
        step_of_hasClosed arguments signal hclosed.hasClosed hclosed.sound.fits.holds
      simp only [Hosting.move, world, relay, hservice]
      exact .inr ⟨rfl, hworld, hsupervisors⟩
  | resume number signal =>
      cases hcall : hosting.calls[number]? with
      | none =>
          rw [Hosting.move, resume, hcall]
          exact .inr ⟨rfl, rfl, rfl⟩
      | some call =>
          have haside := hclosed.sound.fits.aside call (List.mem_of_getElem? hcall)
          have hworld : (call.step signal hosting.relay).2.hub.world = hosting.world := by
            refine call.world_step signal hosting.relay ?_
            rintro observer fault rfl
            cases haside
          obtain ⟨-, hsupervisors, -⟩ := Call.aside_step signal hosting.relay haside
          rw [Hosting.move, resume, hcall]
          exact .inr ⟨rfl, hworld, hsupervisors⟩

theorem intents_move (hclosed : hosting.Closed) {move : Move} (htrailing : move.isTrailing = true) :
    hosting.carriesOut move + (hosting.move move).relay.intents = hosting.relay.intents := by
  rcases hclosed.move_or_work htrailing with ⟨worker, signal, rfl⟩ | ⟨hnone, -, hsupervisors⟩
  · exact Relay.intents_work hclosed.sound.fits.kept (fun _ => hclosed.unheeded) worker signal
  · rw [hnone, Nat.zero_add, Relay.intents, Relay.intents, hsupervisors]

theorem asks_move (hclosed : hosting.Closed) {move : Move} (htrailing : move.isTrailing = true) :
    hosting.world.Asks (hosting.carriesOut move) (hosting.move move).world := by
  rcases hclosed.move_or_work htrailing with ⟨worker, signal, rfl⟩ | ⟨-, hworld, -⟩
  · exact hosting.relay.asks_work worker signal
  · exact Adapters.asks_same hworld _

/-- What is carried out in a run, and what is intended at its end, was intended at its start. -/
theorem run (hclosed : hosting.Closed) {moves : List Move}
    (htrailing : ∀ move ∈ moves, move.isTrailing = true) :
    hosting.carriedOut moves + (hosting.run moves).relay.intents = hosting.relay.intents ∧
      hosting.world.Asks (hosting.carriedOut moves) (hosting.run moves).world := by
  induction moves generalizing hosting with
  | nil => exact ⟨Nat.zero_add _, Adapters.asks_same rfl _⟩
  | cons move rest ih =>
      have hfirst := htrailing move List.mem_cons_self
      obtain ⟨hintents, hasks⟩ := ih (hclosed.move hfirst)
        fun later hmem => htrailing later (List.mem_cons_of_mem move hmem)
      have hmove := hclosed.intents_move hfirst
      refine ⟨?_, (hclosed.asks_move hfirst).trans hasks⟩
      calc hosting.carriesOut move + (hosting.move move).carriedOut rest +
            ((hosting.move move).run rest).relay.intents
          = hosting.carriesOut move + (hosting.move move).relay.intents := by
            rw [Nat.add_assoc, hintents]
        _ = hosting.relay.intents := hmove

end Closed

theorem closed_advance (hsound : hosting.Sound) (hcovered : hosting.Covered)
    (hcloses : hosting.place.closesReceiver = true) (signal : Signal) :
    (hosting.move (.advance signal)).Closed ∧
      (hosting.move (.advance signal)).device.requests = hosting.device.requests ++ [.close] ∧
      (hosting.move (.advance signal)).relay.intents = hosting.relay.intents := by
  obtain ⟨arguments, hplace, hservice, -⟩ := hosting.exists_step signal
  obtain ⟨hclosed, hrequest⟩ :=
    step_of_closesReceiver arguments signal hosting.service hcloses
  refine ⟨⟨hsound.move _, hcovered.move hsound _, ?_⟩, ?_, ?_⟩
  · rw [Hosting.move, hplace]
    exact hclosed
  · rw [Hosting.move, device, hservice, hrequest]
    rfl
  · rw [Hosting.move, relay, hservice, hrequest]
    rfl

omit [Tuner τ] in
theorem Fits.intents_le_one (hfits : hosting.Fits) : hosting.relay.intents ≤ 1 := by
  have hholds := hfits.holds
  cases hstage : hosting.place.stage hosting.relay.handle with
  | idle phases =>
      rw [hstage] at hholds
      exact (hholds.2.intents_eq hfits.kept).trans_le (Nat.zero_le 1)
  | attended number =>
      rw [hstage] at hholds
      obtain ⟨known, -, hattends⟩ := hholds
      exact hattends.intents_le_one hfits.kept

/-- **No calls to a closed receiver but intended ones.** When a session closes the receiver, at most one
observer has looked whether it still cares and is yet to act, and none has where the session failed to
start. Until the next session, observers turn to the closed receiver just as often, less what is still
intended, and it is asked for no more than that. It has happened once the session has returned, and it
can happen right after the closing. -/
theorem only_intended_calls_after_close (device : Logged τ) (earlier later : List Move)
    (signal : Signal) (hcloses : ((atRest device).run earlier).place.closesReceiver = true)
    (htrailing : ∀ move ∈ later, move.isTrailing = true) :
    let before := (atRest device).run earlier
    let closed := before.move (.advance signal)
    let after := closed.run later
    closed.device.requests = before.device.requests ++ [.close] ∧
    before.relay.intents ≤ 1 ∧
    (∀ failure, before.place = .releasing failure → before.relay.intents = 0) ∧
    closed.carriedOut later + after.relay.intents = before.relay.intents ∧
    (∃ late, after.device.requests = closed.device.requests ++ late ∧
      late.length ≤ closed.carriedOut later) ∧
    (after.isRunning = false → closed.carriedOut later = before.relay.intents) ∧
    (before.relay.intents = 1 → ∃ worker, closed.carriedOut [.work worker .nothing] = 1) := by
  intro before closed after
  have hsound : before.Sound := (sound_atRest device).run earlier
  have hcovered : before.Covered := (covered_atRest device).run (sound_atRest device) earlier
  obtain ⟨hclosed, hrequests, hsame⟩ := closed_advance hsound hcovered hcloses signal
  obtain ⟨hintents, hasks⟩ := hclosed.run htrailing
  have hafter : after.Sound := hclosed.sound.run later
  have hone : before.relay.intents ≤ 1 := hsound.fits.intents_le_one
  have hbalance : closed.carriedOut later + after.relay.intents = before.relay.intents :=
    hintents.trans hsame
  refine ⟨hrequests, hone, ?_, hbalance, hasks, ?_, ?_⟩
  · intro failure hplace
    have hholds := hsound.fits.holds
    rw [hplace] at hholds
    exact hholds.2.intents_eq hsound.fits.kept
  · intro hrunning
    obtain ⟨result, hplace⟩ := exists_returned hrunning
    have hholds := hafter.fits.holds
    rw [hplace] at hholds
    have hnone : after.relay.intents = 0 := hholds.2.intents_eq hafter.fits.kept
    rw [← hbalance, hnone, Nat.add_zero]
  · intro hintended
    have hpositive : 0 < closed.relay.intents := by
      rw [hsame, hintended]
      exact Nat.one_pos
    obtain ⟨worker, hcarries⟩ := hclosed.sound.fits.kept.exists_carriesOut hpositive
    have htrailing : (Move.work worker .nothing).isTrailing = true := rfl
    have hwork := hclosed.intents_move htrailing
    have hle : closed.relay.carriesOut worker ≤ 1 := by
      calc closed.relay.carriesOut worker
          ≤ closed.relay.carriesOut worker + _ := Nat.le_add_right _ _
        _ = closed.relay.intents := hwork
        _ = 1 := hsame.trans hintended
    exact ⟨worker, Nat.le_antisymm hle hcarries⟩

/-- Somebody asks to close, and the supervisor's observer has just looked when streaming ends. -/
def dismissedMoves : List Move :=
  List.flatten [[.begin plainArguments], advances 15, [.close, .resume 0 .nothing], supervisions 5,
    [.advance (.streamed (.ok ()))], advances 1]

/-- The observer acts while the session waits for the supervisor. -/
def settlingMoves : List Move := List.flatten [advances 2, supervisions 1, advances 3]

theorem only_intended_calls_after_close_dismissed :
    let before := (atRest willing).run dismissedMoves
    let closed := before.move (.advance (.outside .nothing))
    let after := closed.run settlingMoves
    before.place.closesReceiver = true ∧
    (∀ move ∈ settlingMoves, move.isTrailing = true) ∧
    after.isRunning = false ∧
    closed.device.requests = before.device.requests ++ [.close] ∧
    closed.carriedOut settlingMoves = 1 ∧
    after.device.requests = closed.device.requests ++ [.cancel] := by
  have htrailing : ∀ move ∈ settlingMoves, move.isTrailing = true := by
    simp [settlingMoves, advances, supervisions, Move.isTrailing]
  obtain ⟨hrequests, -, -, -, -, hreturned, -⟩ :=
    only_intended_calls_after_close willing dismissedMoves settlingMoves (.outside .nothing) rfl
      htrailing
  exact ⟨rfl, htrailing, rfl, hrequests, hreturned rfl, rfl⟩

/-- A client has sent a command, and the observer has just looked when streaming ends. -/
def commandedMoves : List Move :=
  List.flatten [[.begin plainArguments], advances 15,
    (Relay.servingSignals 1).map (.work (.supervisor 0)),
    List.replicate 2 (.work (.reader 0) .nothing), [.work (.reader 0) (.received [1, 0, 0, 0, 5])],
    List.replicate 4 (.work (.reader 0) .nothing), [.advance (.streamed (.ok ()))], advances 1]

/-- A command that was read before the adapter was deactivated sets the frequency of the closed
receiver. -/
theorem command_reaches_closed_receiver :
    let before := (atRest willing).run commandedMoves
    let closed := before.move (.advance (.outside .nothing))
    let after := closed.move (.work (.reader 0) .nothing)
    closed.device.requests = before.device.requests ++ [.close] ∧
    closed.relay.hub.attends 0 = false ∧
    after.isRunning = true ∧
    after.device.requests = closed.device.requests ++ [.frequency 5] :=
  ⟨rfl, rfl, rfl, rfl⟩

end Hosting

end TunerRelay.Session
