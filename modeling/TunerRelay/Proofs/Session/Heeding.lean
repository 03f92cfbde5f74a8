import TunerRelay.Proofs.Session.Cancelling
import TunerRelay.Proofs.Session.Closing

/-!
# What becomes of a request to close

Either the session still has to look for the mark, or the server was stopped, or the stop is still to
come. No move of anybody leads out of that before the session is over.
-/

namespace TunerRelay.Session

open TunerRelay.Device (Tuner Logged)
open TunerRelay.Relay (Call)
open TunerRelay.Server (Phase)

/-- Once a session has looked for the mark, a request to close that came later has stopped the server,
or is about to. A session that waits for its supervisor has stopped the server itself. -/
def Place.Heeds (marked : Bool) (phase : Phase) (calls : List Call) : Place → Prop
  | announcing _ | starting _ | streaming _ =>
    marked = true → phase.isClosing = true ∨ .stopping ∈ calls
  | joining _ _ => phase.isClosing = true
  | _ => True

theorem Place.Heeds.mono {place : Place} {marked intruded : Bool} {phase next : Phase}
    {calls later : List Call} (hheeds : place.Heeds marked phase calls)
    (hbears : place.Bears intruded phase)
    (hphase : phase.isClosing = true → next.isClosing = true)
    (hcalls : phase.isOpening = false → .stopping ∈ calls →
      next.isClosing = true ∨ .stopping ∈ later) : place.Heeds marked next later := by
  cases place with
  | announcing | starting | streaming =>
      intro hmarked
      rcases hheeds hmarked with hclosing | hpending
      · exact .inl (hphase hclosing)
      · exact hcalls hbears.2 hpending
  | joining call streamed => exact hphase hheeds
  | _ => trivial

theorem Place.Heeds.mark {place : Place} {marked : Bool} {phase : Phase} {calls : List Call}
    (hheeds : place.Heeds marked phase calls) : place.Heeds true phase (calls ++ [.stopping]) := by
  have hmem : Call.stopping ∈ calls ++ [.stopping] :=
    List.mem_append_right _ (List.mem_singleton_self _)
  cases place with
  | announcing | starting | streaming => exact fun _ => .inr hmem
  | joining call streamed => exact hheeds
  | _ => trivial

theorem heeds_step {σ : Type} [Tuner σ] {service : Service σ} {intruded : Bool}
    {calls : List Call} (arguments : Arguments) (signal : Signal) {place : Place}
    (hheeds : place.Heeds service.closeRequested service.relay.server.phase calls)
    (hbears : place.Bears intruded service.relay.server.phase)
    (hholds : (place.stage service.relay.handle).Holds service.relay) :
    (step arguments signal place service).1.Heeds
      (step arguments signal place service).2.closeRequested
      (step arguments signal place service).2.relay.server.phase calls := by
  have hstop (hopening : service.relay.server.phase.isOpening = false) :
      service.stop.relay.server.phase.isClosing = true :=
    (congrArg Phase.isClosing (Server.phase_stop service.relay.server)).trans
      (Phase.isClosing_stopped hopening)
  cases place with
  | configuring rest =>
      cases rest with
      | nil => trivial
      | cons setup rest =>
          rw [step_configuring]
          cases (setup.perform service.device).1 <;> trivial
  | opening call =>
      simp only [step, afterOpening]
      split <;> trivial
  | engaging adapter call =>
      simp only [step, afterEngaging]
      split <;> trivial
  | checking adapter =>
      simp only [step]
      cases hmarked : service.closeRequested with
      | true => trivial
      | false => exact fun habsurd => absurd habsurd Bool.false_ne_true
  | halting adapter => exact fun _ => .inl (hstop hbears.2)
  | starting adapter =>
      rw [step_starting]
      cases (service.request .stream).1 with
      | ok => exact hheeds
      | error fault => trivial
  | streaming adapter =>
      cases signal with
      | outside signal => exact hheeds
      | streamed result => trivial
  | stopping streamed => exact hstop hbears.2
  | joining call streamed =>
      cases call with
      | collecting | awaiting =>
          simp only [step, stepCall, Call.step]
          split
          · trivial
          · exact hheeds
      | _ => exact absurd hholds.1 List.not_mem_nil
  | announcing adapter => exact hheeds
  | _ => trivial

/-! ### All that can happen -/

namespace Hosting

variable {τ : Type} [Tuner τ] {hosting : Hosting (Logged τ)}

/-- What is true of a host at any time, as far as its sessions' ends are concerned. -/
structure Sound (hosting : Hosting (Logged τ)) : Prop where
  fits : hosting.Fits
  order : hosting.InOrder
  bears : ∃ intruded, hosting.place.Bears intruded hosting.server.phase
  heeds : hosting.place.Heeds hosting.service.closeRequested hosting.server.phase hosting.calls

theorem sound_atRest (device : Logged τ) : (atRest device).Sound where
  fits := fits_atRest device
  order := inOrder_atRest device
  bears := ⟨false, nofun⟩
  heeds := trivial

theorem move_begin (hosting : Hosting (Logged τ)) (arguments : Arguments) :
    hosting.move (.begin arguments) = hosting ∨
      (hosting.move (.begin arguments)).place = start arguments := by
  simp only [Hosting.move]
  split
  · exact .inl rfl
  · exact .inr rfl

theorem Sound.bears_move (hsound : hosting.Sound) (move : Move) :
    ∃ intruded, (hosting.move move).place.Bears intruded (hosting.move move).server.phase := by
  obtain ⟨intruded, hbears⟩ := hsound.bears
  by_cases hmove : ∃ arguments, move = .begin arguments
  · obtain ⟨arguments, rfl⟩ := hmove
    rcases move_begin hosting arguments with hsame | hplace
    · exact hsame.symm ▸ hsound.bears
    · exact ⟨false, hplace ▸ rfl⟩
  · exact ⟨_, Hosting.bears_move hsound.fits hbears fun others hbegin => hmove ⟨others, hbegin⟩⟩

theorem stopping_mem_set {calls : List Call} {number : Nat} {call : Call}
    (hcall : calls[number]? = some call) (hother : call ≠ .stopping) (hmem : .stopping ∈ calls)
    (next : Call) : .stopping ∈ calls.set number next := by
  obtain ⟨index, hindex⟩ := List.getElem?_of_mem hmem
  have hne : number ≠ index := by
    rintro rfl
    exact hother (Option.some.inj (hcall.symm.trans hindex))
  exact List.mem_of_getElem? ((List.getElem?_set_ne hne).trans hindex)

theorem Sound.heeds_resume (hsound : hosting.Sound) (number : Nat) (signal : Relay.Signal) :
    (hosting.resume number signal).place.Heeds (hosting.resume number signal).service.closeRequested
      (hosting.resume number signal).server.phase (hosting.resume number signal).calls := by
  obtain ⟨intruded, hbears⟩ := hsound.bears
  cases hcall : hosting.calls[number]? with
  | none =>
      rw [resume, hcall]
      exact hsound.heeds
  | some call =>
      have haside := hsound.fits.aside call (List.mem_of_getElem? hcall)
      obtain ⟨-, -, -, hphase⟩ := Call.aside_step signal hosting.relay haside
      rw [resume, hcall]
      refine hsound.heeds.mono hbears (fun hclosing => ?_) fun hopening hpending => ?_
      · rcases hphase with hsame | ⟨-, hstopped⟩
        · exact (congrArg Phase.isClosing hsame).trans hclosing
        · exact (congrArg Phase.isClosing hstopped).trans (Phase.isClosing_stopped_of_isClosing hclosing)
      · by_cases hstopping : call = .stopping
        · subst hstopping
          have hstopped := Server.phase_stop hosting.server
          exact .inl ((congrArg Phase.isClosing hstopped).trans (Phase.isClosing_stopped hopening))
        · exact .inr (stopping_mem_set hcall hstopping hpending _)

theorem Sound.heeds_move (hsound : hosting.Sound) (move : Move) :
    (hosting.move move).place.Heeds (hosting.move move).service.closeRequested
      (hosting.move move).server.phase (hosting.move move).calls := by
  obtain ⟨intruded, hbears⟩ := hsound.bears
  cases move with
  | begin arguments =>
      rcases move_begin hosting arguments with hsame | hplace
      · exact hsame.symm ▸ hsound.heeds
      · rw [hplace]
        trivial
  | advance signal =>
      obtain ⟨arguments, hplace, hservice, hcalls⟩ := hosting.exists_step signal
      rw [Hosting.move, server, relay, hplace, hservice, hcalls]
      exact heeds_step arguments signal hsound.heeds hbears hsound.fits.holds
  | work worker signal =>
      refine hsound.heeds.mono hbears (fun hclosing => ?_) fun _ => .inr
      exact Relay.phase_work (fun phase => phase.isClosing = true)
        Server.Quiet.isClosing hclosing worker signal
  | close => exact hsound.heeds.mark
  | feed bytes =>
      exact hsound.heeds.mono hbears id fun _ hpending => .inr (List.mem_append_left _ hpending)
  | resume number signal => exact hsound.heeds_resume number signal
  | cancel => exact hsound.heeds

theorem Sound.move (hsound : hosting.Sound) (move : Move) : (hosting.move move).Sound where
  fits := hsound.fits.move move
  order := hsound.order.move hsound.fits move
  bears := hsound.bears_move move
  heeds := hsound.heeds_move move

theorem Sound.run (hsound : hosting.Sound) (moves : List Move) : (hosting.run moves).Sound := by
  induction moves generalizing hosting with
  | nil => exact hsound
  | cons move rest ih => exact ih (hsound.move move)

/-! ### Marks and calls -/

theorem closeRequested_step {σ : Type} [Tuner σ] {service : Service σ} (arguments : Arguments)
    (signal : Signal) {place : Place} (hmarked : service.closeRequested = true)
    (hplace : ∀ result, place ≠ .forgetting result) :
    (step arguments signal place service).2.closeRequested = true := by
  cases place with
  | configuring rest =>
      cases rest with
      | nil => exact hmarked
      | cons setup rest =>
          rw [step_configuring]
          exact hmarked
  | opening call =>
      simp only [step, afterOpening]
      split <;> exact hmarked
  | starting adapter =>
      rw [step_starting]
      exact hmarked
  | streaming adapter => cases signal <;> exact hmarked
  | forgetting result => exact absurd rfl (hplace result)
  | _ => exact hmarked

theorem closeRequested_move (hmarked : hosting.service.closeRequested = true)
    (hplace : ∀ result, hosting.place ≠ .forgetting result) (move : Move) :
    (hosting.move move).service.closeRequested = true := by
  cases move with
  | begin arguments =>
      simp only [Hosting.move]
      split <;> exact hmarked
  | advance signal =>
      obtain ⟨arguments, -, hservice, -⟩ := hosting.exists_step signal
      rw [Hosting.move, hservice]
      exact closeRequested_step arguments signal hmarked hplace
  | resume number signal =>
      rw [Hosting.move, resume]
      split <;> exact hmarked
  | close => rfl
  | work | feed | cancel => exact hmarked

theorem calls_move {number : Nat} {call : Call} (hcall : hosting.calls[number]? = some call)
    (move : Move) :
    (hosting.move move).calls[number]? = some call ∨ ∃ signal, move = .resume number signal := by
  have hmore : ∀ later : Call, (hosting.calls ++ [later])[number]? = some call := by
    intro later
    obtain ⟨hlt, -⟩ := List.getElem?_eq_some_iff.mp hcall
    rw [List.getElem?_append_left hlt, hcall]
  cases move with
  | begin arguments =>
      simp only [Hosting.move]
      split <;> exact .inl hcall
  | advance signal =>
      simp only [Hosting.move, advance]
      split <;> exact .inl hcall
  | resume other signal =>
      by_cases hother : other = number
      · exact .inr ⟨signal, by rw [hother]⟩
      · rw [Hosting.move, resume]
        split
        · exact .inl hcall
        · exact .inl ((List.getElem?_set_ne hother).trans hcall)
  | close => exact .inl (hmore _)
  | feed bytes => exact .inl (hmore _)
  | work | cancel => exact .inl hcall

theorem phase_resume_stopping {number : Nat} (hcall : hosting.calls[number]? = some .stopping)
    (signal : Relay.Signal) :
    (hosting.move (.resume number signal)).server.phase = hosting.server.phase.stopped := by
  rw [Hosting.move, resume, hcall]
  exact Server.phase_stop hosting.server

end Hosting

end TunerRelay.Session
