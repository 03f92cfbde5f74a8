import TunerRelay.Proofs.Relay.Balance
import TunerRelay.Proofs.Relay.Stranding
import TunerRelay.Proofs.Session.Stages

/-!
# Every move is a section

Whatever happens while sessions are hosted, the server and its supervisors see a section of one call
or of one worker. The call is the session's own, or one that may be made at any time. While a
supervisor serves its client none of them closes the server.
-/

namespace TunerRelay

/-- Whether the supervisor has begun to serve its client and not yet waited for the reader. -/
def Relay.Supervisor.Serves (supervisor : Relay.Supervisor) : Prop :=
  supervisor.place = .spawning ∨ supervisor.place.isAttending = true

theorem Relay.Supervisor.serves_of_hand {supervisor : Relay.Supervisor}
    (hhand : supervisor.place.hand.isSome = true) : supervisor.Serves := by
  right
  cases hplace : supervisor.place with
  | writing | offering | returning => rfl
  | _ =>
      rw [hplace] at hhand
      cases hhand

theorem Relay.Supervisor.Serves.place_ne {supervisor : Relay.Supervisor}
    (hserves : supervisor.Serves) : supervisor.place ≠ .ended ∧ supervisor.place ≠ .closing := by
  constructor <;> intro hplace <;> rcases hserves with habsurd | habsurd <;>
    rw [hplace] at habsurd <;> cases habsurd

namespace Relay

/-- Calls that close the server even while it serves. -/
def Call.closesServed : Call → Bool
  | .staging _ _ _ | .engaging _ | .abandoning _ | .clearing _ _ => true
  | _ => false

theorem Call.closesServed_of_isAside {call : Call} (haside : call.isAside = true) :
    call.closesServed = false := by
  cases call with
  | stopping | glancing | feeding | returned => rfl
  | _ => cases haside

/-- Other calls leave a server alone that serves, or at most stop it. -/
theorem Call.isServed_step {ω : Type} [Audience ω] {call : Call} (signal : Signal) {relay : Relay ω}
    (hcall : call.closesServed = false) (hserved : relay.server.phase.IsServed) :
    (call.step signal relay).2.server.phase.IsServed := by
  refine (call.isServed_or_step signal hserved).resolve_right fun hclosed => ?_
  rcases closes_step hclosed hserved.ne_uninitialized with
    ⟨_, _, _, rfl⟩ | ⟨_, rfl⟩ | ⟨-, hearly⟩ | ⟨_, rfl⟩ | ⟨_, _, rfl⟩
  · cases hcall
  · cases hcall
  · -- A stop closes the server in earlier phases only.
    revert hearly
    rcases hserved with hphase | hphase <;> rw [hphase] <;> decide
  · cases hcall
  · cases hcall

end Relay

/-- No thread of a supervisor that serves closes the server. -/
theorem Relay.Worker.isServed_step {ω : Type} [Relay.Audience ω] (worker : Relay.Worker)
    (signal : Relay.Signal) {supervisor : Relay.Supervisor} {hub : Relay.Hub ω}
    (hserves : supervisor.Serves) (hserved : hub.server.phase.IsServed) :
    (worker.step signal supervisor hub).2.server.phase.IsServed := by
  have hopen := hserved.ne_uninitialized
  refine ((worker.work_step signal supervisor hub).isServed_or hserved).resolve_right fun hclosed => ?_
  cases worker with
  | supervisor number =>
      exact hopen ((supervisor.steps signal hub).phase_eq hserves.place_ne.2 hclosed)
  | reader number =>
      simp only [step, Supervisor.stepReader] at hclosed
      split at hclosed
      · exact Reader.phase_eq_of_step hserved hclosed
      · exact hopen hclosed

namespace Session

open TunerRelay.Device (Tuner)
open TunerRelay.Relay (Call Supervisor Worker)

/-- The call that the session is making. -/
def Place.call? : Place → Option Call
  | .opening call | .engaging _ call | .joining call _ => some call
  | _ => none

variable {σ : Type} [Tuner σ]

/-- What the relay has become in the eyes of the server and of its supervisors. -/
def Looks (relay next : Relay (Adapters σ)) : Prop :=
  next.server = relay.server ∧ next.supervisors = relay.supervisors

theorem step_cases (arguments : Arguments) (signal : Signal) (place : Place) (service : Service σ) :
    ∃ call, (call.isAside = true ∨ place.call? = some call) ∧
      Looks (call.step signal.relaySignal service.relay).2
        (step arguments signal place service).2.relay := by
  have hstay : ∃ call : Call, (call.isAside = true ∨ place.call? = some call) ∧
      Looks (call.step signal.relaySignal service.relay).2 service.relay :=
    ⟨.returned .stopped, .inl rfl, rfl, rfl⟩
  cases place with
  | configuring rest =>
      cases rest with
      | nil => exact hstay
      | cons setup rest =>
          rw [step_configuring]
          exact hstay
  | opening call =>
      refine ⟨call, .inr rfl, ?_⟩
      simp only [step, afterOpening]
      split <;> exact ⟨rfl, rfl⟩
  | engaging adapter call => exact ⟨call, .inr rfl, rfl, rfl⟩
  | joining call streamed => exact ⟨call, .inr rfl, rfl, rfl⟩
  | halting | stopping => exact ⟨.stopping, .inl rfl, rfl, rfl⟩
  | starting adapter =>
      rw [step_starting]
      exact hstay
  | streaming adapter => cases signal <;> exact hstay
  | _ => exact hstay

/-- While a supervisor is about, the session makes no such call itself. -/
theorem Place.closesServed_eq_false {place : Place} {handle : Option Nat} {number : Option Nat}
    {call : Call} (hstage : place.stage handle = .attended number)
    (hcall : place.call? = some call) : call.closesServed = false := by
  cases place with
  | opening own | engaging adapter own | joining own streamed =>
      obtain rfl : own = call := Option.some.inj hcall
      cases own with
      | staging | engaging | abandoning | clearing => cases hstage
      | _ => rfl
  | _ => cases hcall

namespace Hosting

variable {hosting : Hosting σ}

/-- What a move does to the server and to its supervisors. -/
theorem Fits.move_cases (hfits : hosting.Fits) (move : Move) :
    (∃ call signal, (call.isAside = true ∨ hosting.place.call? = some call) ∧
      Looks (call.step signal hosting.relay).2 (hosting.move move).relay) ∨
      ∃ worker signal, (hosting.move move).relay = hosting.relay.work worker signal := by
  have hstay : ∀ next : Hosting σ, Looks hosting.relay next.relay →
      ∃ call signal, (call.isAside = true ∨ hosting.place.call? = some call) ∧
        Looks (call.step signal hosting.relay).2 next.relay :=
    fun next hlooks => ⟨.returned .stopped, .nothing, .inl rfl, hlooks⟩
  cases move with
  | begin arguments =>
      refine .inl (hstay _ ?_)
      simp only [Hosting.move]
      split <;> exact ⟨rfl, rfl⟩
  | advance signal =>
      obtain ⟨arguments, -, hservice, -⟩ := hosting.exists_step signal
      obtain ⟨call, hcall, hlooks⟩ := step_cases arguments signal hosting.place hosting.service
      refine .inl ⟨call, signal.relaySignal, hcall, ?_⟩
      rw [← hservice] at hlooks
      exact hlooks
  | work worker signal => exact .inr ⟨worker, signal, rfl⟩
  | close | feed | cancel => exact .inl (hstay _ ⟨rfl, rfl⟩)
  | resume number signal =>
      left
      cases hcall : hosting.calls[number]? with
      | none =>
          refine hstay _ ?_
          simp only [Hosting.move, Hosting.resume, hcall]
          exact ⟨rfl, rfl⟩
      | some call =>
          refine ⟨call, signal, .inl (hfits.aside call (List.mem_of_getElem? hcall)), ?_⟩
          simp only [Hosting.move, Hosting.resume, hcall]
          exact ⟨rfl, rfl⟩

section Serving

variable {supervisor : Supervisor} (hfits : hosting.Fits)
  (hmem : supervisor ∈ hosting.relay.supervisors) (hserves : supervisor.Serves)

include hfits hmem hserves

omit [Tuner σ] in
/-- A supervisor that serves is the one that the session attends to. -/
theorem Serves.exists_attends : ∃ number, hosting.place.stage hosting.relay.handle =
    .attended (some number) ∧ hosting.relay.Attends number ∧
      hosting.relay.supervisors[number]? = some supervisor := by
  have hholds := hfits.holds
  cases hstage : hosting.place.stage hosting.relay.handle with
  | idle phases =>
      rw [hstage] at hholds
      exact absurd (hholds.2 supervisor hmem) hserves.place_ne.1
  | attended number =>
      rw [hstage] at hholds
      obtain ⟨known, rfl, hattends⟩ := hholds
      refine ⟨known, rfl, hattends, ?_⟩
      obtain ⟨other, hother⟩ := List.getElem?_of_mem hmem
      obtain ⟨hbound, -⟩ := List.getElem?_eq_some_iff.mp hother
      rw [hattends.length_eq] at hbound
      rcases Nat.lt_succ_iff_lt_or_eq.mp hbound with hless | rfl
      · exact absurd (hattends.ended other supervisor hless hother) hserves.place_ne.1
      · exact hother

/-- Only the supervisor that serves has threads that are still at work. -/
theorem Serves.isServed_work (hserved : hosting.server.phase.IsServed) (worker : Worker)
    (signal : Relay.Signal) : (hosting.relay.work worker signal).server.phase.IsServed := by
  obtain ⟨number, -, hattends, hnumber⟩ := Serves.exists_attends hfits hmem hserves
  cases hacting : hosting.relay.supervisors[worker.number]? with
  | none =>
      rw [Relay.work_eq_of_none signal hacting]
      exact hserved
  | some acting =>
      have htended := hfits.kept.tended acting (List.mem_of_getElem? hacting)
      by_cases hended : acting.place = .ended
      · rw [Relay.work_of_ended signal hacting hended htended]
        exact hserved
      · have hself : worker.number = number := by
          obtain ⟨hbound, -⟩ := List.getElem?_eq_some_iff.mp hacting
          rw [hattends.length_eq] at hbound
          refine (Nat.lt_succ_iff_lt_or_eq.mp hbound).resolve_left fun hless => ?_
          exact hended (hattends.ended _ acting hless hacting)
        obtain rfl : supervisor = acting := by
          rw [hself, hnumber] at hacting
          exact Option.some.inj hacting
        rw [Relay.work_eq signal hacting]
        exact worker.isServed_step signal hserves hserved

theorem Serves.isServed_move (hserved : hosting.server.phase.IsServed) (move : Move) :
    (hosting.move move).server.phase.IsServed := by
  obtain ⟨number, hstage, -, -⟩ := Serves.exists_attends hfits hmem hserves
  rcases hfits.move_cases move with ⟨call, signal, hcall, hserver, -⟩ | ⟨worker, signal, hwork⟩
  · have hcalled : call.closesServed = false :=
      hcall.elim Call.closesServed_of_isAside (Place.closesServed_eq_false hstage)
    change (hosting.move move).relay.server.phase.IsServed
    rw [hserver]
    exact call.isServed_step signal hcalled hserved
  · change (hosting.move move).relay.server.phase.IsServed
    rw [hwork]
    exact Serves.isServed_work hfits hmem hserves hserved worker signal

end Serving

end Hosting

end Session

end TunerRelay
