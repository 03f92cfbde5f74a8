import TunerRelay.Proofs.Session.Heeding
import TunerRelay.Proofs.Session.Sections

/-!
# Who can be told

The server and its supervisors know observers by their numbers only, and keep them for as long as they
like. All of them are adapters of sessions: that of the session that is running, if it has one, and
adapters that were deactivated when theirs ended.
-/

namespace TunerRelay

open TunerRelay.Device (Tuner Logged)
open TunerRelay.Relay (Call)

namespace Relay

variable {ω : Type} [Audience ω]

/-- The server, or one of its supervisors, has this observer. -/
def HasObserver (relay : Relay ω) (observer : Nat) : Prop :=
  relay.server.observer = some observer ∨
    ∃ supervisor ∈ relay.supervisors, supervisor.observer = some observer

omit [Audience ω] in
theorem HasObserver.of_same {relay next : Relay ω} {observer : Nat}
    (hhas : next.HasObserver observer) (hserver : next.server.observer = relay.server.observer)
    (hsupervisors : next.supervisors = relay.supervisors) : relay.HasObserver observer := by
  unfold HasObserver at hhas
  rw [hserver, hsupervisors] at hhas
  exact hhas

/-- Supervisors get their observers from the server. -/
theorem Worker.observer_of_step {worker : Worker} {signal : Signal} {supervisor : Supervisor}
    {hub : Hub ω} {observer : Nat}
    (hobserver : (worker.step signal supervisor hub).1.observer = some observer) :
    supervisor.observer = some observer ∨ hub.server.observer = some observer := by
  have hreports := worker.reports_step signal supervisor hub
  generalize (worker.step signal supervisor hub).1 = next at hobserver hreports
  generalize (worker.step signal supervisor hub).2.farewells = told at hreports
  cases hreports with
  | note hahead hdue hslot => exact .inr (hslot.symm.trans hobserver)
  | tell known hdue hown hkept => exact .inl (hown.trans (hkept.symm.trans hobserver))
  | quit hdue hnone hkept =>
      rw [hkept] at hobserver
      cases hobserver
  | hold hkept => exact .inl (hkept.symm.trans hobserver)

theorem HasObserver.of_work {relay : Relay ω} {worker : Worker} {signal : Signal} {observer : Nat}
    (hhas : (relay.work worker signal).HasObserver observer) : relay.HasObserver observer := by
  cases hacting : relay.supervisors[worker.number]? with
  | none =>
      rw [work_eq_of_none signal hacting] at hhas
      exact hhas
  | some acting =>
      have hserver := relay.observer_work worker signal
      rcases hhas with hslot | ⟨supervisor, hmem, hobserver⟩
      · exact .inl (hserver.symm.trans hslot)
      · rw [work_eq signal hacting] at hmem
        rcases List.mem_or_eq_of_mem_set hmem with hold | rfl
        · exact .inr ⟨supervisor, hold, hobserver⟩
        · rcases Worker.observer_of_step hobserver with hown | hslot
          · exact .inr ⟨acting, List.mem_of_getElem? hacting, hown⟩
          · exact .inl hslot

theorem Call.hasObserver_of_step {call : Call} {signal : Signal} {relay : Relay ω} {observer : Nat}
    (hhas : (call.step signal relay).2.HasObserver observer) :
    relay.HasObserver observer ∨ call = .engaging observer := by
  have hreports := call.reports_step signal relay
  generalize (call.step signal relay).1 = next at hreports
  generalize (call.step signal relay).2 = later at hhas hreports
  cases hreports with
  | engage known hopen hstarted hslot hsupervisors =>
      rcases hhas with hserver | hsupervisor
      · obtain rfl : known = observer := Option.some.inj (hslot.symm.trans hserver)
        exact .inr rfl
      · exact .inl (.inr (hsupervisors ▸ hsupervisor))
  | launch known hslot hsupervisors =>
      left
      rcases hhas with hserver | ⟨supervisor, hmem, hobserver⟩
      · exact .inl (hslot.symm.trans hserver)
      · rw [hsupervisors] at hmem
        rcases List.mem_append.mp hmem with hold | hnew
        · exact .inr ⟨supervisor, hold, hobserver⟩
        · obtain rfl := List.mem_singleton.mp hnew
          cases hobserver
  | excuse known fault hslot hsupervisors => exact .inl (hhas.of_same hslot hsupervisors)
  | pass hwaits hlaunching hslot hsupervisors => exact .inl (hhas.of_same hslot hsupervisors)

end Relay

namespace Session

section Coverage

variable {σ : Type} {service later : Service σ} {place next : Place} {observer : Nat}

/-- The observer is the adapter of the session, or it was deactivated. -/
def Place.Covers (world : Adapters σ) (observer : Nat) (place : Place) : Prop :=
  place.adapter? = some observer ∨ observer ∈ world.inactive

/-- A session lets go of its adapter only by deactivating it. -/
theorem Place.Adapts.covers (hadapts : place.Adapts service next later)
    (hcovers : place.Covers service.relay.hub.world observer) :
    next.Covers later.relay.hub.world observer := by
  unfold Covers
  cases hadapts with
  | keep hadapter hinactive =>
      rw [hadapter, hinactive]
      exact hcovers
  | make hbefore hadapter hinactive =>
      rw [hinactive]
      refine .inr (hcovers.resolve_left fun hcurrent => ?_)
      rw [hbefore] at hcurrent
      cases hcurrent
  | deactivate adapter hbefore hadapter hinactive =>
      rw [hinactive, Adapters.mem_inactive_deactivate]
      refine .inr (hcovers.imp_left fun hcurrent => ?_)
      exact Option.some.inj (hcurrent.symm.trans hbefore)

/-- A session asks to be served in one place only. -/
theorem Place.eq_engaging (hcall : place.call? = some (.engaging observer))
    (hholds : (place.stage service.relay.handle).Holds service.relay) :
    ∃ adapter, place = .engaging adapter (.engaging observer) := by
  cases place with
  | opening call | joining call streamed =>
      obtain rfl : call = .engaging observer := Option.some.inj hcall
      exact absurd hholds.1 List.not_mem_nil
  | engaging adapter call =>
      obtain rfl : call = .engaging observer := Option.some.inj hcall
      exact ⟨adapter, rfl⟩
  | _ => cases hcall

end Coverage

namespace Hosting

variable {τ : Type} [Tuner τ] {hosting : Hosting (Logged τ)} {observer : Nat}

def world (hosting : Hosting (Logged τ)) : Adapters (Logged τ) := hosting.relay.hub.world

/-- Every observer that can be told is the adapter of the session, or was deactivated. -/
def Covered (hosting : Hosting (Logged τ)) : Prop :=
  ∀ observer, hosting.relay.HasObserver observer → hosting.place.Covers hosting.world observer

omit [Tuner τ] in
theorem covered_atRest (device : Logged τ) : (atRest device).Covered := by
  rintro observer (hserver | ⟨supervisor, hmem, -⟩)
  · cases hserver
  · exact absurd hmem List.not_mem_nil

theorem covers_move (hcovers : hosting.place.Covers hosting.world observer) (move : Move) :
    (hosting.move move).place.Covers (hosting.move move).world observer := by
  have haffects : ∀ {next : Hosting (Logged τ)}, next.place = hosting.place →
      Relay.Hub.Affects hosting.world next.world → next.place.Covers next.world observer := by
    intro next hplace haffects
    unfold Place.Covers
    rw [hplace, Adapters.inactive_of_affects haffects]
    exact hcovers
  cases move with
  | begin arguments =>
      simp only [Hosting.move]
      split
      · exact hcovers
      · -- A session that is over has no adapter any more.
        rename_i hrunning
        obtain ⟨result, hreturned⟩ := exists_returned (Bool.eq_false_iff.mpr hrunning)
        refine .inr (hcovers.resolve_left fun hcurrent => ?_)
        rw [hreturned] at hcurrent
        cases hcurrent
  | advance signal =>
      obtain ⟨arguments, hplace, hservice, -⟩ := hosting.exists_step signal
      simp only [Hosting.move, world, relay, hplace, hservice]
      exact (adapts_step arguments signal hosting.place hosting.service).covers hcovers
  | work worker signal => exact haffects rfl (hosting.relay.affects_work worker signal)
  | close | feed => exact hcovers
  | cancel => exact haffects rfl (.leave 0)
  | resume number signal =>
      rw [Hosting.move, resume]
      split
      · exact hcovers
      · exact haffects rfl (Call.affects_step _ signal hosting.relay)

theorem Sound.hasObserver_of_move (hsound : hosting.Sound) {move : Move}
    (hhas : (hosting.move move).relay.HasObserver observer) :
    hosting.relay.HasObserver observer ∨ hosting.place.adapter? = some observer := by
  rcases hsound.fits.move_cases move with ⟨call, signal, hcall, hserver, hsupervisors⟩ | ⟨_, _, hwork⟩
  · have hstepped := hhas.of_same (congrArg Server.observer hserver) hsupervisors
    rcases Call.hasObserver_of_step hstepped with hold | rfl
    · exact .inl hold
    · right
      rcases hcall with haside | hown
      · cases haside
      · obtain ⟨adapter, hplace⟩ := Place.eq_engaging hown hsound.fits.holds
        have hminds := hsound.order.minds
        rw [hplace] at hminds ⊢
        exact congrArg some (Eq.symm hminds)
  · rw [hwork] at hhas
    exact .inl hhas.of_work

theorem Covered.move (hcovered : hosting.Covered) (hsound : hosting.Sound) (move : Move) :
    (hosting.move move).Covered := by
  intro observer hhas
  rcases hsound.hasObserver_of_move hhas with hold | hcurrent
  · exact covers_move (hcovered observer hold) move
  · exact covers_move (.inl hcurrent) move

theorem Covered.run (hcovered : hosting.Covered) (hsound : hosting.Sound) (moves : List Move) :
    (hosting.run moves).Covered := by
  induction moves generalizing hosting with
  | nil => exact hcovered
  | cons move rest ih => exact ih (hcovered.move hsound move) (hsound.move move)

/-- Where the session has no adapter, all that can be told were deactivated. -/
theorem Covered.attends_eq_false (hcovered : hosting.Covered) (hnone : hosting.place.adapter? = none)
    (hhas : hosting.relay.HasObserver observer) : hosting.relay.hub.attends observer = false := by
  have hinactive : observer ∈ hosting.world.inactive := by
    refine (hcovered observer hhas).resolve_left fun hcurrent => ?_
    rw [hnone] at hcurrent
    cases hcurrent
  change (!hosting.world.inactive.contains observer) = false
  rw [List.contains_iff_mem.mpr hinactive]
  rfl

end Hosting

end Session

end TunerRelay
