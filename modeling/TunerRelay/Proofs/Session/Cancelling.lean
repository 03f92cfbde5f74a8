import TunerRelay.Proofs.Relay.Reports
import TunerRelay.Proofs.Session.Closing

/-!
# Who ends streaming

When the supervisor of a session is about to end, it tells the session's adapter. That is active as
long as the receiver streams, and cancels. So streaming has been cancelled once the supervisor has
ended.
-/

namespace TunerRelay

open TunerRelay.Device (Tuner Request Logged)
open TunerRelay.Relay (Call Supervisor Worker)

/-! ### Cancellation -/

/-- Whether streaming has been cancelled since the receiver was last made ready for it. -/
def Device.Logged.isCancelled {τ : Type} (logged : Logged τ) : Bool :=
  logged.requests.foldl Receiver.cancelledAfter false

theorem Receiver.cancelledAfter_of_not_isAside {request : Request} (haside : isAside request = false)
    (cancelled : Bool) : cancelledAfter cancelled request = cancelled := by
  cases request <;> first | rfl | cases haside

namespace Adapters

variable {τ : Type} [Tuner τ]

def isCancelled (world : Adapters (Logged τ)) : Bool := world.device.isCancelled

theorem isCancelled_request (world : Adapters (Logged τ)) (request : Request) :
    (world.request request).2.isCancelled = Receiver.cancelledAfter world.isCancelled request :=
  List.foldl_append

/-- Neither commands nor the end of a session take a cancellation back. -/
theorem isCancelled_of_affects {world next : Adapters (Logged τ)}
    (haffects : Relay.Hub.Affects world next) (hcancelled : world.isCancelled = true) :
    next.isCancelled = true := by
  cases haffects with
  | stay => exact hcancelled
  | leave observer => exact isCancelled_request world .cancel
  | hear observer record =>
      change (world.react record).2.isCancelled = true
      unfold react
      split
      · rename_i request hreaction
        rw [isCancelled_request, Receiver.cancelledAfter_of_not_isAside
          (Adapter.Reaction.isAside_ofRecord hreaction), hcancelled]
      · exact hcancelled
      · exact hcancelled

theorem mem_inactive_deactivate {σ : Type} {world : Adapters σ} {observer adapter : Nat} :
    observer ∈ (world.deactivate adapter).inactive ↔
      observer = adapter ∨ observer ∈ world.inactive := by
  unfold deactivate
  split
  · exact List.mem_cons
  · rename_i hinactive
    have hmem : adapter ∈ world.inactive := by simpa [isActive] using hinactive
    exact ⟨.inr, fun hobserver => hobserver.elim (· ▸ hmem) id⟩

theorem inactive_of_affects {σ : Type} [Tuner σ] {world next : Adapters σ}
    (haffects : Relay.Hub.Affects world next) : next.inactive = world.inactive := by
  cases haffects with
  | stay | leave => rfl
  | hear observer record =>
      change (world.react record).2.inactive = world.inactive
      unfold react
      split <;> rfl

end Adapters

/-! ### Supervisors -/

namespace Relay

variable {ω : Type} [Audience ω]

theorem observer_work (relay : Relay ω) (worker : Worker) (signal : Signal) :
    (relay.work worker signal).server.observer = relay.server.observer := by
  cases hsupervisor : relay.supervisors[worker.number]? with
  | none => rw [work_eq_of_none signal hsupervisor]
  | some supervisor =>
      rw [work_eq signal hsupervisor]
      exact worker.observer_step signal supervisor relay.hub

theorem Call.observer_aside {call : Call} (signal : Signal) (relay : Relay ω)
    (haside : call.isAside = true) :
    (call.step signal relay).2.server.observer = relay.server.observer := by
  cases call with
  | stopping => exact Server.observer_stop relay.server
  | glancing bytes =>
      simp only [step]
      split <;> rfl
  | feeding bytes =>
      simp only [step, feed]
      split
      · rfl
      · exact Server.observer_feed relay.server bytes
  | returned outcome => rfl
  | _ => cases haside

end Relay

namespace Relay.Supervisor

/-- The supervisor works for this observer, or will once it begins. It has told it before it ends. -/
def Minds (observer : Nat) (cancelled : Bool) (supervisor : Supervisor) : Prop :=
  supervisor.place = .starting ∨
    supervisor.observer = some observer ∧ (supervisor.place = .ended → cancelled = true)

theorem Place.Leads.ne_ended {session : Option Nat} {server later : Server} {place next : Place}
    (hleads : place.Leads session server next later) (hplace : place.isUnderWay = true) :
    next ≠ .ended := by
  cases hleads with
  | inform | quit | leave | stay => cases hplace
  | _ => exact nofun

theorem Steps.ne_ended {supervisor next : Supervisor} {server later : Server}
    (hsteps : supervisor.Steps server next later) (hunderWay : supervisor.isUnderWay = true) :
    next.place ≠ .ended := by
  cases hsteps with
  | walk hleads => exact hleads.ne_ended hunderWay
  | register hplace hadmitted hnext =>
      rcases hnext with rfl | rfl <;> exact nofun
  | _ => exact nofun

theorem Steps.own_observer {supervisor next : Supervisor} {server later : Server}
    (hsteps : supervisor.Steps server next later) (hplace : supervisor.place ≠ .starting) :
    next.observer = supervisor.observer := by
  cases hsteps with
  | note hstarting => exact absurd hstarting hplace
  | _ => rfl

variable {τ : Type} [Tuner τ] {supervisor : Supervisor} {observer : Nat}
  {hub : Hub (Adapters (Logged τ))}

theorem Minds.step (hminds : supervisor.Minds observer hub.world.isCancelled)
    (hactive : hub.world.isActive observer = true) (hobserver : hub.server.observer = some observer)
    (signal : Signal) :
    (supervisor.step signal hub).1.Minds observer (supervisor.step signal hub).2.world.isCancelled := by
  have hsteps := supervisor.steps signal hub
  rcases hminds with hstarting | ⟨hown, hended⟩
  · simp only [Supervisor.step, hstarting]
    exact .inr ⟨hobserver, by rintro ⟨⟩⟩
  · cases hunderWay : supervisor.isUnderWay with
    | true =>
        by_cases hstarting : supervisor.place = .starting
        · simp only [Supervisor.step, hstarting]
          exact .inr ⟨hobserver, by rintro ⟨⟩⟩
        · refine .inr ⟨(hsteps.own_observer hstarting).trans hown, fun hlater => ?_⟩
          exact absurd hlater (hsteps.ne_ended hunderWay)
    | false =>
        cases hplace : supervisor.place with
        | notifying =>
            have hattends : (hub.attends observer) = true := hactive
            simp only [Supervisor.step, hplace, notify, hown, hattends, if_true]
            exact .inr ⟨hown, by rintro ⟨⟩⟩
        | leaving known =>
            simp only [Supervisor.step, hplace]
            exact .inr ⟨hown, fun _ => Adapters.isCancelled_request hub.world .cancel⟩
        | ended =>
            simp only [Supervisor.step, hplace]
            exact .inr ⟨hown, hended⟩
        | _ =>
            rw [isUnderWay, hplace] at hunderWay
            cases hunderWay

theorem Minds.stepReader (hminds : supervisor.Minds observer hub.world.isCancelled)
    (signal : Signal) :
    (supervisor.stepReader signal hub).1.Minds observer
      (supervisor.stepReader signal hub).2.world.isCancelled := by
  unfold Supervisor.stepReader
  split
  · rename_i reader known hreader hknown
    have hcancelled := Adapters.isCancelled_of_affects (reader.affects_step known signal hub)
    exact hminds.imp_right fun hown => ⟨hown.1, fun hended => hcancelled (hown.2 hended)⟩
  · exact hminds

end Relay.Supervisor

namespace Session

/-! ### Adapters -/

/-- The adapter of a session, from its making on until it is deactivated. -/
def Place.adapter? : Place → Option Nat
  | engaging adapter _ | checking adapter | halting adapter | announcing adapter | starting adapter
  | streaming adapter | deactivating adapter _ | withdrawing adapter _ => some adapter
  | _ => none

/-- Adapters that were deactivated have been made before, and the session's is not one of them. -/
structure Place.Enrolled {σ : Type} (service : Service σ) (place : Place) : Prop where
  inactive : ∀ adapter ∈ service.relay.hub.world.inactive, adapter < service.adapters
  current : ∀ adapter, place.adapter? = some adapter →
    adapter < service.adapters ∧ adapter ∉ service.relay.hub.world.inactive

section Enrolment

variable {σ : Type} {service later : Service σ} {place next : Place}

theorem Place.Enrolled.isActive (henrolled : place.Enrolled service) {adapter : Nat}
    (hadapter : place.adapter? = some adapter) :
    service.relay.hub.world.isActive adapter = true := by
  simp [Adapters.isActive, (henrolled.current adapter hadapter).2]

theorem Place.Enrolled.of_same (henrolled : place.Enrolled service)
    (hinactive : later.relay.hub.world.inactive = service.relay.hub.world.inactive)
    (hadapters : later.adapters = service.adapters)
    (hadapter : next.adapter? = none ∨ next.adapter? = place.adapter?) : next.Enrolled later where
  inactive := by
    rw [hinactive, hadapters]
    exact henrolled.inactive
  current := by
    rw [hinactive, hadapters]
    rcases hadapter with hnone | hsame
    · rw [hnone]
      exact nofun
    · rw [hsame]
      exact henrolled.current

/-- What a step of a session does about its adapter. -/
inductive Place.Adapts (service : Service σ) (place : Place) : Place → Service σ → Prop where
  | keep {next : Place} {later : Service σ} (hadapter : next.adapter? = place.adapter?)
    (hinactive : later.relay.hub.world.inactive = service.relay.hub.world.inactive)
    (hadapters : later.adapters = service.adapters) : Adapts service place next later
  /-- A session that has opened the server gets an adapter that nobody has had. -/
  | make {next : Place} {later : Service σ} (hbefore : place.adapter? = none)
    (hadapter : next.adapter? = some service.adapters)
    (hinactive : later.relay.hub.world.inactive = service.relay.hub.world.inactive)
    (hadapters : later.adapters = service.adapters + 1) : Adapts service place next later
  | deactivate {next : Place} {later : Service σ} (adapter : Nat)
    (hbefore : place.adapter? = some adapter) (hadapter : next.adapter? = none)
    (hinactive : later.relay.hub.world.inactive =
      (service.relay.hub.world.deactivate adapter).inactive)
    (hadapters : later.adapters = service.adapters) : Adapts service place next later

theorem Place.Adapts.enrolled (hadapts : place.Adapts service next later)
    (henrolled : place.Enrolled service) : next.Enrolled later := by
  cases hadapts with
  | keep hadapter hinactive hadapters =>
      exact henrolled.of_same hinactive hadapters (.inr hadapter)
  | make hbefore hadapter hinactive hadapters =>
      constructor
      · rw [hinactive, hadapters]
        exact fun adapter hmem => Nat.lt_succ_of_lt (henrolled.inactive adapter hmem)
      · rw [hadapter, hinactive, hadapters]
        rintro _ ⟨⟩
        refine ⟨Nat.lt_succ_self _, fun hmem => ?_⟩
        exact Nat.lt_irrefl _ (henrolled.inactive _ hmem)
  | deactivate adapter hbefore hadapter hinactive hadapters =>
      constructor
      · intro other hmem
        rw [hadapters]
        rw [hinactive, Adapters.mem_inactive_deactivate] at hmem
        rcases hmem with rfl | hold
        · exact (henrolled.current other hbefore).1
        · exact henrolled.inactive other hold
      · rw [hadapter]
        exact nofun

variable [Tuner σ]

theorem adapts_step (arguments : Arguments) (signal : Signal) (place : Place)
    (service : Service σ) :
    place.Adapts service (step arguments signal place service).1
      (step arguments signal place service).2 := by
  have hcall : ∀ call : Call,
      (stepCall signal call service).2.relay.hub.world.inactive =
        service.relay.hub.world.inactive := fun call =>
    Adapters.inactive_of_affects (call.affects_step signal.relaySignal service.relay)
  cases place with
  | configuring rest =>
      cases rest with
      | nil => exact .keep rfl rfl rfl
      | cons setup rest =>
          rw [step_configuring]
          cases (setup.perform service.device).1 <;> exact .keep rfl rfl rfl
  | opening call =>
      simp only [step, afterOpening]
      split
      · exact .make rfl rfl (hcall call) rfl
      · exact .keep rfl (hcall call) rfl
      · exact .keep rfl (hcall call) rfl
  | engaging adapter call =>
      refine .keep ?_ (hcall call) rfl
      simp only [step, afterEngaging]
      split <;> rfl
  | joining call streamed =>
      refine .keep ?_ (hcall call) rfl
      simp only [step, afterJoining]
      split <;> rfl
  | checking adapter =>
      refine .keep ?_ rfl rfl
      simp only [step]
      split <;> rfl
  | starting adapter =>
      rw [step_starting]
      refine .keep ?_ rfl rfl
      cases (service.request .stream).1 <;> rfl
  | streaming adapter => cases signal <;> exact .keep rfl rfl rfl
  | deactivating adapter | withdrawing adapter => exact .deactivate adapter rfl rfl rfl rfl
  | _ => exact .keep rfl rfl rfl

end Enrolment

/-! ### The supervisor of a session -/

variable {τ : Type} [Tuner τ]

/-- The adapter is the one to be served for, and the supervisor works for it. -/
structure Employs (service : Service (Logged τ)) (adapter number : Nat) : Prop where
  observer : service.relay.server.observer = some adapter
  minds : ∀ supervisor, service.relay.supervisors[number]? = some supervisor →
    supervisor.Minds adapter service.relay.hub.world.isCancelled

/-- What a session knows of the supervisor that serves for its adapter. -/
def Place.Minds (service : Service (Logged τ)) : Place → Prop
  | engaging adapter (.engaging observer) => observer = adapter
  | engaging adapter (.launching _) => service.relay.server.observer = some adapter
  | engaging adapter (.keeping number) => Employs service adapter number
  | checking adapter | halting adapter | announcing adapter | starting adapter
  | streaming adapter => ∀ number, service.relay.handle = some number → Employs service adapter number
  | _ => True

variable {service later : Service (Logged τ)} {adapter number : Nat}

omit [Tuner τ] in
theorem Employs.of_same (hemploys : Employs service adapter number)
    (hobserver : later.relay.server.observer = service.relay.server.observer)
    (hsupervisors : later.relay.supervisors = service.relay.supervisors)
    (hcancelled : service.relay.hub.world.isCancelled = true →
      later.relay.hub.world.isCancelled = true) : Employs later adapter number where
  observer := hobserver.trans hemploys.observer
  minds := by
    intro supervisor hsupervisor
    rw [hsupervisors] at hsupervisor
    refine (hemploys.minds supervisor hsupervisor).imp_right fun hown => ?_
    exact ⟨hown.1, fun hended => hcancelled (hown.2 hended)⟩

theorem minds_engaging (arguments : Arguments) (signal : Signal) {call : Call}
    (hminds : (Place.engaging adapter call).Minds service)
    (hholds : ((Place.engaging adapter call).stage service.relay.handle).Holds service.relay) :
    (step arguments signal (.engaging adapter call) service).1.Minds
      (step arguments signal (.engaging adapter call) service).2 := by
  cases call with
  | engaging observer =>
      obtain rfl : observer = adapter := hminds
      simp only [step, stepCall]
      by_cases hphase : service.relay.server.phase = .socketOpen
      · rw [Call.step_engaging _ observer hphase]
        rfl
      · rw [Call.step_engaging_of_ne _ observer hphase]
        trivial
  | launching observer =>
      simp only [step, stepCall, Call.step]
      cases signal.relaySignal with
      | failure reason => trivial
      | _ =>
          refine ⟨hminds, fun supervisor hsupervisor => .inl ?_⟩
          simp only [Relay.launch, List.getElem?_concat_length, Option.some.injEq] at hsupervisor
          exact hsupervisor ▸ rfl
  | keeping number =>
      rintro _ ⟨⟩
      exact Employs.of_same hminds rfl rfl id
  | clearing | excusing => trivial
  | _ => exact absurd hholds.1 List.not_mem_nil

theorem minds_step (arguments : Arguments) (signal : Signal) {place : Place}
    (hminds : place.Minds service)
    (hholds : (place.stage service.relay.handle).Holds service.relay) :
    (step arguments signal place service).1.Minds (step arguments signal place service).2 := by
  cases place with
  | configuring rest =>
      cases rest with
      | nil => trivial
      | cons setup rest =>
          rw [step_configuring]
          cases (setup.perform service.device).1 <;> trivial
  | opening call =>
      simp only [step, afterOpening]
      split
      · rfl
      · trivial
      · trivial
  | engaging adapter call => exact minds_engaging arguments signal hminds hholds
  | checking adapter =>
      simp only [step]
      split <;> exact hminds
  | halting adapter =>
      exact fun number hnumber => (hminds number hnumber).of_same
        (Server.observer_stop service.relay.server) rfl id
  | starting adapter =>
      rw [step_starting]
      cases (service.request .stream).1 with
      | error fault => trivial
      | ok =>
          refine fun number hnumber => (hminds number hnumber).of_same rfl rfl fun hcancelled => ?_
          exact (Adapters.isCancelled_request service.relay.hub.world .stream).trans hcancelled
  | streaming adapter =>
      cases signal with
      | outside signal => exact hminds
      | streamed result => trivial
  | announcing => exact fun number hnumber => (hminds number hnumber).of_same rfl rfl id
  | joining call streamed =>
      simp only [step, afterJoining]
      split <;> trivial
  | _ => trivial

/-! ### All that can happen -/

theorem Employs.work (hemploys : Employs service adapter number)
    (hactive : service.relay.hub.world.isActive adapter = true) (worker : Worker)
    (signal : Relay.Signal) :
    Employs { service with relay := service.relay.work worker signal } adapter number := by
  cases hacting : service.relay.supervisors[worker.number]? with
  | none =>
      simp only [Relay.work_eq_of_none signal hacting]
      exact hemploys
  | some acting =>
      have haffects := service.relay.affects_work worker signal
      simp only [Relay.work_eq signal hacting] at haffects ⊢
      refine ⟨(worker.observer_step signal acting service.relay.hub).trans hemploys.observer, ?_⟩
      intro supervisor hsupervisor
      by_cases hnumber : worker.number = number
      · subst hnumber
        obtain ⟨hlt, -⟩ := List.getElem?_eq_some_iff.mp hacting
        simp only [List.getElem?_set_self hlt, Option.some.injEq] at hsupervisor
        subst hsupervisor
        have hminds := hemploys.minds acting hacting
        cases worker with
        | supervisor number => exact hminds.step hactive hemploys.observer signal
        | reader number => exact hminds.stepReader signal
      · simp only [List.getElem?_set_ne hnumber] at hsupervisor
        refine (hemploys.minds supervisor hsupervisor).imp_right fun hown => ⟨hown.1, ?_⟩
        exact fun hended => Adapters.isCancelled_of_affects haffects (hown.2 hended)

omit [Tuner τ] in
/-- What keeps the supervisor in the adapter's employ keeps what the session knows of it. -/
theorem Place.Minds.of_employs {place : Place} (hminds : place.Minds service)
    (hhandle : later.relay.handle = service.relay.handle)
    (hobserver : later.relay.server.observer = service.relay.server.observer)
    (hemploys : ∀ adapter number, place.adapter? = some adapter → Employs service adapter number →
      Employs later adapter number) : place.Minds later := by
  cases place with
  | engaging adapter call =>
      cases call with
      | engaging observer => exact hminds
      | launching observer => exact hobserver.trans hminds
      | keeping number => exact hemploys adapter number rfl hminds
      | _ => trivial
  | checking adapter | halting adapter | announcing adapter | starting adapter | streaming adapter =>
      intro number hnumber
      exact hemploys adapter number rfl (hminds number (hhandle.symm.trans hnumber))
  | _ => trivial

namespace Hosting

/-- Adapters and supervisors are in order. -/
structure InOrder (hosting : Hosting (Logged τ)) : Prop where
  enrolled : hosting.place.Enrolled hosting.service
  minds : hosting.place.Minds hosting.service

variable {hosting : Hosting (Logged τ)}

omit [Tuner τ] in
theorem inOrder_atRest (device : Logged τ) : (atRest device).InOrder where
  enrolled := ⟨fun _ hmem => absurd hmem List.not_mem_nil, nofun⟩
  minds := trivial

/-- Others than the session's thread leave things in order. -/
theorem InOrder.of_affects {next : Hosting (Logged τ)} (horder : hosting.InOrder)
    (hplace : next.place = hosting.place)
    (hadapters : next.service.adapters = hosting.service.adapters)
    (hhandle : next.relay.handle = hosting.relay.handle)
    (hobserver : next.server.observer = hosting.server.observer)
    (hsupervisors : next.relay.supervisors = hosting.relay.supervisors)
    (haffects : Relay.Hub.Affects hosting.relay.hub.world next.relay.hub.world) : next.InOrder where
  enrolled := horder.enrolled.of_same (Adapters.inactive_of_affects haffects) hadapters
    (.inr (congrArg Place.adapter? hplace))
  minds := hplace ▸ horder.minds.of_employs hhandle hobserver fun _ _ _ hemploys =>
    hemploys.of_same hobserver hsupervisors (Adapters.isCancelled_of_affects haffects)

theorem InOrder.advance (horder : hosting.InOrder) (hfits : hosting.Fits) (signal : Signal) :
    (hosting.advance signal).InOrder := by
  obtain ⟨arguments, hplace, hservice, -⟩ := hosting.exists_step signal
  constructor
  · rw [hplace, hservice]
    exact (adapts_step arguments signal hosting.place hosting.service).enrolled horder.enrolled
  · rw [hplace, hservice]
    exact minds_step arguments signal horder.minds hfits.holds

theorem InOrder.work (horder : hosting.InOrder) (worker : Worker) (signal : Relay.Signal) :
    (hosting.move (.work worker signal)).InOrder where
  enrolled := horder.enrolled.of_same
    (Adapters.inactive_of_affects (hosting.relay.affects_work worker signal)) rfl (.inr rfl)
  minds := horder.minds.of_employs (hosting.relay.handle_work worker signal)
    (hosting.relay.observer_work worker signal) fun _ _ hadapter hemploys =>
      hemploys.work (horder.enrolled.isActive hadapter) worker signal

theorem InOrder.move (horder : hosting.InOrder) (hfits : hosting.Fits) (move : Move) :
    (hosting.move move).InOrder := by
  cases move with
  | begin arguments =>
      simp only [Hosting.move]
      split
      · exact horder
      · exact ⟨horder.enrolled.of_same rfl rfl (.inl rfl), trivial⟩
  | advance signal => exact horder.advance hfits signal
  | work worker signal => exact horder.work worker signal
  | close | feed => exact horder.of_affects rfl rfl rfl rfl rfl .stay
  | cancel => exact horder.of_affects rfl rfl rfl rfl rfl (.leave 0)
  | resume number signal =>
      cases hcall : hosting.calls[number]? with
      | none =>
          rw [Hosting.move, resume, hcall]
          exact horder
      | some call =>
          have haside := hfits.aside call (List.mem_of_getElem? hcall)
          obtain ⟨-, hsupervisors, hhandle, -⟩ := Call.aside_step signal hosting.relay haside
          rw [Hosting.move, resume, hcall]
          exact horder.of_affects rfl rfl hhandle (Call.observer_aside signal hosting.relay haside)
            hsupervisors (call.affects_step signal hosting.relay)

end Hosting

end Session

end TunerRelay
