import TunerRelay.Proofs.Relay.Resources
import TunerRelay.Session.Hosting

/-!
# Who works for a session

Between two sessions, and until the server has agreed to serve, every supervisor has ended and the
server can be in few phases, to which a stop adds none. From then on one supervisor may be about. It
has closed the server before it ends, and nobody opens the server again before the session has
waited for it.
-/

namespace TunerRelay

namespace Server

/-- The phase that a stop leads to. -/
def Phase.stopped (phase : Phase) : Phase :=
  if phase.number < Phase.asyncStarted.number then .uninitialized else .stopping

theorem phase_stop (server : Server) : server.stop.phase = server.phase.stopped := by
  unfold stop
  split
  · rename_i hphase
    rw [hphase]
    rfl
  · split
    · rw [phase_cleanUp, Phase.stopped, if_pos ‹_›]
    · rw [Phase.stopped, if_neg ‹_›]

end Server

namespace Relay

open TunerRelay.Server (Phase)

variable {ω : Type}

/-- Every supervisor has ended. -/
def IsOver (relay : Relay ω) : Prop := ∀ supervisor ∈ relay.supervisors, supervisor.place = .ended

/-- The supervisor of this number is the last and all others have ended. Once it is no longer under
way, the server is at rest. -/
structure Attends (relay : Relay ω) (number : Nat) : Prop where
  length_eq : relay.supervisors.length = number + 1
  ended : ∀ (other : Nat) (supervisor : Supervisor), other < number →
    relay.supervisors[other]? = some supervisor → supervisor.place = .ended
  atRest : ∀ supervisor, relay.supervisors[number]? = some supervisor →
    supervisor.isUnderWay = false → relay.server.phase = .uninitialized

/-- What every section keeps up. -/
structure Kept (relay : Relay ω) : Prop where
  equipped : relay.server.Equipped
  tended : ∀ supervisor ∈ relay.supervisors, supervisor.Tended

theorem Attends.of_phase {relay next : Relay ω} {number : Nat} (hattends : relay.Attends number)
    (hsupervisors : next.supervisors = relay.supervisors)
    (hphase : relay.server.phase = .uninitialized → next.server.phase = .uninitialized) :
    next.Attends number where
  length_eq := hsupervisors ▸ hattends.length_eq
  ended := by
    rw [hsupervisors]
    exact hattends.ended
  atRest := by
    rw [hsupervisors]
    exact fun supervisor hsupervisor hdone => hphase (hattends.atRest supervisor hsupervisor hdone)

/-- Once the last supervisor has ended, too, all is over. -/
theorem Attends.over {relay : Relay ω} {number : Nat} (hattends : relay.Attends number)
    (hended : relay.hasEnded number = true) :
    relay.server.phase = .uninitialized ∧ relay.IsOver := by
  have hlt : number < relay.supervisors.length := hattends.length_eq ▸ Nat.lt_succ_self number
  have hlast := List.getElem?_eq_getElem hlt
  have hplace : relay.supervisors[number].place = .ended := by
    simpa [hasEnded, hlast, Supervisor.isEnded] using hended
  refine ⟨hattends.atRest _ hlast (by rw [Supervisor.isUnderWay, hplace]; rfl), ?_⟩
  intro supervisor hmem
  obtain ⟨other, hother⟩ := List.getElem?_of_mem hmem
  obtain ⟨hbound, -⟩ := List.getElem?_eq_some_iff.mp hother
  rw [hattends.length_eq] at hbound
  rcases Nat.lt_succ_iff_lt_or_eq.mp hbound with hless | rfl
  · exact hattends.ended other supervisor hless hother
  · exact Option.some.inj (hother.symm.trans hlast) ▸ hplace

variable [Audience ω]

/-! ### Workers -/

theorem work_eq {relay : Relay ω} {worker : Worker} {supervisor : Supervisor} (signal : Signal)
    (hsupervisor : relay.supervisors[worker.number]? = some supervisor) :
    relay.work worker signal =
      { relay with
        hub := (worker.step signal supervisor relay.hub).2
        supervisors := relay.supervisors.set worker.number
          (worker.step signal supervisor relay.hub).1 } := by
  cases worker <;> simp [work, hsupervisor, Worker.step]

theorem work_eq_of_none {relay : Relay ω} {worker : Worker} (signal : Signal)
    (hsupervisor : relay.supervisors[worker.number]? = none) : relay.work worker signal = relay := by
  simp [work, hsupervisor]

theorem handle_work (relay : Relay ω) (worker : Worker) (signal : Signal) :
    (relay.work worker signal).handle = relay.handle := by
  unfold work
  split <;> rfl

/-- The workers of a session that is over do nothing. -/
theorem work_of_ended {relay : Relay ω} {worker : Worker} {supervisor : Supervisor}
    (signal : Signal) (hsupervisor : relay.supervisors[worker.number]? = some supervisor)
    (hended : supervisor.place = .ended) (htended : supervisor.Tended) :
    relay.work worker signal = relay := by
  have hstep : worker.step signal supervisor relay.hub = (supervisor, relay.hub) := by
    cases worker with
    | supervisor number => simp [Worker.step, Supervisor.step, hended]
    | reader number =>
        refine Supervisor.stepReader_of_readerIsEnded signal relay.hub ?_
        refine htended.resolve_right fun hattending => ?_
        rw [hended] at hattending
        cases hattending.1
  obtain ⟨hlt, hown⟩ := List.getElem?_eq_some_iff.mp hsupervisor
  rw [work_eq signal hsupervisor, hstep, ← hown, List.set_getElem_self]

theorem IsOver.work_eq {relay : Relay ω} (hover : relay.IsOver) (hkept : relay.Kept)
    (worker : Worker) (signal : Signal) : relay.work worker signal = relay := by
  cases hsupervisor : relay.supervisors[worker.number]? with
  | none => exact work_eq_of_none signal hsupervisor
  | some supervisor =>
      have hmem := List.mem_of_getElem? hsupervisor
      exact work_of_ended signal hsupervisor (hover supervisor hmem) (hkept.tended supervisor hmem)

theorem Kept.work {relay : Relay ω} (hkept : relay.Kept) (worker : Worker) (signal : Signal) :
    (relay.work worker signal).Kept := by
  cases hsupervisor : relay.supervisors[worker.number]? with
  | none =>
      rw [work_eq_of_none signal hsupervisor]
      exact hkept
  | some supervisor =>
      rw [Relay.work_eq signal hsupervisor]
      refine ⟨(worker.work_step signal supervisor relay.hub).equipped hkept.equipped, ?_⟩
      intro later hlater
      rcases List.mem_or_eq_of_mem_set hlater with hold | rfl
      · exact hkept.tended later hold
      · exact worker.tended_step signal relay.hub
          (hkept.tended supervisor (List.mem_of_getElem? hsupervisor))

theorem Attends.work {relay : Relay ω} {number : Nat} (hattends : relay.Attends number)
    (hkept : relay.Kept) (worker : Worker) (signal : Signal) :
    (relay.work worker signal).Attends number := by
  cases hsupervisor : relay.supervisors[worker.number]? with
  | none =>
      rw [work_eq_of_none signal hsupervisor]
      exact hattends
  | some supervisor =>
      have htended := hkept.tended supervisor (List.mem_of_getElem? hsupervisor)
      obtain ⟨hlt, -⟩ := List.getElem?_eq_some_iff.mp hsupervisor
      have hbound := hlt
      rw [hattends.length_eq] at hbound
      rcases Nat.lt_succ_iff_lt_or_eq.mp hbound with hless | hlast
      · rw [work_of_ended signal hsupervisor (hattends.ended _ supervisor hless hsupervisor) htended]
        exact hattends
      · rw [Relay.work_eq signal hsupervisor]
        refine ⟨(List.length_set ..).trans hattends.length_eq, ?_, ?_⟩
        · intro other known hother hknown
          simp only [List.getElem?_set_ne (hlast.trans_ne hother.ne')] at hknown
          exact hattends.ended other known hother hknown
        · intro later hlater hdone
          simp only [← hlast, List.getElem?_set_self hlt, Option.some.injEq] at hlater
          subst hlater
          cases hunderWay : supervisor.isUnderWay with
          | true =>
              have hstep := worker.isUnderWay_step signal relay.hub hunderWay
              refine hstep.resolve_left fun hstill => ?_
              rw [hdone] at hstill
              cases hstill
          | false =>
              have hserver :=
                (worker.step_of_not_isUnderWay signal relay.hub htended hunderWay).1
              refine (congrArg Server.phase hserver).trans ?_
              exact hattends.atRest supervisor (hlast ▸ hsupervisor) hunderWay

/-! ### Calls of others -/

/-- Calls that neither open the server nor have it serve, nor wait for a supervisor. -/
def Call.isAside : Call → Bool
  | .stopping | .glancing _ | .feeding _ | .returned _ => true
  | _ => false

theorem Call.aside_step {call : Call} (signal : Signal) (relay : Relay ω)
    (haside : call.isAside = true) :
    (call.step signal relay).1.isAside = true ∧
      (call.step signal relay).2.supervisors = relay.supervisors ∧
      (call.step signal relay).2.handle = relay.handle ∧
      ((call.step signal relay).2.server.phase = relay.server.phase ∨
        call = .stopping ∧
          (call.step signal relay).2.server.phase = relay.server.phase.stopped) := by
  cases call with
  | stopping => exact ⟨rfl, rfl, rfl, .inr ⟨rfl, Server.phase_stop relay.server⟩⟩
  | glancing bytes =>
      simp only [step]
      split <;> exact ⟨rfl, rfl, rfl, .inl rfl⟩
  | feeding bytes =>
      simp only [step, feed]
      split
      · exact ⟨rfl, rfl, rfl, .inl rfl⟩
      · exact ⟨rfl, rfl, rfl, .inl (Server.phase_feed relay.server bytes)⟩
  | returned outcome => exact ⟨rfl, rfl, rfl, .inl rfl⟩
  | _ => cases haside

theorem Kept.step {relay : Relay ω} (hkept : relay.Kept) (call : Call) (signal : Signal) :
    (call.step signal relay).2.Kept := by
  refine ⟨(call.acts signal relay).equipped hkept.equipped, ?_⟩
  intro supervisor hmem
  rcases call.supervisors_step signal relay with hsame | ⟨hmore, -⟩
  · rw [hsame] at hmem
    exact hkept.tended supervisor hmem
  · rw [hmore, List.mem_append, List.mem_singleton] at hmem
    rcases hmem with hold | rfl
    · exact hkept.tended supervisor hold
    · exact .inl rfl

end Relay

/-! ### Places of a session -/

namespace Session

open TunerRelay.Device (Tuner Request)
open TunerRelay.Relay (Call Worker)
open TunerRelay.Server (Phase)

/-- What a place of a session says about the relay. -/
inductive Stage where
  /-- All supervisors have ended, and the server is in one of these phases. -/
  | idle (phases : List Phase)
  /-- The supervisor of this number may be about. -/
  | attended (number : Option Nat)

/-- The stage of a place, while this supervisor is the one to be waited for. -/
def Place.stage (handle : Option Nat) : Place → Stage
  | .opening (.staging _ _ _) => .idle [.uninitialized]
  | .opening (.binding _) | .opening (.preparing _) | .opening (.listening _)
  | .opening (.abandoning _) => .idle [.uninitialized, .initialized]
  | .opening _ => .idle []
  | .engaging _ (.engaging _) => .idle [.uninitialized, .socketOpen]
  | .engaging _ (.launching _) | .engaging _ (.clearing _ _) => .idle [.asyncStarted, .stopping]
  | .engaging _ (.excusing _ _) => .idle [.uninitialized]
  | .engaging _ (.keeping number) => .attended (some number)
  | .engaging _ _ => .idle []
  | .checking _ | .halting _ | .announcing _ | .starting _ | .streaming _ | .deactivating _ _
  | .closing _ | .stopping _ => .attended handle
  | .joining .collecting _ => .attended handle
  | .joining (.awaiting number) _ => .attended (some number)
  | .joining _ _ => .idle []
  | .configuring _ | .withdrawing _ _ | .releasing _ | .forgetting _ | .reporting _
  | .returned _ => .idle [.uninitialized]

def Stage.Holds {ω : Type} (relay : Relay ω) : Stage → Prop
  | .idle phases => relay.server.phase ∈ phases ∧ relay.IsOver
  | .attended number => ∃ known, number = some known ∧ relay.Attends known

theorem Stage.Holds.of_idle {ω : Type} {relay next : Relay ω} {phases : List Phase}
    (hidle : (Stage.idle phases).Holds relay) (later : List Phase)
    (hsupervisors : next.supervisors = relay.supervisors) (hphase : next.server.phase ∈ later) :
    (Stage.idle later).Holds next := by
  refine ⟨hphase, ?_⟩
  unfold Relay.IsOver
  rw [hsupervisors]
  exact hidle.2

/-- No stop leads out of a stage. -/
theorem Place.stopped_mem_stage {place : Place} {handle : Option Nat} {phases : List Phase}
    (hstage : place.stage handle = .idle phases) :
    ∀ phase ∈ phases, phase.stopped ∈ phases := by
  have hall : ∀ known : List Phase, known ∈ [[], [Phase.uninitialized],
      [.uninitialized, .initialized], [.uninitialized, .socketOpen], [.asyncStarted, .stopping]] →
      ∀ phase ∈ known, phase.stopped ∈ known := by decide
  refine hall phases ?_
  cases place with
  | opening call | engaging adapter call | joining call streamed =>
      cases call <;> cases hstage <;> decide
  | _ => cases hstage <;> decide

/-- A section that changes the phase as a stop does, or not at all. -/
theorem Stage.Holds.of_stop {ω : Type} {relay next : Relay ω} {place : Place}
    (hholds : (place.stage relay.handle).Holds relay)
    (hsupervisors : next.supervisors = relay.supervisors) (hhandle : next.handle = relay.handle)
    (hphase : next.server.phase = relay.server.phase ∨
      next.server.phase = relay.server.phase.stopped) :
    (place.stage next.handle).Holds next := by
  rw [hhandle]
  cases hstage : place.stage relay.handle with
  | idle phases =>
      rw [hstage] at hholds
      refine hholds.of_idle phases hsupervisors ?_
      rcases hphase with hsame | hstopped
      · exact hsame ▸ hholds.1
      · exact hstopped ▸ Place.stopped_mem_stage hstage _ hholds.1
  | attended number =>
      rw [hstage] at hholds
      obtain ⟨known, hknown, hattends⟩ := hholds
      refine ⟨known, hknown, hattends.of_phase hsupervisors fun hrest => ?_⟩
      rcases hphase with hsame | hstopped
      · exact hsame.trans hrest
      · rw [hstopped, hrest]
        rfl

section Steps

variable {σ : Type} [Tuner σ] {service : Service σ}

theorem step_configuring (arguments : Arguments) (signal : Signal) (setup : Setup)
    (rest : List Setup) (service : Service σ) :
    step arguments signal (.configuring (setup :: rest)) service =
      (match (setup.perform service.device).1 with
        | some failure => .releasing failure
        | none => .configuring rest,
      service.withWorld
        { service.relay.hub.world with device := (setup.perform service.device).2 }) := by
  simp only [step, configure]
  split <;> simp only [*]

theorem step_starting (arguments : Arguments) (signal : Signal) (adapter : Nat)
    (service : Service σ) :
    step arguments signal (.starting adapter) service =
      (match (service.request .stream).1 with
        | .ok () => .streaming adapter
        | .error fault => .deactivating adapter (.error fault),
      (service.request .stream).2) := by
  simp only [step]
  split <;> simp only [*]

theorem holds_opening (arguments : Arguments) (signal : Signal) {call : Call}
    (hholds : ((Place.opening call).stage service.relay.handle).Holds service.relay) :
    ((step arguments signal (.opening call) service).1.stage
      (step arguments signal (.opening call) service).2.relay.handle).Holds
        (step arguments signal (.opening call) service).2.relay := by
  cases call with
  | staging address port header =>
      have hphase : service.relay.server.phase = .uninitialized := List.mem_singleton.mp hholds.1
      simp only [step, stepCall, Call.step, Call.stage, Server.stage, hphase, if_true]
      cases Call.endpoint? address port with
      | none =>
          exact hholds.of_idle [.uninitialized, .initialized] rfl
            (List.mem_cons_of_mem _ (List.mem_singleton_self _))
      | some endpoint =>
          exact hholds.of_idle [.uninitialized, .initialized] rfl
            (List.mem_cons_of_mem _ (List.mem_singleton_self _))
  | binding endpoint =>
      simp only [step, stepCall, Call.step]
      cases signal.relaySignal <;> exact hholds
  | preparing endpoint =>
      simp only [step, stepCall, Call.step]
      cases signal.relaySignal <;> exact hholds
  | listening endpoint =>
      simp only [step, stepCall, Call.step, Call.listen, Server.listen]
      by_cases hphase : service.relay.server.phase = .initialized
      · simp only [hphase, if_true]
        exact hholds.of_idle [.uninitialized, .socketOpen] rfl
          (List.mem_cons_of_mem _ (List.mem_singleton_self _))
      · simp only [hphase, if_false]
        exact hholds
  | abandoning fault =>
      exact hholds.of_idle [.uninitialized] rfl
        (List.mem_singleton.mpr (Server.phase_cleanUp service.relay.server))
  | _ => exact absurd hholds.1 List.not_mem_nil

theorem holds_engaging (arguments : Arguments) (signal : Signal) {adapter : Nat} {call : Call}
    (hholds : ((Place.engaging adapter call).stage service.relay.handle).Holds service.relay) :
    ((step arguments signal (.engaging adapter call) service).1.stage
      (step arguments signal (.engaging adapter call) service).2.relay.handle).Holds
        (step arguments signal (.engaging adapter call) service).2.relay := by
  cases call with
  | engaging observer =>
      simp only [step, stepCall]
      by_cases hphase : service.relay.server.phase = .socketOpen
      · rw [Call.step_engaging _ observer hphase]
        exact hholds.of_idle [.asyncStarted, .stopping] rfl List.mem_cons_self
      · rw [Call.step_engaging_of_ne _ observer hphase]
        exact hholds.of_idle [.uninitialized] rfl
          (List.mem_singleton.mpr (Server.phase_cleanUp service.relay.server))
  | launching observer =>
      have hlaunched : (service.relay.launch.2).Attends service.relay.supervisors.length := by
        refine ⟨List.length_append, ?_, ?_⟩
        · intro other supervisor hother hsupervisor
          simp only [Relay.launch, List.getElem?_append_left hother] at hsupervisor
          exact hholds.2 supervisor (List.mem_of_getElem? hsupervisor)
        · intro supervisor hsupervisor hdone
          simp only [Relay.launch, List.getElem?_concat_length, Option.some.injEq] at hsupervisor
          subst hsupervisor
          cases hdone
      simp only [step, stepCall, Call.step]
      cases signal.relaySignal with
      | failure reason => exact hholds
      | _ => exact ⟨_, rfl, hlaunched⟩
  | clearing observer fault =>
      exact hholds.of_idle [.uninitialized] rfl
        (List.mem_singleton.mpr (Server.phase_cleanUp service.relay.server))
  | excusing observer fault =>
      refine hholds.of_idle [.uninitialized] rfl ?_
      exact (congrArg Server.phase (Relay.Hub.server_dismiss service.relay.hub observer)).symm ▸
        hholds.1
  | keeping number =>
      obtain ⟨known, hknown, hattends⟩ := hholds
      exact ⟨known, hknown, hattends.of_phase rfl id⟩
  | _ => exact absurd hholds.1 List.not_mem_nil

theorem holds_joining (arguments : Arguments) (signal : Signal) {call : Call}
    {streamed : Except Device.Fault Unit}
    (hholds : ((Place.joining call streamed).stage service.relay.handle).Holds service.relay) :
    ((step arguments signal (.joining call streamed) service).1.stage
      (step arguments signal (.joining call streamed) service).2.relay.handle).Holds
        (step arguments signal (.joining call streamed) service).2.relay := by
  cases call with
  | collecting =>
      obtain ⟨known, hknown, hattends⟩ := hholds
      simp only [step, stepCall, Call.step, hknown]
      exact ⟨known, rfl, hattends.of_phase rfl id⟩
  | awaiting number =>
      obtain ⟨known, hknown, hattends⟩ := hholds
      cases hknown
      simp only [step, stepCall, Call.step]
      cases hended : service.relay.hasEnded number with
      | false => exact ⟨number, rfl, hattends⟩
      | true =>
          obtain ⟨hrest, hover⟩ := hattends.over hended
          exact ⟨List.mem_singleton.mpr hrest, hover⟩
  | _ => exact absurd hholds.1 List.not_mem_nil

theorem holds_step (arguments : Arguments) (signal : Signal) {place : Place}
    (hholds : (place.stage service.relay.handle).Holds service.relay) :
    ((step arguments signal place service).1.stage
      (step arguments signal place service).2.relay.handle).Holds
        (step arguments signal place service).2.relay := by
  cases place with
  | configuring rest =>
      cases rest with
      | nil => exact hholds
      | cons setup rest =>
          rw [step_configuring]
          cases (setup.perform service.device).1 <;> exact hholds
  | opening call => exact holds_opening arguments signal hholds
  | engaging adapter call => exact holds_engaging arguments signal hholds
  | checking adapter =>
      simp only [step]
      split <;> exact hholds
  | halting adapter | stopping streamed =>
      obtain ⟨known, hknown, hattends⟩ := hholds
      refine ⟨known, hknown, hattends.of_phase rfl fun hrest => ?_⟩
      refine (Server.phase_stop service.relay.server).trans ?_
      rw [hrest]
      rfl
  | starting adapter =>
      obtain ⟨known, hknown, hattends⟩ := hholds
      rw [step_starting]
      cases (service.request .stream).1 <;> exact ⟨known, hknown, hattends.of_phase rfl id⟩
  | streaming adapter => cases signal <;> exact hholds
  | announcing | deactivating | closing =>
      obtain ⟨known, hknown, hattends⟩ := hholds
      exact ⟨known, hknown, hattends.of_phase rfl id⟩
  | joining call streamed => exact holds_joining arguments signal hholds
  | withdrawing | releasing | forgetting | reporting | returned => exact hholds

theorem kept_step (arguments : Arguments) (signal : Signal) (place : Place)
    (hkept : service.relay.Kept) : (step arguments signal place service).2.relay.Kept := by
  cases place with
  | configuring rest =>
      cases rest with
      | nil => exact hkept
      | cons setup rest =>
          rw [step_configuring]
          exact ⟨hkept.equipped, hkept.tended⟩
  | opening call =>
      simp only [step, afterOpening]
      split <;> exact hkept.step call signal.relaySignal
  | engaging adapter call => exact hkept.step call signal.relaySignal
  | joining call streamed => exact hkept.step call signal.relaySignal
  | checking adapter => exact hkept
  | halting | stopping =>
      exact ⟨(Server.quiet_stop service.relay.server).equipped hkept.equipped, hkept.tended⟩
  | starting adapter =>
      rw [step_starting]
      exact ⟨hkept.equipped, hkept.tended⟩
  | streaming adapter => cases signal <;> exact hkept
  | _ => exact ⟨hkept.equipped, hkept.tended⟩

end Steps

/-! ### All that can happen -/

namespace Hosting

variable {σ : Type} [Tuner σ]

/-- Before the first session, a host stands where a session leaves it. -/
def place (hosting : Hosting σ) : Place :=
  match hosting.session with
  | some (_, place) => place
  | none => .returned (.ok ())

omit [Tuner σ] in
/-- Where no session is running, the last one has returned. -/
theorem exists_returned {hosting : Hosting σ} (hrunning : hosting.isRunning = false) :
    ∃ result, hosting.place = .returned result := by
  unfold isRunning at hrunning
  unfold place
  split at hrunning
  · rename_i hsession
    rw [hsession]
    exact ⟨.ok (), rfl⟩
  · rename_i arguments result hsession
    rw [hsession]
    exact ⟨result, rfl⟩
  · cases hrunning

/-- Whenever its thread is given a turn, the session takes a step. One that is over stands still. -/
theorem exists_step (hosting : Hosting σ) (signal : Signal) :
    ∃ arguments,
      (hosting.advance signal).place = (step arguments signal hosting.place hosting.service).1 ∧
      (hosting.advance signal).service = (step arguments signal hosting.place hosting.service).2 ∧
      (hosting.advance signal).calls = hosting.calls := by
  cases hsession : hosting.session with
  | none =>
      refine ⟨⟨0, 0, 0, "", 0, 0⟩, ?_⟩
      simp only [advance, place, hsession]
      exact ⟨rfl, rfl, trivial⟩
  | some session => exact ⟨session.1, by simp only [advance, place, hsession, and_self]⟩

/-- What is true of a host at any time. -/
structure Fits (hosting : Hosting σ) : Prop where
  kept : hosting.relay.Kept
  aside : ∀ call ∈ hosting.calls, call.isAside = true
  holds : (hosting.place.stage hosting.relay.handle).Holds hosting.relay

theorem fits_atRest (device : σ) : (atRest device).Fits where
  kept :=
    ⟨Relay.Traffic.equipped_run (⟨device, []⟩ : Adapters σ) [],
      fun _ hmem => absurd hmem List.not_mem_nil⟩
  aside := fun _ hmem => absurd hmem List.not_mem_nil
  holds := ⟨List.mem_singleton_self _, fun _ hmem => absurd hmem List.not_mem_nil⟩

omit [Tuner σ] in
theorem fits_begin {hosting : Hosting σ} (hfits : hosting.Fits) (arguments : Arguments)
    (hrunning : hosting.isRunning = false) :
    ({ hosting with
        session := some (arguments, Session.start arguments)
        outcomes := {} } : Hosting σ).Fits where
  kept := hfits.kept
  aside := hfits.aside
  holds := by
    obtain ⟨result, hreturned⟩ := exists_returned hrunning
    have hidle := hfits.holds
    rw [hreturned] at hidle
    exact hidle

theorem Fits.advance {hosting : Hosting σ} (hfits : hosting.Fits) (signal : Signal) :
    (hosting.advance signal).Fits := by
  obtain ⟨arguments, hplace, hservice, hcalls⟩ := hosting.exists_step signal
  refine ⟨?_, hcalls ▸ hfits.aside, ?_⟩
  · rw [relay, hservice]
    exact kept_step arguments signal hosting.place hfits.kept
  · rw [relay, hplace, hservice]
    exact holds_step arguments signal hfits.holds

theorem Fits.work {hosting : Hosting σ} (hfits : hosting.Fits) (worker : Worker)
    (signal : Relay.Signal) : (hosting.move (.work worker signal)).Fits where
  kept := hfits.kept.work worker signal
  aside := hfits.aside
  holds := by
    have hholds := hfits.holds
    change ((hosting.place.stage (hosting.relay.work worker signal).handle)).Holds
      (hosting.relay.work worker signal)
    rw [Relay.handle_work]
    cases hstage : hosting.place.stage hosting.relay.handle with
    | idle phases =>
        rw [hstage] at hholds
        rw [hholds.2.work_eq hfits.kept]
        exact hholds
    | attended number =>
        rw [hstage] at hholds
        obtain ⟨known, hknown, hattends⟩ := hholds
        exact ⟨known, hknown, hattends.work hfits.kept worker signal⟩

theorem Fits.resume {hosting : Hosting σ} (hfits : hosting.Fits) (number : Nat)
    (signal : Relay.Signal) : (hosting.resume number signal).Fits := by
  cases hcall : hosting.calls[number]? with
  | none =>
      rw [Hosting.resume, hcall]
      exact hfits
  | some call =>
      obtain ⟨haside, hsupervisors, hhandle, hphase⟩ := Relay.Call.aside_step signal hosting.relay
        (hfits.aside call (List.mem_of_getElem? hcall))
      rw [Hosting.resume, hcall]
      refine ⟨hfits.kept.step call signal, ?_, ?_⟩
      · intro later hlater
        rcases List.mem_or_eq_of_mem_set hlater with hold | rfl
        · exact hfits.aside later hold
        · exact haside
      · exact hfits.holds.of_stop hsupervisors hhandle (hphase.imp_right And.right)

theorem Fits.move {hosting : Hosting σ} (hfits : hosting.Fits) (move : Move) :
    (hosting.move move).Fits := by
  have hmore : ∀ call : Call, call.isAside = true →
      ∀ later ∈ hosting.calls ++ [call], later.isAside = true := by
    intro call hcall later hlater
    rcases List.mem_append.mp hlater with hold | hnew
    · exact hfits.aside later hold
    · exact List.mem_singleton.mp hnew ▸ hcall
  cases move with
  | begin arguments =>
      by_cases hrunning : hosting.isRunning = true
      · simpa [Hosting.move, hrunning] using hfits
      · simpa [Hosting.move, hrunning] using
          fits_begin hfits arguments (Bool.eq_false_iff.mpr hrunning)
  | advance signal => exact hfits.advance signal
  | work worker signal => exact hfits.work worker signal
  | close => exact ⟨hfits.kept, hmore .stopping rfl, hfits.holds⟩
  | feed bytes => exact ⟨hfits.kept, hmore (.glancing bytes) rfl, hfits.holds⟩
  | resume number signal => exact hfits.resume number signal
  | cancel =>
      exact ⟨⟨hfits.kept.equipped, hfits.kept.tended⟩, hfits.aside,
        hfits.holds.of_stop rfl rfl (.inl rfl)⟩

theorem Fits.run {hosting : Hosting σ} (hfits : hosting.Fits) (moves : List Move) :
    (hosting.run moves).Fits := by
  induction moves generalizing hosting with
  | nil => exact hfits
  | cons move rest ih => exact ih (hfits.move move)

end Hosting

end Session

end TunerRelay
