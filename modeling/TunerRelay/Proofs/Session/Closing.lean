import TunerRelay.Proofs.Session.Protocol

/-!
# Asking a session to close

A request to close leaves a mark, and then it stops the server. The session looks for the mark once,
when the server has agreed to serve, and from then on a stop is an orderly end. Before the server is
opened a stop does nothing. But in between it closes the server under a session that has yet to look:
the session then finds its server in the wrong phase and fails.
-/

namespace TunerRelay

open TunerRelay.Server (Phase)

namespace Server

/-- The server is about to serve, but nobody has asked it to. -/
def Phase.isOpening : Phase → Bool
  | initialized | socketOpen => true
  | _ => false

/-- The phases of a server that was stopped. -/
def Phase.isClosing : Phase → Bool
  | uninitialized | stopping => true
  | _ => false

theorem Phase.isClosing_stopped {phase : Phase} (hopening : phase.isOpening = false) :
    phase.stopped.isClosing = true := by
  revert hopening
  cases phase <;> decide

theorem Phase.isClosing_stopped_of_isClosing {phase : Phase} (hclosing : phase.isClosing = true) :
    phase.stopped.isClosing = true := by
  revert hclosing
  cases phase <;> decide

theorem Phase.isOpening_stopped (phase : Phase) : phase.stopped.isOpening = false := by
  cases phase <;> decide

/-- The server refused because of its phase. -/
def Fault.isRefusal : Fault → Bool
  | .wrongPhase _ => true
  | _ => false

variable {server next : Server}

theorem Quiet.isOpening_eq_false (hquiet : Quiet server next)
    (hopening : server.phase.isOpening = false) : next.phase.isOpening = false := by
  cases hquiet with
  | stay | countSent => exact hopening
  | listen _ hphase | engage _ hphase =>
      rw [hphase] at hopening
      cases hopening
  | register | serve | halt => rfl
  | close =>
      rw [phase_cleanUp]
      rfl

theorem Quiet.isClosing (hquiet : Quiet server next) (hclosing : server.phase.isClosing = true) :
    next.phase.isClosing = true := by
  cases hquiet with
  | stay | countSent => exact hclosing
  | listen _ hphase | engage _ hphase | register _ hphase | serve hphase =>
      rw [hphase] at hclosing
      cases hclosing
  | halt => rfl
  | close =>
      rw [phase_cleanUp]
      rfl

end Server

/-- What quiet sections keep of the phase, workers keep. -/
theorem Relay.phase_work {ω : Type} [Relay.Audience ω] (property : Phase → Prop)
    (hquiet : ∀ {server next : Server}, server.Quiet next → property server.phase →
      property next.phase)
    {relay : Relay ω} (hphase : property relay.server.phase) (worker : Relay.Worker)
    (signal : Relay.Signal) : property (relay.work worker signal).server.phase := by
  cases hsupervisor : relay.supervisors[worker.number]? with
  | none =>
      rw [work_eq_of_none signal hsupervisor]
      exact hphase
  | some supervisor =>
      rw [work_eq signal hsupervisor]
      rcases (worker.work_step signal supervisor relay.hub).quiet_or with hnext | hsame
      · exact hquiet hnext hphase
      · exact (congrArg property hsame).mpr hphase

namespace Session

open TunerRelay.Device (Tuner)
open TunerRelay.Relay (Call)

/-- The server refused because of its phase. -/
def Failure.isRefusal : Failure → Bool
  | .notOpened fault | .notServed fault => fault.isRefusal
  | _ => false

/-- No part of the session has failed, unless the server refused because of its phase. -/
structure Outcomes.Unharmed (outcomes : Outcomes) : Prop where
  configured : ∀ failure, outcomes.configured ≠ some (.error failure)
  opened : ∀ fault, outcomes.opened = some (.error fault) → fault.isRefusal = true
  served : ∀ fault, outcomes.served = some (.error fault) → fault.isRefusal = true
  streamed : ∀ fault, outcomes.streamed ≠ some (.error fault)

theorem Outcomes.Unharmed.isRefusal {outcomes : Outcomes} (hunharmed : outcomes.Unharmed)
    {failure : Failure} (hresult : outcomes.result? = some (.error failure)) :
    failure.isRefusal = true := by
  obtain ⟨hconfigured, hopened, hserved, hstreamed⟩ := hunharmed
  unfold result? at hresult
  split at hresult
  · exact absurd ‹_› (hconfigured _)
  · cases hresult
    exact hopened _ ‹_›
  · cases hresult
    exact hserved _ ‹_›
  · rename_i streamed _ _ _ hknown
    cases streamed with
    | ok => cases hresult
    | error fault => exact absurd hknown (hstreamed fault)
  · cases hresult

/-! ### Intrusions -/

namespace Hosting

variable {σ : Type} [Tuner σ]

/-- Somebody's stop reaches a server that is open and has not been asked to serve. -/
def intrudes (hosting : Hosting σ) : Move → Bool
  | .resume number _ =>
    match hosting.calls[number]? with
    | some .stopping => hosting.server.phase.isOpening
    | _ => false
  | _ => false

def isIntruded (hosting : Hosting σ) : List Move → Bool
  | [] => false
  | move :: moves => hosting.intrudes move || (hosting.move move).isIntruded moves

theorem isIntruded_concat (hosting : Hosting σ) (moves : List Move) (move : Move) :
    hosting.isIntruded (moves ++ [move]) =
      (hosting.isIntruded moves || (hosting.run moves).intrudes move) := by
  induction moves generalizing hosting with
  | nil => simp [isIntruded, run]
  | cons first rest ih =>
      rw [List.cons_append, isIntruded, ih, isIntruded, Bool.or_assoc]
      rfl

end Hosting

/-- What is known at a place of a session, intruded or not, while the server is in this phase. -/
def Place.Bears (intruded : Bool) (phase : Phase) : Place → Prop
  | configuring _ | opening (.staging _ _ _) => intruded = false
  | opening (.binding _) | opening (.preparing _) | opening (.listening _) =>
    phase = if intruded then .uninitialized else .initialized
  | engaging _ (.engaging _) => phase = if intruded then .uninitialized else .socketOpen
  | engaging _ (.clearing _ fault) => intruded = false ∧ fault.isRefusal = false
  | opening (.abandoning fault) | engaging _ (.excusing _ fault) =>
    intruded = false → fault.isRefusal = false
  | withdrawing _ failure | releasing failure => intruded = false → failure.isRefusal = false
  | forgetting result | reporting result | returned result =>
    if intruded then result ≠ .ok ()
    else ∀ failure, result = .error failure → failure.isRefusal = false
  | _ => intruded = false ∧ phase.isOpening = false

/-- Unless a part of it fails, a session succeeds just if nobody has intruded. -/
theorem Place.Bears.result_eq_ok_iff {intruded : Bool} {phase : Phase}
    {result : Except Failure Unit} {outcomes : Outcomes}
    (hbears : (Place.returned result).Bears intruded phase)
    (hresult : outcomes.result? = some result) (hunharmed : outcomes.Unharmed) :
    result = .ok () ↔ intruded = false := by
  cases intruded with
  | true => exact iff_of_false hbears nofun
  | false =>
      refine iff_of_true ?_ rfl
      cases result with
      | ok => rfl
      | error failure =>
          have hrefusal := hunharmed.isRefusal hresult
          rw [show failure.isRefusal = false from hbears failure rfl] at hrefusal
          cases hrefusal

section Steps

variable {σ : Type} [Tuner σ] {service : Service σ} {intruded : Bool}

theorem Place.Bears.of_stop {ω : Type} {relay : Relay ω} {place : Place}
    (hbears : place.Bears intruded relay.server.phase)
    (hholds : (place.stage relay.handle).Holds relay) :
    place.Bears (intruded || relay.server.phase.isOpening) relay.server.phase.stopped := by
  have hrest : (Stage.idle [.uninitialized]).Holds relay → relay.server.phase = .uninitialized :=
    fun hidle => List.mem_singleton.mp hidle.1
  -- A stop counts where the phase is said outright. Elsewhere the server is at rest, or refusals are
  -- known already, or it serves.
  cases place with
  | configuring rest =>
      rw [hrest hholds]
      exact (Bool.or_false _).trans hbears
  | withdrawing | releasing | forgetting | reporting | returned =>
      rw [hrest hholds, show Phase.isOpening .uninitialized = false from rfl, Bool.or_false]
      exact hbears
  | opening call =>
      cases call with
      | staging address port header =>
          rw [hrest hholds]
          exact (Bool.or_false _).trans hbears
      | binding | preparing | listening =>
          cases intruded <;> rw [show relay.server.phase = _ from hbears] <;> rfl
      | abandoning fault => exact fun hnone => hbears (Bool.or_eq_false_iff.mp hnone).1
      | _ => exact absurd hholds.1 List.not_mem_nil
  | engaging adapter call =>
      cases call with
      | engaging observer =>
          cases intruded <;> rw [show relay.server.phase = _ from hbears] <;> rfl
      | excusing observer fault => exact fun hnone => hbears (Bool.or_eq_false_iff.mp hnone).1
      | clearing observer fault =>
          have hphase : relay.server.phase.isOpening = false := by
            rcases List.mem_cons.mp hholds.1 with hstarted | hstopping
            · rw [hstarted]
              rfl
            · rw [List.mem_singleton.mp hstopping]
              rfl
          exact ⟨by rw [hbears.1, hphase]; rfl, hbears.2⟩
      | _ => exact ⟨by rw [hbears.1, hbears.2]; rfl, Phase.isOpening_stopped _⟩
  | _ => exact ⟨by rw [hbears.1, hbears.2]; rfl, Phase.isOpening_stopped _⟩

/-- The set-up does not fail for the server's phase. -/
theorem isRefusal_perform {setup : Setup} {device : σ} {failure : Failure}
    (hfailed : (setup.perform device).1 = some failure) : failure.isRefusal = false := by
  have hrefused : ∀ answer, setup.failure? answer = some failure → failure.isRefusal = false := by
    intro answer hanswer
    cases setup with
    | attempt request => cases hanswer
    | sampleRate value | frequency value =>
        cases answer with
        | ok => cases hanswer
        | error fault =>
            cases hanswer
            rfl
  unfold Setup.perform at hfailed
  split at hfailed
  · rename_i known hrequest
    cases hfailed
    cases setup with
    | attempt request => cases hrequest
    | sampleRate value | frequency value =>
        simp only [Setup.request] at hrequest
        split at hrequest <;> cases hrequest
        rfl
  · exact hrefused _ hfailed

theorem bears_opening (arguments : Arguments) (signal : Signal) {call : Call}
    (hbears : (Place.opening call).Bears intruded service.relay.server.phase)
    (hholds : ((Place.opening call).stage service.relay.handle).Holds service.relay) :
    (step arguments signal (.opening call) service).1.Bears intruded
      (step arguments signal (.opening call) service).2.relay.server.phase := by
  cases call with
  | staging address port header =>
      obtain rfl : intruded = false := hbears
      have hphase : service.relay.server.phase = .uninitialized := List.mem_singleton.mp hholds.1
      simp only [step, stepCall, Call.step, Call.stage, Server.stage, hphase, if_true]
      cases Call.endpoint? address port with
      | none => exact fun _ => rfl
      | some endpoint => rfl
  | binding endpoint | preparing endpoint =>
      simp only [step, stepCall, Call.step]
      cases signal.relaySignal with
      | failure reason => exact fun _ => rfl
      | _ => exact hbears
  | listening endpoint =>
      have hphase : service.relay.server.phase =
        if intruded then .uninitialized else .initialized := hbears
      cases intruded with
      | false =>
          simp only [step, stepCall, Call.step, Call.listen, Server.listen, hphase]
          rfl
      | true =>
          simp only [step, stepCall, Call.step, Call.listen, Server.listen, hphase]
          rintro ⟨⟩
  | abandoning fault => exact hbears
  | _ => exact absurd hholds.1 List.not_mem_nil

theorem bears_engaging (arguments : Arguments) (signal : Signal) {adapter : Nat} {call : Call}
    (hbears : (Place.engaging adapter call).Bears intruded service.relay.server.phase)
    (hholds : ((Place.engaging adapter call).stage service.relay.handle).Holds service.relay) :
    (step arguments signal (.engaging adapter call) service).1.Bears intruded
      (step arguments signal (.engaging adapter call) service).2.relay.server.phase := by
  cases call with
  | engaging observer =>
      have hphase : service.relay.server.phase =
        if intruded then .uninitialized else .socketOpen := hbears
      simp only [step, stepCall]
      cases intruded with
      | false =>
          rw [Call.step_engaging _ observer hphase]
          exact ⟨rfl, rfl⟩
      | true =>
          rw [Call.step_engaging_of_ne _ observer (by rw [hphase]; rintro ⟨⟩)]
          rintro ⟨⟩
  | launching observer =>
      simp only [step, stepCall, Call.step]
      cases signal.relaySignal with
      | failure reason => exact ⟨hbears.1, rfl⟩
      | _ => exact hbears
  | clearing observer fault => exact fun _ => hbears.2
  | excusing observer fault => exact hbears
  | keeping number => exact hbears
  | _ => exact absurd hholds.1 List.not_mem_nil

theorem bears_joining (arguments : Arguments) (signal : Signal) {call : Call}
    {streamed : Except Device.Fault Unit}
    (hbears : (Place.joining call streamed).Bears intruded service.relay.server.phase)
    (hholds : ((Place.joining call streamed).stage service.relay.handle).Holds service.relay) :
    (step arguments signal (.joining call streamed) service).1.Bears intruded
      (step arguments signal (.joining call streamed) service).2.relay.server.phase := by
  obtain ⟨rfl, hopening⟩ := hbears
  have hresult : ∀ failure, resultOf streamed = .error failure → failure.isRefusal = false := by
    cases streamed with
    | ok => exact nofun
    | error fault =>
        rintro _ ⟨⟩
        rfl
  cases call with
  | collecting =>
      simp only [step, stepCall, Call.step]
      split
      · exact hresult
      · exact ⟨rfl, hopening⟩
  | awaiting number =>
      simp only [step, stepCall, Call.step]
      split
      · exact hresult
      · exact ⟨rfl, hopening⟩
  | _ => exact absurd hholds.1 List.not_mem_nil

theorem bears_step (arguments : Arguments) (signal : Signal) {place : Place}
    (hbears : place.Bears intruded service.relay.server.phase)
    (hholds : (place.stage service.relay.handle).Holds service.relay) :
    (step arguments signal place service).1.Bears intruded
      (step arguments signal place service).2.relay.server.phase := by
  cases place with
  | configuring rest =>
      cases rest with
      | nil => exact hbears
      | cons setup rest =>
          rw [step_configuring]
          cases hperform : (setup.perform service.device).1 with
          | none => exact hbears
          | some failure => exact fun _ => isRefusal_perform hperform
  | opening call => exact bears_opening arguments signal hbears hholds
  | engaging adapter call => exact bears_engaging arguments signal hbears hholds
  | checking adapter =>
      simp only [step]
      split <;> exact hbears
  | halting | stopping =>
      refine ⟨hbears.1, ?_⟩
      exact (congrArg Phase.isOpening (Server.phase_stop service.relay.server)).trans
        (Phase.isOpening_stopped _)
  | starting adapter =>
      rw [step_starting]
      cases (service.request .stream).1 <;> exact hbears
  | streaming adapter => cases signal <;> exact hbears
  | joining call streamed => exact bears_joining arguments signal hbears hholds
  | releasing failure =>
      cases intruded with
      | true => rintro ⟨⟩
      | false =>
          rintro _ ⟨⟩
          exact hbears rfl
  | _ => exact hbears

end Steps

/-! ### All that can happen -/

/-- While a supervisor may be about, nobody has intruded and nobody can. -/
theorem Place.bears_iff_of_attended {place : Place} {handle number : Option Nat} {intruded : Bool}
    {phase : Phase} (hstage : place.stage handle = .attended number) :
    place.Bears intruded phase ↔ intruded = false ∧ phase.isOpening = false := by
  cases place with
  | opening call | engaging adapter call | joining call streamed =>
      cases call <;> first | exact Iff.rfl | cases hstage
  | _ => first | exact Iff.rfl | cases hstage

namespace Hosting

variable {σ : Type} [Tuner σ] {hosting : Hosting σ} {intruded : Bool}

omit [Tuner σ] in
theorem place_of_session {arguments : Arguments} {place : Place}
    (hsession : hosting.session = some (arguments, place)) : hosting.place = place := by
  simp only [Hosting.place, hsession]

theorem bears_work (hfits : hosting.Fits) (hbears : hosting.place.Bears intruded hosting.server.phase)
    (worker : Relay.Worker) (signal : Relay.Signal) :
    hosting.place.Bears intruded (hosting.relay.work worker signal).server.phase := by
  have hholds := hfits.holds
  cases hstage : hosting.place.stage hosting.relay.handle with
  | idle phases =>
      rw [hstage] at hholds
      rw [hholds.2.work_eq hfits.kept]
      exact hbears
  | attended number =>
      obtain ⟨hnone, hopening⟩ := (Place.bears_iff_of_attended hstage).mp hbears
      refine (Place.bears_iff_of_attended hstage).mpr ⟨hnone, ?_⟩
      exact Relay.phase_work (fun phase => phase.isOpening = false)
        Server.Quiet.isOpening_eq_false hopening worker signal

omit [Tuner σ] in
/-- Of the calls of others, stops alone intrude. -/
theorem intrudes_resume {number : Nat} (signal : Relay.Signal) {call : Call}
    (hcall : hosting.calls[number]? = some call) (hstopping : call ≠ .stopping) :
    hosting.intrudes (.resume number signal) = false := by
  rw [intrudes, hcall]
  cases call with
  | stopping => exact absurd rfl hstopping
  | _ => rfl

theorem bears_resume (hfits : hosting.Fits)
    (hbears : hosting.place.Bears intruded hosting.server.phase) (number : Nat)
    (signal : Relay.Signal) :
    (hosting.resume number signal).place.Bears
      (intruded || hosting.intrudes (.resume number signal))
      (hosting.resume number signal).server.phase := by
  cases hcall : hosting.calls[number]? with
  | none =>
      rw [resume, intrudes, hcall]
      simpa only [Bool.or_false] using hbears
  | some call =>
      have hnext : (hosting.resume number signal).server =
          (call.step signal hosting.relay).2.server := by rw [resume, hcall]; rfl
      have hplace : (hosting.resume number signal).place = hosting.place := by
        rw [resume, hcall]
        rfl
      rw [hnext, hplace]
      by_cases hstopping : call = .stopping
      · subst hstopping
        rw [intrudes, hcall, show (Call.stopping.step signal hosting.relay).2.server.phase =
          hosting.server.phase.stopped from Server.phase_stop hosting.server]
        exact hbears.of_stop hfits.holds
      · have haside := hfits.aside call (List.mem_of_getElem? hcall)
        obtain ⟨-, -, -, hphase⟩ := Call.aside_step signal hosting.relay haside
        rw [intrudes_resume signal hcall hstopping, Bool.or_false,
          hphase.resolve_right fun hstop => hstopping hstop.1]
        exact hbears

theorem bears_move (hfits : hosting.Fits)
    (hbears : hosting.place.Bears intruded hosting.server.phase) {move : Move}
    (hmove : ∀ others, move ≠ .begin others) :
    (hosting.move move).place.Bears (intruded || hosting.intrudes move)
      (hosting.move move).server.phase := by
  cases move with
  | begin others => exact absurd rfl (hmove others)
  | advance signal =>
      obtain ⟨arguments, hplace, hservice, -⟩ := hosting.exists_step signal
      rw [show hosting.intrudes (.advance signal) = false from rfl, Bool.or_false, Hosting.move,
        server, relay, hplace, hservice]
      exact bears_step arguments signal hbears hfits.holds
  | work worker signal =>
      rw [show hosting.intrudes (.work worker signal) = false from rfl, Bool.or_false]
      exact bears_work hfits hbears worker signal
  | resume number signal => exact bears_resume hfits hbears number signal
  | close | feed | cancel => exact (Bool.or_false intruded).symm ▸ hbears

end Hosting

end Session

end TunerRelay
