import TunerRelay.Device.Logged
import TunerRelay.Device.Recorder
import TunerRelay.Proofs.Receiver.Sharing
import TunerRelay.Proofs.Session.Preparing
import TunerRelay.Proofs.Session.Requests
import TunerRelay.Proofs.Session.Stages

/-!
# What a session tells and leaves behind

A session can end in seven ways, each with a clean-up of its own. At every place of it, what its parts
have come to, what the host has been told and how often the receiver has been closed are a matter of
the place. Others neither tell the host anything nor close the receiver.
-/

namespace TunerRelay

open TunerRelay.Device (Tuner Request Logged)

/-! ### Closings -/

/-- What a client commands concerns the receiver's settings. -/
theorem Adapter.Reaction.isAside_ofRecord {gains : List Int32} {record : Wire.Record}
    {request : Request} (hreaction : ofRecord gains record = .request request) :
    Receiver.isAside request = false := by
  have hgain : ∀ index : Nat, ofGainAt gains index = .request request →
      Receiver.isAside request = false := by
    intro index hindex
    unfold ofGainAt at hindex
    split at hindex <;> cases hindex
    rfl
  unfold ofRecord at hreaction
  split at hreaction
  · rename_i command hcommand
    cases command with
    | gainByIndex index => exact hgain _ hreaction
    | gainByPercentage percent =>
        simp only [ofCommand, ofPercentage] at hreaction
        split at hreaction
        · exact hgain _ hreaction
        · cases hreaction
    | exit => cases hreaction
    | _ =>
        cases hreaction
        rfl
  · cases hreaction

namespace Adapters

variable {τ : Type} [Tuner τ]

/-- How often the receiver has been closed so far. -/
def closings (world : Adapters (Logged τ)) : Nat := world.device.requests.count .close

theorem closings_request (world : Adapters (Logged τ)) (request : Request) :
    (world.request request).2.closings = world.closings + if request = .close then 1 else 0 := by
  have hrequests : (world.request request).2.device.requests = world.device.requests ++ [request] :=
    rfl
  rw [closings, hrequests, List.count_append, List.count_singleton]
  simp only [closings, beq_iff_eq]

theorem closings_of_affects {world next : Adapters (Logged τ)}
    (haffects : Relay.Hub.Affects world next) : next.closings = world.closings := by
  cases haffects with
  | stay => rfl
  | leave observer => exact (closings_request world .cancel).trans (Nat.add_zero _)
  | hear observer record =>
      change (world.react record).2.closings = _
      unfold react
      split
      · rename_i request hreaction
        have hother : request ≠ .close := by
          rintro rfl
          cases Adapter.Reaction.isAside_ofRecord hreaction
        rw [closings_request, if_neg hother, Nat.add_zero]
      · rfl
      · rfl

omit [Tuner τ] in
theorem closings_deactivate (world : Adapters (Logged τ)) (adapter : Nat) :
    (world.deactivate adapter).closings = world.closings :=
  congrArg (fun device => device.requests.count .close) (Session.device_deactivate world adapter)

end Adapters

def Service.closings {τ : Type} (service : Service (Logged τ)) : Nat :=
  service.relay.hub.world.closings

namespace Session

open TunerRelay.Relay (Call)

variable {τ : Type} [Tuner τ]

/-- A step of the set-up closes nothing. -/
theorem closings_perform {setup : Setup} (hsetup : setup ≠ .attempt .close)
    (device : Logged τ) :
    (setup.perform device).2.requests.count .close = device.requests.count .close := by
  unfold Setup.perform
  split
  · rfl
  · rename_i request hrequest
    have hother : request ≠ .close := by
      rintro rfl
      cases setup with
      | attempt request => cases hrequest; exact hsetup rfl
      | sampleRate value | frequency value =>
          simp only [Setup.request] at hrequest
          split at hrequest <;> cases hrequest
    exact (List.count_append ..).trans (by rw [List.count_singleton]; simp [hother])

theorem Failure.code_ne_ok (failure : Failure) : failure.code ≠ .ok := by
  cases failure with
  | sampleRateRefused rate fault =>
      rcases code_sampleRateRefused rate fault with hcode | hcode <;> simp [hcode]
  | _ => simp [code]

theorem exitCode_eq_ok_iff (result : Except Failure Unit) :
    exitCode result = .ok ↔ result = .ok () := by
  cases result with
  | ok => simp [exitCode]
  | error failure => simp [exitCode, failure.code_ne_ok]

/-! ### What goes with a place -/

namespace Outcomes

/-- What the parts of a session have come to that is ready to stream, or has streamed. -/
def ready (streamed : Option (Except Device.Fault Unit)) : Outcomes where
  configured := some (.ok ())
  opened := some (.ok ())
  served := some (.ok ())
  streamed := streamed

theorem eq_ready {outcomes : Outcomes} (hready : outcomes.isReady = true) :
    outcomes = ready outcomes.streamed := by
  obtain ⟨configured, opened, served, streamed⟩ := outcomes
  unfold isReady at hready
  split at hready
  · simp_all [ready]
  · cases hready

/-- Once ready, a session succeeds just if streaming does. -/
theorem result_eq_ok_iff {outcomes : Outcomes} {result : Except Failure Unit}
    (hready : outcomes.isReady = true) (hresult : outcomes.result? = some result) :
    result = .ok () ↔ outcomes.streamed = some (.ok ()) := by
  rw [eq_ready hready] at hresult
  generalize outcomes.streamed = streamed at hresult ⊢
  cases streamed with
  | none => cases hresult
  | some streamed => cases streamed <;> cases hresult <;> simp [resultOf]

end Outcomes

namespace Place

/-- What the parts of the session have come to by now. -/
def Knows (outcomes : Outcomes) : Place → Prop
  | configuring rest => .attempt .close ∉ rest ∧ outcomes = {}
  | opening _ => outcomes = { configured := some (.ok ()) }
  | engaging _ _ => outcomes = { configured := some (.ok ()), opened := some (.ok ()) }
  | checking _ | halting _ | announcing _ | starting _ | streaming _ => outcomes = .ready none
  | deactivating _ streamed | closing streamed | stopping streamed | joining _ streamed =>
    outcomes = .ready (some streamed)
  | withdrawing _ failure | releasing failure =>
    outcomes.isReady = false ∧ outcomes.result? = some (.error failure)
  | forgetting result | reporting result | returned result => outcomes.result? = some result

/-- What the host has been told by now. -/
def told (outcomes : Outcomes) : Place → List Event
  | starting _ | streaming _ | deactivating _ _ | closing _ | stopping _ | joining _ _ => [.opened]
  | forgetting _ | reporting _ => if outcomes.isReady then [.opened] else []
  | returned result =>
    (if outcomes.isReady then [.opened] else []) ++ [.closed (exitCode result)]
  | _ => []

/-- How often the session has closed the receiver by now. -/
def closings : Place → Nat
  | stopping _ | joining _ _ | forgetting _ | reporting _ | returned _ => 1
  | _ => 0

end Place

/-! ### Steps -/

/-- A session at this place, begun after these events and so many closings, has kept its account. -/
structure Place.Accounts (events : List Event) (before : Nat) (outcomes : Outcomes)
    (service : Service (Logged τ)) (place : Place) : Prop where
  knows : place.Knows outcomes
  events_eq : service.events = events ++ place.told outcomes
  closings_eq : service.closings = before + place.closings

variable {events : List Event} {before : Nat} {outcomes : Outcomes} {service : Service (Logged τ)}

/-- A section of a call tells the host nothing, and does not close the receiver. -/
theorem Place.Accounts.stepCall {place : Place}
    (haccounts : place.Accounts events before outcomes service) (signal : Signal) (call : Call) :
    place.Accounts events before outcomes (Session.stepCall signal call service).2 where
  knows := haccounts.knows
  events_eq := haccounts.events_eq
  closings_eq := (Adapters.closings_of_affects
    (call.affects_step signal.relaySignal service.relay)).trans haccounts.closings_eq

theorem accounts_configuring (arguments : Arguments) (signal : Signal) {rest : List Setup}
    (haccounts : (Place.configuring rest).Accounts events before outcomes service) :
    (step arguments signal (.configuring rest) service).1.Accounts events before
      (outcomes.note signal (.configuring rest) service)
      (step arguments signal (.configuring rest) service).2 := by
  obtain ⟨⟨hrest, rfl⟩, hevents, hclosings⟩ := haccounts
  cases rest with
  | nil => exact ⟨rfl, hevents, hclosings⟩
  | cons setup rest =>
      have hsetup : setup ≠ .attempt .close := fun heq => hrest (heq ▸ List.mem_cons_self)
      have hperform := (closings_perform hsetup service.device).trans hclosings
      rw [step_configuring, Outcomes.note]
      cases (setup.perform service.device).1 with
      | none =>
          exact ⟨⟨fun hmem => hrest (List.mem_cons_of_mem _ hmem), rfl⟩, hevents, hperform⟩
      | some failure => exact ⟨⟨rfl, rfl⟩, hevents, hperform⟩

theorem accounts_opening (arguments : Arguments) (signal : Signal) {call : Call}
    (haccounts : (Place.opening call).Accounts events before outcomes service) :
    (step arguments signal (.opening call) service).1.Accounts events before
      (outcomes.note signal (.opening call) service)
      (step arguments signal (.opening call) service).2 := by
  have hcalled := haccounts.stepCall signal call
  simp only [step, Outcomes.note]
  generalize stepCall signal call service = stepped at hcalled ⊢
  obtain ⟨next, later⟩ := stepped
  obtain ⟨rfl, hevents, hclosings⟩ := hcalled
  cases next with
  | returned outcome =>
      cases outcome with
      | opened result =>
          cases result with
          | ok => exact ⟨rfl, hevents, hclosings⟩
          | error fault => exact ⟨⟨rfl, rfl⟩, hevents, hclosings⟩
      | _ => exact ⟨rfl, hevents, hclosings⟩
  | _ => exact ⟨rfl, hevents, hclosings⟩

theorem accounts_engaging (arguments : Arguments) (signal : Signal) {adapter : Nat} {call : Call}
    (haccounts : (Place.engaging adapter call).Accounts events before outcomes service) :
    (step arguments signal (.engaging adapter call) service).1.Accounts events before
      (outcomes.note signal (.engaging adapter call) service)
      (step arguments signal (.engaging adapter call) service).2 := by
  have hcalled := haccounts.stepCall signal call
  simp only [step, Outcomes.note]
  generalize stepCall signal call service = stepped at hcalled ⊢
  obtain ⟨next, later⟩ := stepped
  obtain ⟨rfl, hevents, hclosings⟩ := hcalled
  cases next with
  | returned outcome =>
      cases outcome with
      | serving result =>
          cases result with
          | ok => exact ⟨rfl, hevents, hclosings⟩
          | error fault => exact ⟨⟨rfl, rfl⟩, hevents, hclosings⟩
      | _ => exact ⟨rfl, hevents, hclosings⟩
  | _ => exact ⟨rfl, hevents, hclosings⟩

theorem accounts_joining (arguments : Arguments) (signal : Signal) {call : Call}
    {streamed : Except Device.Fault Unit}
    (haccounts : (Place.joining call streamed).Accounts events before outcomes service) :
    (step arguments signal (.joining call streamed) service).1.Accounts events before
      (outcomes.note signal (.joining call streamed) service)
      (step arguments signal (.joining call streamed) service).2 := by
  have hcalled := haccounts.stepCall signal call
  simp only [step, Outcomes.note]
  generalize stepCall signal call service = stepped at hcalled ⊢
  obtain ⟨next, later⟩ := stepped
  obtain ⟨rfl, hevents, hclosings⟩ := hcalled
  cases next <;> exact ⟨rfl, hevents, hclosings⟩

theorem accounts_step (arguments : Arguments) (signal : Signal) {place : Place}
    (haccounts : place.Accounts events before outcomes service) :
    (step arguments signal place service).1.Accounts events before
      (outcomes.note signal place service) (step arguments signal place service).2 := by
  -- The host is told of something at two places, and two others close the receiver.
  cases place with
  | configuring rest => exact accounts_configuring arguments signal haccounts
  | opening call => exact accounts_opening arguments signal haccounts
  | engaging adapter call => exact accounts_engaging arguments signal haccounts
  | joining call streamed => exact accounts_joining arguments signal haccounts
  | checking adapter =>
      obtain ⟨rfl, hevents, hclosings⟩ := haccounts
      simp only [step]
      split <;> exact ⟨rfl, hevents, hclosings⟩
  | halting adapter => exact ⟨haccounts.knows, haccounts.events_eq, haccounts.closings_eq⟩
  | announcing adapter =>
      obtain ⟨rfl, hevents, hclosings⟩ := haccounts
      refine ⟨rfl, ?_, hclosings⟩
      exact congrArg (· ++ [Event.opened]) (hevents.trans (List.append_nil _))
  | starting adapter =>
      obtain ⟨rfl, hevents, hclosings⟩ := haccounts
      have hstream := (Adapters.closings_request service.relay.hub.world .stream).trans hclosings
      rw [step_starting, Outcomes.note]
      cases (service.request .stream).1 <;> exact ⟨rfl, hevents, hstream⟩
  | streaming adapter =>
      obtain ⟨rfl, hevents, hclosings⟩ := haccounts
      cases signal <;> exact ⟨rfl, hevents, hclosings⟩
  | deactivating adapter streamed =>
      obtain ⟨rfl, hevents, hclosings⟩ := haccounts
      have hsame := Adapters.closings_deactivate service.relay.hub.world adapter
      exact ⟨rfl, hevents, hsame.trans hclosings⟩
  | withdrawing adapter failure =>
      have hsame := Adapters.closings_deactivate service.relay.hub.world adapter
      exact ⟨haccounts.knows, haccounts.events_eq, hsame.trans haccounts.closings_eq⟩
  | closing streamed =>
      obtain ⟨rfl, hevents, hclosings⟩ := haccounts
      refine ⟨rfl, hevents, ?_⟩
      exact (Adapters.closings_request _ .close).trans (congrArg (· + 1) hclosings)
  | stopping streamed => exact ⟨haccounts.knows, haccounts.events_eq, haccounts.closings_eq⟩
  | releasing failure =>
      obtain ⟨⟨hready, hresult⟩, hevents, hclosings⟩ := haccounts
      refine ⟨hresult, ?_, ?_⟩
      · change service.events = events ++ if outcomes.isReady then [.opened] else []
        rw [hevents, hready]
        rfl
      · exact (Adapters.closings_request _ .close).trans (congrArg (· + 1) hclosings)
  | forgetting result => exact ⟨haccounts.knows, haccounts.events_eq, haccounts.closings_eq⟩
  | reporting result =>
      refine ⟨haccounts.knows, ?_, haccounts.closings_eq⟩
      exact (congrArg (· ++ [Event.closed (exitCode result)]) haccounts.events_eq).trans
        (List.append_assoc ..)
  | returned result => exact haccounts

omit [Tuner τ] in
theorem accounts_start (arguments : Arguments) (service : Service (Logged τ)) :
    (start arguments).Accounts service.events service.closings {} service := by
  refine ⟨⟨?_, rfl⟩, (List.append_nil _).symm, rfl⟩
  unfold Setup.ofArguments
  split <;> split <;> simp

/-! ### The rest of the host -/

namespace Hosting

/-- The latest session was begun with these arguments and keeps its account. -/
def Accounts (arguments : Arguments) (events : List Event) (before : Nat)
    (hosting : Hosting (Logged τ)) : Prop :=
  ∃ place, hosting.session = some (arguments, place) ∧
    place.Accounts events before hosting.outcomes hosting.service

variable {arguments : Arguments} {hosting next : Hosting (Logged τ)}

theorem Accounts.of_affects (haccounts : hosting.Accounts arguments events before)
    (hsession : next.session = hosting.session) (houtcomes : next.outcomes = hosting.outcomes)
    (hevents : next.service.events = hosting.service.events)
    (haffects : Relay.Hub.Affects hosting.relay.hub.world next.relay.hub.world) :
    next.Accounts arguments events before := by
  obtain ⟨place, hplace, hknows, htold, hclosings⟩ := haccounts
  refine ⟨place, hsession.trans hplace, houtcomes ▸ hknows, ?_, ?_⟩
  · rw [hevents, houtcomes, htold]
  · exact (Adapters.closings_of_affects haffects).trans hclosings

theorem Accounts.move (haccounts : hosting.Accounts arguments events before) {move : Move}
    (hmove : ∀ others, move ≠ .begin others) :
    (hosting.move move).Accounts arguments events before := by
  cases move with
  | begin others => exact absurd rfl (hmove others)
  | advance signal =>
      obtain ⟨place, hplace, hplaced⟩ := haccounts
      refine ⟨(step arguments signal place hosting.service).1, ?_, ?_⟩
      · simp only [Hosting.move, advance, hplace]
      · simpa only [Hosting.move, advance, hplace] using accounts_step arguments signal hplaced
  | work worker signal =>
      exact haccounts.of_affects rfl rfl rfl (hosting.relay.affects_work worker signal)
  | close => exact haccounts.of_affects rfl rfl rfl .stay
  | feed bytes => exact haccounts.of_affects rfl rfl rfl .stay
  | resume number signal =>
      simp only [Hosting.move, resume]
      split
      · exact haccounts
      · exact haccounts.of_affects rfl rfl rfl (Relay.Call.affects_step _ signal hosting.relay)
  | cancel => exact haccounts.of_affects rfl rfl rfl (.leave 0)

theorem Accounts.run (haccounts : hosting.Accounts arguments events before) {moves : List Move}
    (hmoves : ∀ others, .begin others ∉ moves) :
    (hosting.run moves).Accounts arguments events before := by
  induction moves generalizing hosting with
  | nil => exact haccounts
  | cons move rest ih =>
      have hmove : ∀ others, move ≠ .begin others := by
        rintro others rfl
        exact hmoves others List.mem_cons_self
      exact ih (haccounts.move hmove) fun others hmem =>
        hmoves others (List.mem_cons_of_mem move hmem)

theorem accounts_begin (hosting : Hosting (Logged τ)) (arguments : Arguments)
    (hrunning : hosting.isRunning = false) :
    (hosting.move (.begin arguments)).Accounts arguments hosting.service.events
      hosting.service.closings := by
  refine ⟨start arguments, ?_, ?_⟩
  · simp [Hosting.move, hrunning]
  · simpa [Hosting.move, hrunning] using accounts_start arguments hosting.service

/-- **The protocol of a session.** Whatever fails, whoever asks to close and however the threads
interleave: a session that has returned has told its host that it has opened, just if everything up to
serving had succeeded, and last how it has closed. If it had opened, it succeeds just if streaming
did. The receiver has been closed once, and the server is at rest with nothing left to it, until the
next session begins. -/
theorem session_protocol (device : Logged τ) (earlier during : List Move) (arguments : Arguments)
    (result : Except Failure Unit)
    (hearlier : ((atRest device).run earlier).isRunning = false)
    (hduring : ∀ others, .begin others ∉ during)
    (hreturned : ((atRest device).run (earlier ++ .begin arguments :: during)).session =
      some (arguments, .returned result)) :
    let before := (atRest device).run earlier
    let after := (atRest device).run (earlier ++ .begin arguments :: during)
    after.service.events = before.service.events ++
      (if after.outcomes.isReady then [.opened] else []) ++ [.closed (exitCode result)] ∧
    (exitCode result = .ok ↔ result = .ok ()) ∧
    (∀ failure, result = .error failure → exitCode result = failure.report.code) ∧
    after.outcomes.result? = some result ∧
    (after.outcomes.isReady = true →
      (result = .ok () ↔ after.outcomes.streamed = some (.ok ()))) ∧
    after.service.closings = before.service.closings + 1 ∧
    after.server.Released ∧
    ∀ supervisor ∈ after.relay.supervisors, supervisor.place = .ended := by
  intro before after
  have hafter : after = (before.move (.begin arguments)).run during := List.foldl_append
  have haccounts : after.Accounts arguments before.service.events before.service.closings :=
    hafter ▸ (accounts_begin before arguments hearlier).run hduring
  obtain ⟨place, hplace, hknows, htold, hclosings⟩ := haccounts
  have hreturn : place = .returned result := by
    rw [hreturned] at hplace
    cases hplace
    rfl
  subst hreturn
  have hfits : after.Fits := (fits_atRest device).run _
  have hrest : (Place.returned result).stage after.relay.handle |>.Holds after.relay := by
    simpa only [Hosting.place, hplace] using hfits.holds
  refine ⟨htold.trans (List.append_assoc ..).symm, exitCode_eq_ok_iff result, ?_, hknows,
    fun hready => ?_, hclosings, ?_, hrest.2⟩
  · rintro failure rfl
    rfl
  · exact Outcomes.result_eq_ok_iff hready hknows
  · exact hfits.kept.equipped.released (List.mem_singleton.mp hrest.1)

/-- A receiver that takes everything. -/
def willing : Logged Device.Recorder where
  device := { gains := [], number := 0, faults := fun _ => none }

/-- So many steps of the session in which nothing happens outside. -/
def advances (steps : Nat) : List Move := List.replicate steps (.advance (.outside .nothing))

def supervisions (steps : Nat) : List Move := List.replicate steps (.work (.supervisor 0) .nothing)

/-- A session whose sample rate is too large for the receiver. -/
def refusedMoves : List Move :=
  .begin { plainArguments with sampleRate := 5000000000 } :: advances 4

/-- A session goes on until it streams. Then somebody asks to close, and it is over once its supervisor
has ended. -/
def closedMoves : List Move :=
  advances 15 ++ [.close, .resume 0 .nothing] ++ supervisions 5 ++ [.advance (.streamed (.ok ()))] ++
    advances 4 ++ supervisions 1 ++ advances 3

theorem session_protocol_closed :
    let before := (atRest willing).run refusedMoves
    let after := (atRest willing).run (refusedMoves ++ .begin plainArguments :: closedMoves)
    before.isRunning = false ∧
    (∀ others, .begin others ∉ closedMoves) ∧
    after.session = some (plainArguments, .returned (.ok ())) ∧
    before.service.events = [.closed .wrongArguments] ∧
    after.service.events = before.service.events ++ [.opened, .closed .ok] ∧
    after.service.closings = before.service.closings + 1 ∧
    after.server.Released := by
  have hnone : ∀ others, .begin others ∉ closedMoves := by
    simp [closedMoves, advances, supervisions]
  obtain ⟨hevents, -, -, -, -, hclosings, hreleased, -⟩ :=
    session_protocol willing refusedMoves closedMoves plainArguments (.ok ()) rfl hnone rfl
  exact ⟨rfl, hnone, rfl, rfl, hevents, hclosings, hreleased⟩

end Hosting

end Session

end TunerRelay
