import Mathlib
import TunerRelay.Adapter.Basic
import TunerRelay.Device.Logged
import TunerRelay.Device.Recorder
import TunerRelay.Proofs.Adapter.Table
import TunerRelay.Proofs.Session.Requests

/-!
# What an adapter makes of its session

An active adapter turns each record into the requests that the command table lists, one record after
another. How the receiver answers makes no difference, and only the command to exit reaches the server.
Once deactivated, an adapter leaves receiver and server alone.
-/

namespace TunerRelay

open TunerRelay.Relay (Audience Hub Loopback)
open TunerRelay.Server (FeedStatus)
open TunerRelay.Wire (Record supportedOpcodes)

namespace Device

variable {σ : Type} [Tuner σ]

/-- The receiver after these requests, whatever it answers. -/
def after (requests : List Request) (device : σ) : σ :=
  requests.foldl (fun device request => (Tuner.perform request device).2) device

theorem after_append (first second : List Request) (device : σ) :
    after (first ++ second) device = after second (after first device) :=
  List.foldl_append

/-- No request changes the gains of such a receiver. -/
def Steady (σ : Type) [Tuner σ] : Prop :=
  ∀ (request : Request) (device : σ),
    Tuner.gains (Tuner.perform request device).2 = Tuner.gains device

theorem Steady.gains_after (hsteady : Steady σ) (requests : List Request) (device : σ) :
    Tuner.gains (after requests device) = Tuner.gains device := by
  induction requests generalizing device with
  | nil => rfl
  | cons request rest ih => exact (ih _).trans (hsteady request device)

theorem Steady.logged (hsteady : Steady σ) : Steady (Logged σ) :=
  fun request logged => hsteady request logged.device

/-- A recorder keeps its gains and its number, and fails as it was told to. -/
theorem Recorder.kept (request : Request) (recorder : Recorder) :
    (recorder.perform request).2.gains = recorder.gains ∧
      (recorder.perform request).2.number = recorder.number ∧
      (recorder.perform request).2.faults = recorder.faults := by
  cases request with
  | cancel => exact ⟨rfl, rfl, rfl⟩
  | _ =>
      simp only [perform]
      split <;> exact ⟨rfl, rfl, rfl⟩

theorem Recorder.steady : Steady Recorder := fun request recorder => (recorder.kept request).1

/-- No request changes what such a receiver tells about its tuner. -/
structure Constant (σ : Type) [Tuner σ] : Prop where
  steady : Steady σ
  number : ∀ (request : Request) (device : σ),
    Tuner.number (Tuner.perform request device).2 = Tuner.number device

theorem Constant.logged (hconstant : Constant σ) : Constant (Logged σ) where
  steady := hconstant.steady.logged
  number := fun request logged => hconstant.number request logged.device

theorem Recorder.constant : Constant Recorder where
  steady := Recorder.steady
  number := fun request recorder => (recorder.kept request).2.1

theorem Logged.requests_after (requests : List Request) (logged : Logged σ) :
    (after requests logged).requests = logged.requests ++ requests := by
  induction requests generalizing logged with
  | nil => exact (List.append_nil _).symm
  | cons request rest ih => exact (ih _).trans (List.append_assoc _ [request] rest)

end Device

theorem Receiver.banner_perform (request : Device.Request) (receiver : Receiver) :
    (receiver.perform request).2.banner = receiver.banner := by
  unfold perform
  split
  · rfl
  · simp only [update]
    split <;> rfl

theorem Receiver.steady : Device.Steady Receiver :=
  fun request receiver => congrArg Receiver.Banner.gains (receiver.banner_perform request)

theorem Receiver.constant : Device.Constant Receiver where
  steady := Receiver.steady
  number := fun request receiver => congrArg Receiver.Banner.tuner (receiver.banner_perform request)

namespace Adapter

open TunerRelay.Device (Tuner Logged Steady)

variable {σ : Type} [Tuner σ]

/-- All that an adapter has done when it has stopped the server so often and has made these
requests. -/
def acted (stops : Nat) (requests : List Device.Request) (loopback : Loopback (Adapters σ)) :
    Loopback (Adapters σ) :=
  let hub := loopback.relay.hub
  loopback.withHub
    { hub with
      server := Server.stop^[stops] hub.server
      world := { hub.world with device := Device.after requests hub.world.device } }

theorem acted_acted (first second : Nat) (early late : List Device.Request)
    (loopback : Loopback (Adapters σ)) :
    acted second late (acted first early loopback) =
      acted (second + first) (early ++ late) loopback := by
  simp only [acted, Device.after_append, Function.iterate_add_apply]
  rfl

/-- What reaches an adapter, one after another. -/
def run (adapter : Nat) (loopback : Loopback (Adapters σ)) (events : List Event) :
    Loopback (Adapters σ) :=
  events.foldl (fun loopback event => (observe adapter loopback event).2) loopback

/-! ### While it is active -/

/-- An active adapter in front of a receiver with these gains, which no request changes. -/
structure Faces (adapter : Nat) (gains : List Int32) (loopback : Loopback (Adapters σ)) : Prop where
  steady : Steady σ
  gains_eq : Tuner.gains loopback.relay.hub.world.device = gains
  active : loopback.relay.hub.attends adapter = true

/-- The client asks for the end. -/
def exits (record : Record) : Bool := record.opcode == 0x7e

theorem Faces.acted {adapter : Nat} {gains : List Int32} {loopback : Loopback (Adapters σ)}
    (hfaces : Faces adapter gains loopback) (stops : Nat) (requests : List Device.Request) :
    Faces adapter gains (acted stops requests loopback) :=
  { steady := hfaces.steady
    gains_eq := (hfaces.steady.gains_after requests _).trans hfaces.gains_eq
    active := hfaces.active }

theorem Faces.command_eq {adapter : Nat} {gains : List Int32} {loopback : Loopback (Adapters σ)}
    (hfaces : Faces adapter gains loopback) (hlength : gains.length < 2 ^ 64) (record : Record) :
    command adapter record loopback =
      Adapter.acted (if exits record then 1 else 0) (tabled gains record) loopback := by
  have hrequests := requests_ofRecord hlength record
  have hexits : exits record = true ↔ Reaction.ofRecord gains record = .stop :=
    beq_iff_eq.trans (ofRecord_eq_stop_iff gains record).symm
  have hhear : Audience.hear adapter record loopback.relay.hub.world =
      loopback.relay.hub.world.react record := rfl
  rw [command, if_pos hfaces.active, Hub.hear, hhear, Adapters.react, hfaces.gains_eq, ← hrequests]
  cases hreaction : Reaction.ofRecord gains record with
  | request request =>
      rw [if_neg fun hexit => nomatch hreaction.symm.trans (hexits.mp hexit)]
      rfl
  | stop =>
      rw [if_pos (hexits.mpr hreaction)]
      rfl
  | nothing =>
      rw [if_neg fun hexit => nomatch hreaction.symm.trans (hexits.mp hexit)]
      rfl

theorem Faces.run_eq {adapter : Nat} {gains : List Int32} {loopback : Loopback (Adapters σ)}
    (hfaces : Faces adapter gains loopback) (hlength : gains.length < 2 ^ 64)
    (records : List Record) :
    run adapter loopback (records.map .command) =
      Adapter.acted (records.countP exits) (records.flatMap (tabled gains)) loopback := by
  induction records generalizing loopback with
  | nil => rfl
  | cons record rest ih =>
      have hstep := hfaces.command_eq hlength record
      calc run adapter loopback ((record :: rest).map .command)
          = run adapter (command adapter record loopback) (rest.map .command) := rfl
        _ = Adapter.acted (rest.countP exits) (rest.flatMap (tabled gains))
              (Adapter.acted (if exits record then 1 else 0) (tabled gains record) loopback) := by
            rw [hstep, ih (hfaces.acted _ _)]
        _ = Adapter.acted ((record :: rest).countP exits) ((record :: rest).flatMap (tabled gains))
              loopback := by
            rw [acted_acted, List.countP_cons, List.flatMap_cons]

/-- What a logging receiver was asked behind this loopback. -/
def log (loopback : Loopback (Adapters (Logged σ))) : List Device.Request :=
  loopback.relay.hub.world.device.requests

theorem Faces.log_command {adapter : Nat} {gains : List Int32}
    {loopback : Loopback (Adapters (Logged σ))} (hfaces : Faces adapter gains loopback)
    (hlength : gains.length < 2 ^ 64) (record : Record) :
    log (command adapter record loopback) = log loopback ++ tabled gains record := by
  rw [hfaces.command_eq hlength record]
  exact Device.Logged.requests_after _ loopback.relay.hub.world.device

/-! ### After it was deactivated -/

/-- What a deactivated adapter answers. -/
def Event.unheeded : Event → Option FeedStatus
  | .samples _ => some .closed
  | .command _ | .closed | .deactivation => none

omit [Tuner σ] in
theorem isActive_deactivate (world : Adapters σ) (adapter : Nat) :
    (world.deactivate adapter).isActive adapter = false := by
  unfold Adapters.deactivate
  split
  · simp [Adapters.isActive]
  · exact Bool.eq_false_of_not_eq_true ‹_›

theorem observe_of_inactive {adapter : Nat} {loopback : Loopback (Adapters σ)}
    (hinactive : loopback.relay.hub.world.isActive adapter = false) (event : Event) :
    observe adapter loopback event = (event.unheeded, loopback) := by
  have hattends : ¬ loopback.relay.hub.attends adapter = true :=
    fun hactive => Bool.false_ne_true (hinactive.symm.trans hactive)
  cases event with
  | command record => rw [observe, command, if_neg hattends, Event.unheeded]
  | samples bytes => rw [observe, samples, if_neg hattends, Event.unheeded]
  | closed => rw [observe, closed, if_neg hattends, Event.unheeded]
  | deactivation =>
      have hsame : loopback.relay.hub.world.deactivate adapter = loopback.relay.hub.world := by
        rw [Adapters.deactivate, if_neg (Bool.eq_false_iff.mp hinactive)]
      rw [observe, deactivate, hsame]
      rfl

theorem run_of_inactive {adapter : Nat} {loopback : Loopback (Adapters σ)}
    (hinactive : loopback.relay.hub.world.isActive adapter = false) (events : List Event) :
    run adapter loopback events = loopback := by
  induction events with
  | nil => rfl
  | cons event rest ih =>
      rw [run, List.foldl_cons, observe_of_inactive hinactive event]
      exact ih

/-! ### Both together -/

/-- **Dispatch is by the table, whatever the receivers answer.** Two receivers with the same gains are
asked the same by adapters that get the same records: what the table lists for each, one after another,
at most one request for a record, and none for an opcode that is not supported, an index beyond the
gains, or a percentage of none. But for that, all that happens is that the server is stopped once for
every command to exit. After an adapter was deactivated, nothing that reaches it changes anything, and
it answers samples with the end. -/
theorem dispatched_by_table {τ : Type} [Tuner τ] {adapter : Nat} {gains : List Int32}
    {one : Loopback (Adapters (Logged σ))} {other : Loopback (Adapters (Logged τ))}
    (hone : Faces adapter gains one) (hother : Faces adapter gains other)
    (hlength : gains.length < 2 ^ 64) (records : List Record) :
    let served := run adapter one (records.map .command)
    let calls := records.flatMap (tabled gains)
    (log served = log one ++ calls ∧
      log (run adapter other (records.map .command)) = log other ++ calls) ∧
    (∀ record, (tabled gains record).length ≤ 1 ∧
      (record.opcode ∉ supportedOpcodes → tabled gains record = [])) ∧
    (∀ parameter, (tabled gains ⟨0x0d, parameter⟩ = [] ↔ gains.length ≤ parameter.toNat) ∧
      (tabled gains ⟨0x7f, parameter⟩ = [] ↔ gains = [])) ∧
    (served = acted (records.countP exits) calls one ∧
      served.relay.server = Server.stop^[records.countP exits] one.relay.server) ∧
    let silent := deactivate adapter served
    silent.relay.hub.world.device = served.relay.hub.world.device ∧
      silent.relay.server = served.relay.server ∧
      (∀ event, observe adapter silent event = (event.unheeded, silent)) ∧
      ∀ events, run adapter silent events = silent := by
  intro served calls
  have hserved : served = acted (records.countP exits) calls one := hone.run_eq hlength records
  have hlog : ∀ {ρ : Type} [Tuner ρ] {loopback : Loopback (Adapters (Logged ρ))},
      Faces adapter gains loopback →
        log (run adapter loopback (records.map .command)) = log loopback ++ calls := by
    intro ρ _ loopback hfaces
    rw [hfaces.run_eq hlength records]
    exact Device.Logged.requests_after calls loopback.relay.hub.world.device
  have hsilent : (deactivate adapter served).relay.hub.world.isActive adapter = false :=
    isActive_deactivate served.relay.hub.world adapter
  refine ⟨⟨hlog hone, hlog hother⟩, fun record => ?_, fun parameter => ?_, ⟨hserved, ?_⟩,
    Session.device_deactivate served.relay.hub.world adapter, rfl, observe_of_inactive hsilent,
    run_of_inactive hsilent⟩
  · exact ⟨length_tabled_le gains record, tabled_of_unsupported gains⟩
  · exact ⟨tabled_gainByIndex_eq_nil_iff gains parameter,
      tabled_gainByPercentage_eq_nil_iff gains parameter⟩
  · rw [hserved]
    rfl

/-- A loopback at rest, with an adapter for this receiver. -/
def before (device : σ) : Loopback (Adapters (Logged σ)) :=
  { host := { isUp := true }, relay := .atRest { device := { device } } }

/-- A receiver that refuses everything. -/
def refusing : Device.Recorder :=
  { gains := [0, 100], number := 5, faults := fun _ => some (.usb (-9)) }

/-- A receiver behind the tool, with the same gains. -/
def tooled : Receiver := .ofBanner "rtl_sdr" 0 { gains := [0, 100] }

/-- An entry by index, an unknown opcode, an entry by percentage, an index out of range, the end, and a
frequency. -/
def mixedRecords : List Record :=
  [⟨0x0d, 1⟩, ⟨0x42, 9⟩, ⟨0x7f, 49⟩, ⟨0x0d, 2⟩, ⟨0x7e, 0⟩, ⟨0x01, 7⟩]

theorem dispatched_by_table_mixed :
    (Faces 0 [0, 100] (before refusing) ∧ Faces 0 [0, 100] (before tooled) ∧
      ([0, 100] : List Int32).length < 2 ^ 64) ∧
    log (run 0 (before refusing) (mixedRecords.map .command)) =
      [.gain 100, .gain 0, .frequency 7] ∧
    log (run 0 (before tooled) (mixedRecords.map .command)) =
      [.gain 100, .gain 0, .frequency 7] ∧
    (run 0 (before refusing) (mixedRecords.map .command)).relay.server =
      (before refusing).relay.server.stop := by
  have hrefusing : Faces 0 [0, 100] (before refusing) := ⟨Device.Recorder.steady.logged, rfl, rfl⟩
  have htooled : Faces 0 [0, 100] (before tooled) := ⟨Receiver.steady.logged, rfl, rfl⟩
  have hlength : ([0, 100] : List Int32).length < 2 ^ 64 := by decide
  obtain ⟨⟨hlog, hother⟩, -, -, ⟨-, hserver⟩, -⟩ :=
    dispatched_by_table hrefusing htooled hlength mixedRecords
  exact ⟨⟨hrefusing, htooled, hlength⟩, hlog, hother, hserver⟩

end Adapter

end TunerRelay
