import Mathlib
import TunerRelay.Proofs.Adapter.Dispatch
import TunerRelay.Proofs.Receiver.Changes
import TunerRelay.Proofs.Receiver.Sharing

/-!
# The latest settings

A receiver behind the tool accepts some requests and refuses the others, whatever its settings are. Its
settings are in each field the value that was accepted last, and its generation has moved once for each
operation that left other settings than it found. Operations are requests of the receiver, records that
reach an adapter, and steps of a capture, in any order.
-/

namespace TunerRelay.Receiver

open TunerRelay.Device (Request)
open TunerRelay.Relay (Loopback)
open TunerRelay.Wire (Record)

/-- The requests that are accepted: the tool takes neither a rate nor a frequency of zero, and there
are things that it cannot be told. -/
def accepts : Request → Bool
  | .sampleRate value | .frequency value => value != 0
  | .gainMode _ | .gain _ | .correction _ | .resetBuffer | .stream | .cancel | .close => true
  | .stageGain _ _ | .testMode _ | .automaticGain _ | .directSampling _ | .offsetTuning _
  | .crystals _ _ => false

/-- What was last accepted for a field, or what it was before. -/
def latest {α : Type} (field : Request → Option α) (requests : List Request) (initial : α) : α :=
  ((requests.filter accepts).filterMap field).getLast?.getD initial

def frequencyIn : Request → Option UInt32
  | .frequency hertz => some hertz
  | _ => none

def sampleRateIn : Request → Option UInt32
  | .sampleRate rate => some rate
  | _ => none

def gainModeIn : Request → Option Bool
  | .gainMode manual => some manual
  | _ => none

def gainIn : Request → Option Int32
  | .gain tenths => some tenths
  | _ => none

def correctionIn : Request → Option Int32
  | .correction ppm => some ppm
  | _ => none

/-- These settings with the value in each field that was last accepted for it. -/
def Settings.latest (settings : Settings) (requests : List Request) : Settings :=
  { deviceIndex := settings.deviceIndex
    frequency := Receiver.latest frequencyIn requests settings.frequency
    sampleRate := Receiver.latest sampleRateIn requests settings.sampleRate
    manualGain := Receiver.latest gainModeIn requests settings.manualGain
    gain := Receiver.latest gainIn requests settings.gain
    ppm := Receiver.latest correctionIn requests settings.ppm }

/-! ### One request and many -/

theorem latest_append {α : Type} (field : Request → Option α) (first second : List Request)
    (initial : α) :
    latest field (first ++ second) initial = latest field second (latest field first initial) := by
  simp only [latest, List.filter_append, List.filterMap_append, List.getLast?_append]
  cases ((second.filter accepts).filterMap field).getLast? <;> rfl

theorem Settings.latest_append (settings : Settings) (first second : List Request) :
    settings.latest (first ++ second) = (settings.latest first).latest second := by
  simp only [Settings.latest, Receiver.latest_append]

theorem apply_eq_of_accepts (settings : Settings) {request : Request}
    (haccepts : accepts request = true) :
    settings.apply request = .ok (settings.latest [request]) := by
  cases request with
  | sampleRate value | frequency value =>
      have hvalue : value ≠ 0 := bne_iff_ne.mp haccepts
      rw [Settings.apply, if_neg hvalue, Settings.latest]
      simp only [latest, List.filter_cons_of_pos haccepts]
      rfl
  | stageGain | testMode | automaticGain | directSampling | offsetTuning | crystals =>
      exact absurd haccepts nofun
  | _ => rfl

theorem exists_refusal (settings : Settings) {request : Request}
    (hrefused : accepts request = false) : ∃ fault, settings.apply request = .error fault := by
  cases request with
  | sampleRate value | frequency value =>
      have hzero : value = 0 := by simpa [accepts] using hrefused
      exact ⟨_, if_pos hzero⟩
  | stageGain | testMode | automaticGain | directSampling | offsetTuning | crystals =>
      exact ⟨_, rfl⟩
  | _ => exact absurd hrefused nofun

theorem latest_of_refused (settings : Settings) {request : Request}
    (hrefused : accepts request = false) : settings.latest [request] = settings := by
  simp [Settings.latest, latest, hrefused]

/-- A request is answered by what it is, and one that is refused leaves the receiver as it was. -/
theorem perform_eq_ok_iff (receiver : Receiver) (request : Request) :
    (receiver.perform request).1 = .ok () ↔ accepts request = true := by
  cases haccepts : accepts request with
  | true =>
      rw [perform_accepted (apply_eq_of_accepts receiver.settings haccepts)]
      exact iff_of_true rfl rfl
  | false =>
      obtain ⟨fault, hrefused⟩ := exists_refusal receiver.settings haccepts
      rw [perform_refused hrefused]
      exact iff_of_false nofun Bool.false_ne_true

theorem perform_of_error {receiver : Receiver} {request : Request} {fault : Device.Fault}
    (herror : (receiver.perform request).1 = .error fault) :
    (receiver.perform request).2 = receiver := by
  cases haccepts : accepts request with
  | true => exact nomatch herror.symm.trans ((perform_eq_ok_iff receiver request).mpr haccepts)
  | false =>
      obtain ⟨refusal, hrefused⟩ := exists_refusal receiver.settings haccepts
      rw [perform_refused hrefused]

theorem settings_perform (receiver : Receiver) (request : Request) :
    (receiver.perform request).2.settings = receiver.settings.latest [request] := by
  cases haccepts : accepts request with
  | true => rw [perform_accepted (apply_eq_of_accepts receiver.settings haccepts)]
  | false =>
      obtain ⟨fault, hrefused⟩ := exists_refusal receiver.settings haccepts
      rw [perform_refused hrefused, latest_of_refused receiver.settings haccepts]

theorem settings_after (receiver : Receiver) (requests : List Request) :
    (receiver.after requests).settings = receiver.settings.latest requests := by
  induction requests generalizing receiver with
  | nil => rfl
  | cons request rest ih =>
      calc (receiver.after (request :: rest)).settings
          = (receiver.perform request).2.settings.latest rest := ih _
        _ = receiver.settings.latest ([request] ++ rest) := by
            rw [settings_perform, Settings.latest_append]

theorem banner_after (receiver : Receiver) (requests : List Request) :
    (receiver.after requests).banner = receiver.banner := by
  induction requests generalizing receiver with
  | nil => rfl
  | cons request rest ih => exact (ih _).trans (receiver.banner_perform request)

theorem Capture.banner_step (signal : Signal) (place : Place) (receiver : Receiver) :
    (step signal { place, receiver }).receiver.banner = receiver.banner := by
  cases place with
  | starting | running | drained | comparing | judging =>
      simp only [step]
      split <;> rfl
  | launching | reading => cases signal <;> rfl
  | sampling | delivering | finished => rfl

theorem device_after_eq (receiver : Receiver) (requests : List Request) :
    Device.after requests receiver = receiver.after requests := by
  induction requests generalizing receiver with
  | nil => rfl
  | cons request rest ih => exact ih _

theorem changes_of_length_le_one (receiver : Receiver) {requests : List Request}
    (hlength : requests.length ≤ 1) :
    receiver.changes requests =
      if (receiver.after requests).settings ≠ receiver.settings then 1 else 0 := by
  match requests, hlength with
  | [], _ => exact (if_neg (not_not_intro rfl)).symm
  | [request], _ => exact Nat.zero_add _

/-! ### Operations -/

inductive Operation where
  /-- Somebody makes a request of the receiver. -/
  | request (request : Request)
  /-- A record reaches an adapter. -/
  | command (adapter : Nat) (record : Record)
  /-- A capture takes a step. -/
  | capture (place : Place) (signal : Signal)

namespace Operation

/-- The receiver behind a loopback. -/
def receiver (loopback : Loopback (Adapters Receiver)) : Receiver :=
  loopback.relay.hub.world.device

def perform (loopback : Loopback (Adapters Receiver)) :
    Operation → Loopback (Adapters Receiver)
  | .request asked => loopback.withWorld (loopback.relay.hub.world.request asked).2
  | .command adapter record => Adapter.command adapter record loopback
  | .capture place signal =>
    let capture := Capture.step signal { place, receiver := receiver loopback }
    loopback.withWorld { loopback.relay.hub.world with device := capture.receiver }

def run (loopback : Loopback (Adapters Receiver)) (operations : List Operation) :
    Loopback (Adapters Receiver) :=
  operations.foldl perform loopback

/-- What an operation asks of the receiver behind this loopback. Records come to what the command
table lists, if their adapter is active. -/
def asks (loopback : Loopback (Adapters Receiver)) : Operation → List Request
  | .request asked => [asked]
  | .command adapter record =>
    if loopback.relay.hub.attends adapter then
      Adapter.tabled (receiver loopback).banner.gains record
    else []
  | .capture _ _ => []

theorem length_asks_le (loopback : Loopback (Adapters Receiver)) (operation : Operation) :
    (operation.asks loopback).length ≤ 1 := by
  cases operation with
  | request asked => exact Nat.le_refl 1
  | command adapter record =>
      simp only [asks]
      split
      · exact Adapter.length_tabled_le _ record
      · exact Nat.zero_le 1
  | capture place signal => exact Nat.zero_le 1

/-- How many of the operations leave other settings than they find, one after another. -/
def alterations (loopback : Loopback (Adapters Receiver)) : List Operation → Nat
  | [] => 0
  | operation :: rest =>
    let next := operation.perform loopback
    alterations next rest +
      if (receiver next).settings ≠ (receiver loopback).settings then 1 else 0

/-- What an operation leaves of a loopback, as far as receivers and adapters are concerned: settings
and generation are those after these requests. -/
structure Leaves (requests : List Request) (loopback next : Loopback (Adapters Receiver)) : Prop where
  settings : (receiver next).settings = ((receiver loopback).after requests).settings
  generation : (receiver next).generation = ((receiver loopback).after requests).generation
  banner : (receiver next).banner = (receiver loopback).banner
  inactive : next.relay.hub.world.inactive = loopback.relay.hub.world.inactive

theorem Leaves.asks_eq {requests : List Request} {loopback next : Loopback (Adapters Receiver)}
    (hleaves : Leaves requests loopback next) : asks next = asks loopback := by
  funext operation
  cases operation with
  | command adapter record =>
      have hattends : next.relay.hub.attends adapter = loopback.relay.hub.attends adapter :=
        congrArg (fun inactive : List Nat => !inactive.contains adapter) hleaves.inactive
      simp only [asks, hattends, hleaves.banner]
  | _ => rfl

theorem leaves (operation : Operation) {loopback : Loopback (Adapters Receiver)}
    (hlength : (receiver loopback).banner.gains.length < 2 ^ 64) :
    Leaves (operation.asks loopback) loopback (operation.perform loopback) := by
  cases operation with
  | request asked => exact ⟨rfl, rfl, (receiver loopback).banner_perform asked, rfl⟩
  | command adapter record =>
      by_cases hattends : loopback.relay.hub.attends adapter = true
      · have hfaces : Adapter.Faces adapter (receiver loopback).banner.gains loopback :=
          ⟨steady, rfl, hattends⟩
        have hreceiver : receiver (Adapter.command adapter record loopback) =
            (receiver loopback).after (Adapter.tabled (receiver loopback).banner.gains record) := by
          rw [hfaces.command_eq hlength record]
          exact device_after_eq _ _
        simp only [perform, asks, if_pos hattends]
        refine ⟨congrArg settings hreceiver, congrArg generation hreceiver, ?_, ?_⟩
        · rw [hreceiver]
          exact banner_after _ _
        · rw [hfaces.command_eq hlength record]
          rfl
      · simp only [perform, asks, Adapter.command, if_neg hattends]
        exact ⟨rfl, rfl, rfl, rfl⟩
  | capture place signal =>
      obtain ⟨hsettings, hgeneration⟩ := Capture.receiver_step signal place (receiver loopback)
      exact ⟨hsettings, hgeneration, Capture.banner_step signal place (receiver loopback), rfl⟩

theorem generation_perform (operation : Operation) {loopback : Loopback (Adapters Receiver)}
    (hlength : (receiver loopback).banner.gains.length < 2 ^ 64) :
    (receiver (operation.perform loopback)).generation =
      (receiver loopback).generation + UInt64.ofNat
        (if (receiver (operation.perform loopback)).settings ≠ (receiver loopback).settings then 1
          else 0) := by
  have hleaves := operation.leaves hlength
  rw [hleaves.generation, hleaves.settings, generation_after,
    changes_of_length_le_one _ (length_asks_le loopback operation)]

theorem settings_run {loopback : Loopback (Adapters Receiver)}
    (hlength : (receiver loopback).banner.gains.length < 2 ^ 64) (operations : List Operation) :
    (receiver (run loopback operations)).settings =
      (receiver loopback).settings.latest (operations.flatMap (asks loopback)) := by
  induction operations generalizing loopback with
  | nil => rfl
  | cons operation rest ih =>
      have hleaves := operation.leaves hlength
      calc (receiver (run loopback (operation :: rest))).settings
          = (receiver (operation.perform loopback)).settings.latest
              (rest.flatMap (asks (operation.perform loopback))) :=
            ih (by rw [hleaves.banner]; exact hlength)
        _ = ((receiver loopback).settings.latest (operation.asks loopback)).latest
              (rest.flatMap (asks loopback)) := by
            rw [hleaves.asks_eq, hleaves.settings, settings_after]
        _ = (receiver loopback).settings.latest ((operation :: rest).flatMap (asks loopback)) := by
            rw [← Settings.latest_append, List.flatMap_cons]

theorem generation_run {loopback : Loopback (Adapters Receiver)}
    (hlength : (receiver loopback).banner.gains.length < 2 ^ 64) (operations : List Operation) :
    (receiver (run loopback operations)).generation =
      (receiver loopback).generation + UInt64.ofNat (alterations loopback operations) := by
  induction operations generalizing loopback with
  | nil => exact (UInt64.add_zero _).symm
  | cons operation rest ih =>
      have hleaves := operation.leaves hlength
      calc (receiver (run loopback (operation :: rest))).generation
          = (receiver (operation.perform loopback)).generation +
              UInt64.ofNat (alterations (operation.perform loopback) rest) :=
            ih (by rw [hleaves.banner]; exact hlength)
        _ = (receiver loopback).generation +
              UInt64.ofNat (alterations loopback (operation :: rest)) := by
            rw [operation.generation_perform hlength, alterations, UInt64.ofNat_add,
              UInt64.add_assoc, UInt64.add_comm (UInt64.ofNat (alterations _ rest))]

end Operation

/-- **Settings are what was accepted last.** Whatever requests, records and captures come in which
order, each field of the settings holds the last value that was accepted for it, or what it held at
first; the device stays the same. The generation has moved by the number of operations that left other
settings than they found, modulo `2 ^ 64`. A request is accepted by what it is alone, neither a rate nor
a frequency of zero ever is, and one that fails changes nothing. -/
theorem settings_are_latest {loopback : Loopback (Adapters Receiver)}
    (hlength : (Operation.receiver loopback).banner.gains.length < 2 ^ 64)
    (operations : List Operation) :
    let before := Operation.receiver loopback
    let later := Operation.receiver (Operation.run loopback operations)
    later.settings =
        before.settings.latest (operations.flatMap (Operation.asks loopback)) ∧
      later.generation =
        before.generation + UInt64.ofNat (Operation.alterations loopback operations) ∧
      ∀ (receiver : Receiver) (request : Request),
        ((receiver.perform request).1 = .ok () ↔ accepts request = true) ∧
        ∀ fault, (receiver.perform request).1 = .error fault →
          (receiver.perform request).2 = receiver :=
  ⟨Operation.settings_run hlength operations, Operation.generation_run hlength operations,
    fun receiver request => ⟨receiver.perform_eq_ok_iff request, fun _ => perform_of_error⟩⟩

/-- A receiver with two gains behind a relay at rest. -/
def relayed : Loopback (Adapters Receiver) :=
  { host := { isUp := true }, relay := .atRest { device := Adapter.tooled } }

/-- A frequency, another that is refused, a gain of a client, an entry by index, the same gain again, a
step of a capture, a setting that the tool does not have, and manual gain. -/
def mixedOperations : List Operation :=
  [.request (.frequency 7), .request (.frequency 0), .command 0 ⟨0x04, 0xffffffff⟩,
    .command 0 ⟨0x0d, 1⟩, .request (.gain 100), .capture .sampling .silence,
    .request (.testMode true), .command 0 ⟨0x03, 1⟩]

theorem settings_are_latest_mixed :
    (Operation.receiver relayed).banner.gains.length < 2 ^ 64 ∧
      (Operation.receiver (Operation.run relayed mixedOperations)).settings =
        { frequency := 7, gain := 100, manualGain := true } ∧
      (Operation.receiver (Operation.run relayed mixedOperations)).generation = 4 := by
  have hlength : (Operation.receiver relayed).banner.gains.length < 2 ^ 64 := by decide
  obtain ⟨hsettings, hgeneration, -⟩ := settings_are_latest hlength mixedOperations
  exact ⟨hlength, hsettings.trans (by decide +kernel), hgeneration.trans (by decide +kernel)⟩

end TunerRelay.Receiver
