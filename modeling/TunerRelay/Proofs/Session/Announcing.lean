import TunerRelay.Proofs.Adapter.Dispatch
import TunerRelay.Proofs.Relay.Isolation
import TunerRelay.Proofs.Session.Protocol
import TunerRelay.Proofs.Session.Sections

/-!
# The gain count that clients are told

A session stages a header with the size of the receiver's gain table before it serves a client, and
the adapters that act on the client's commands look entries up in that table. The size that was told
is the bound on what they take.
-/

namespace TunerRelay

open TunerRelay.Relay (Call Loopback Network Worker)
open TunerRelay.Tuner (gainIndex? lt_of_gainIndex?)
open TunerRelay.Wire (Header)

/-! ### Staging -/

/-- A new pool gives the header first, and holds nothing else. -/
theorem Server.acquire_stagedPool (header : Header) :
    ∃ buffer rest, (stagedPool header).acquire 1 = (some buffer, rest) ∧
      buffer.bytes = header.toBytes :=
  ⟨((Pool.Buffer.ofKind .ushort).fill header.toBytes).2, Pool.ofBuffers bufferLimit 1 [] [], rfl,
    Pool.Buffer.bytes_fill header.toBytes rfl⟩

theorem Relay.Call.step_ne_staging {ω : Type} [Relay.Audience ω] (signal : Relay.Signal)
    (call : Call) (relay : Relay ω) (address : String) (port : UInt16) (header : Header) :
    (call.step signal relay).1 ≠ .staging address port header := by
  intro hstaging
  cases call with
  | staging =>
      simp only [step, stage] at hstaging
      split at hstaging
      · cases hstaging
      · split at hstaging <;> cases hstaging
  | listening | engaging | feeding | glancing | collecting | awaiting =>
      simp only [step, listen, engage, feed] at hstaging
      split at hstaging <;> cases hstaging
  | binding | preparing | launching => cases signal <;> cases hstaging
  | _ => cases hstaging

/-- A staging that makes a pool succeeds. -/
theorem Relay.Call.Acts.stage_eq {address : String} {port : UInt16} {header : Header} {next : Call}
    {server later : Server} (hacts : Call.Acts server (.staging address port header) next later)
    (hepoch : later.epoch ≠ server.epoch) : server.stage header = .ok later := by
  cases hacts with
  | stage _ hstage => exact hstage
  | refuse => exact absurd rfl hepoch
  | quiet hstaging => exact absurd rfl (hstaging address port header)

namespace Session

open TunerRelay.Device (Tuner Constant Logged)

variable {σ : Type} [Tuner σ]

theorem header_congr {device next : σ} (hgains : Tuner.gains next = Tuner.gains device)
    (hnumber : Tuner.number next = Tuner.number device) : header next = header device := by
  rw [header, header, hgains, hnumber]

/-- A session comes to stage nothing but the header of its receiver. -/
theorem staging_step {arguments : Arguments} {signal : Signal} {place : Place} {service : Service σ}
    {address : String} {port : UInt16} {staged : Header}
    (hcall : (step arguments signal place service).1.call? = some (.staging address port staged)) :
    staged = header service.device := by
  have hreturned (call : Call) :
      (stepCall signal call service).1 ≠ .staging address port staged :=
    call.step_ne_staging signal.relaySignal service.relay address port staged
  cases place with
  | configuring rest =>
      cases rest with
      | nil =>
          cases hcall
          rfl
      | cons setup rest =>
          rw [step_configuring] at hcall
          simp only at hcall
          split at hcall <;> cases hcall
  | opening call =>
      simp only [step, afterOpening] at hcall
      split at hcall
      · cases hcall
      · cases hcall
      · exact absurd (Option.some.inj hcall) (hreturned call)
  | engaging adapter call =>
      simp only [step, afterEngaging] at hcall
      split at hcall
      · cases hcall
      · cases hcall
      · exact absurd (Option.some.inj hcall) (hreturned call)
  | joining call streamed =>
      simp only [step, afterJoining] at hcall
      split at hcall
      · cases hcall
      · exact absurd (Option.some.inj hcall) (hreturned call)
  | streaming adapter => cases signal <;> cases hcall
  | checking adapter =>
      simp only [step] at hcall
      split at hcall <;> cases hcall
  | starting adapter =>
      rw [step_starting] at hcall
      simp only at hcall
      split at hcall <;> cases hcall
  | _ => cases hcall

namespace Hosting

variable {hosting : Hosting σ}

theorem asked_move (hosting : Hosting σ) (move : Move) :
    Asked hosting.device (hosting.move move).device := by
  cases move with
  | begin arguments =>
      simp only [Hosting.move]
      split <;> exact .stay
  | advance signal =>
      obtain ⟨arguments, -, hservice, -⟩ := hosting.exists_step signal
      change Asked hosting.device (hosting.advance signal).service.device
      rw [hservice]
      exact asked_step arguments signal hosting.place hosting.service
  | work worker signal => exact asked_of_affects (hosting.relay.affects_work worker signal)
  | close | feed => exact .stay
  | resume number signal =>
      simp only [Hosting.move, Hosting.resume]
      split
      · exact .stay
      · exact asked_of_affects (Call.affects_step _ signal hosting.relay)
  | cancel => exact .request .cancel

theorem epoch_work (relay : Relay (Adapters σ)) (worker : Worker) (signal : Relay.Signal) :
    (relay.work worker signal).server.epoch = relay.server.epoch := by
  cases hsupervisor : relay.supervisors[worker.number]? with
  | none => rw [Relay.work_eq_of_none signal hsupervisor]
  | some supervisor =>
      rw [Relay.work_eq signal hsupervisor]
      exact (worker.work_step signal supervisor relay.hub).epoch_eq

/-- Only a session that stages its header makes a pool. -/
theorem Fits.staged_move (hfits : hosting.Fits) {move : Move}
    (hepoch : (hosting.move move).server.epoch ≠ hosting.server.epoch) :
    ∃ address port header, hosting.place.call? = some (.staging address port header) ∧
      hosting.server.stage header = .ok (hosting.move move).server := by
  rcases hfits.move_cases move with ⟨call, signal, hcall, hserver, -⟩ | ⟨worker, signal, hwork⟩
  · change (hosting.move move).relay.server.epoch ≠ _ at hepoch
    rw [hserver] at hepoch
    have hacts := call.acts signal hosting.relay
    rcases hacts.epoch_eq_or with hsame | ⟨-, -, address, port, header, rfl⟩
    · exact absurd hsame hepoch
    · refine ⟨address, port, header, hcall.resolve_left Bool.false_ne_true, ?_⟩
      change _ = Except.ok (hosting.move move).relay.server
      rw [hserver]
      exact hacts.stage_eq hepoch
  · change (hosting.move move).relay.server.epoch ≠ _ at hepoch
    rw [hwork] at hepoch
    exact absurd (epoch_work hosting.relay worker signal) hepoch

/-- What holds of every host of a receiver that always tells the same about its tuner. -/
structure Announces (device : σ) (hosting : Hosting σ) : Prop where
  fits : hosting.Fits
  gains : Tuner.gains hosting.device = Tuner.gains device
  number : Tuner.number hosting.device = Tuner.number device
  header : ∀ address port staged, hosting.place.call? = some (.staging address port staged) →
    staged = Session.header device

theorem announces_atRest (device : σ) : (atRest device).Announces device where
  fits := fits_atRest device
  gains := rfl
  number := rfl
  header := fun _ _ _ hcall => by cases hcall

theorem Announces.move {device : σ} (hconstant : Constant σ) (hannounces : hosting.Announces device)
    (move : Move) : (hosting.move move).Announces device := by
  obtain ⟨hgains, hnumber⟩ : Tuner.gains (hosting.move move).device = Tuner.gains hosting.device ∧
      Tuner.number (hosting.move move).device = Tuner.number hosting.device := by
    have hasked := hosting.asked_move move
    generalize (hosting.move move).device = next at hasked ⊢
    cases hasked with
    | stay => exact ⟨rfl, rfl⟩
    | request request => exact ⟨hconstant.steady request _, hconstant.number request _⟩
  refine ⟨hannounces.fits.move move, hgains.trans hannounces.gains,
    hnumber.trans hannounces.number, fun address port staged hcall => ?_⟩
  cases move with
  | begin arguments =>
      simp only [Hosting.move] at hcall
      split at hcall
      · exact hannounces.header address port staged hcall
      · cases hcall
  | advance signal =>
      obtain ⟨arguments, hplace, -, -⟩ := hosting.exists_step signal
      change (hosting.advance signal).place.call? = _ at hcall
      rw [hplace] at hcall
      rw [staging_step hcall]
      exact header_congr hannounces.gains hannounces.number
  | resume number signal =>
      simp only [Hosting.move, Hosting.resume] at hcall
      split at hcall
      · exact hannounces.header address port staged hcall
      · exact hannounces.header address port staged hcall
  | work | close | feed | cancel => exact hannounces.header address port staged hcall

theorem announces_run {device : σ} (hconstant : Constant σ) (moves : List Move) :
    ((atRest device).run moves).Announces device := by
  induction moves using List.reverseRecOn with
  | nil => exact announces_atRest device
  | append_singleton moves move ih =>
      have hmoved := ih.move hconstant move
      rw [run, List.foldl_append]
      exact hmoved

/-- What a session stages is read as the header of its receiver. -/
theorem Announces.staged {device : σ} (hannounces : hosting.Announces device) {move : Move}
    (hepoch : (hosting.move move).server.epoch ≠ hosting.server.epoch) :
    ∃ pool buffer rest, (hosting.move move).server.pool = some pool ∧ pool.Holds buffer.bytes ∧
      pool.acquire 1 = (some buffer, rest) ∧ buffer.bytes.length = 12 ∧
      Header.ofBytes? buffer.bytes = some (Session.header device) := by
  obtain ⟨address, port, staged, hcall, hstage⟩ := hannounces.fits.staged_move hepoch
  obtain rfl := hannounces.header address port staged hcall
  obtain ⟨buffer, rest, hacquire, hbytes⟩ := Server.acquire_stagedPool (Session.header device)
  refine ⟨Server.stagedPool (Session.header device), buffer, rest, ?_, ?_, hacquire, ?_, ?_⟩
  · unfold Server.stage at hstage
    split at hstage
    · rw [← Except.ok.inj hstage]
    · cases hstage
  · rw [hbytes]
    exact Server.holds_stagedPool _
  · rw [hbytes, Header.length_toBytes]
  · rw [hbytes, Header.ofBytes?_toBytes]

end Hosting

end Session

namespace Session.Hosting

open TunerRelay.Adapter (command log Faces entryAt_of_lt tabled_gainByIndex_eq_nil_iff
  tabled_gainByPercentage tabled_gainByPercentage_eq_nil_iff)
open TunerRelay.Device (Tuner Constant Logged)

/-- **The gains that are announced are those that commands reach.** A receiver with a table of fewer
than `2 ^ 32` gains has one header, with its tuner's number and the size of its table. Whatever its
host has seen: when a session makes its pool, the first buffer to be sent has twelve bytes that are
read as this header, and nothing else waits. An adapter that is active sets the gain to the entry at an
index just if the index is below the size announced, and to some entry for every percentage just if
that size is not zero; otherwise it asks nothing of the receiver. No percentage is given a position
outside the table. -/
theorem announced_gains_accepted {τ : Type} [Tuner τ] {device : Logged τ} (hconstant : Constant τ)
    (hlength : (Tuner.gains device).length < 2 ^ 32) (moves : List Move) :
    let gains := Tuner.gains device
    let hosting := (atRest device).run moves
    ∃ announced : Header, announced.magic = 0x52544c30 ∧ announced.tuner = Tuner.number device ∧
      announced.gainCount.toNat = gains.length ∧
      (∀ move, (hosting.move move).server.epoch ≠ hosting.server.epoch →
        ∃ pool buffer rest, (hosting.move move).server.pool = some pool ∧
          pool.Holds buffer.bytes ∧ pool.acquire 1 = (some buffer, rest) ∧
          buffer.bytes.length = 12 ∧ Header.ofBytes? buffer.bytes = some announced) ∧
      (∀ (network : Network) (adapter : Nat), hosting.relay.hub.attends adapter = true →
        let loopback : Loopback (Adapters (Logged τ)) :=
          { toNetwork := network, relay := hosting.relay }
        (∀ index : UInt32,
          (index.toNat < announced.gainCount.toNat → ∃ tenths, gains[index.toNat]? = some tenths ∧
            log (command adapter ⟨0x0d, index⟩ loopback) = log loopback ++ [.gain tenths]) ∧
          (announced.gainCount.toNat ≤ index.toNat →
            log (command adapter ⟨0x0d, index⟩ loopback) = log loopback)) ∧
        ∀ percent : UInt32,
          (0 < announced.gainCount.toNat → ∃ tenths ∈ gains,
            log (command adapter ⟨0x7f, percent⟩ loopback) = log loopback ++ [.gain tenths]) ∧
          (announced.gainCount.toNat = 0 →
            log (command adapter ⟨0x7f, percent⟩ loopback) = log loopback)) ∧
      ∀ percent index, gainIndex? percent (UInt64.ofNat gains.length) = some index →
        index.toNat < gains.length := by
  intro gains hosting
  have hannounces : hosting.Announces device := announces_run hconstant.logged moves
  have hcount : (Session.header device).gainCount.toNat = gains.length :=
    UInt32.toNat_ofNat_of_lt' hlength
  have hwide : gains.length < 2 ^ 64 := Nat.lt_trans hlength (by decide)
  refine ⟨Session.header device, rfl, rfl, hcount, fun move => hannounces.staged, ?_, ?_⟩
  · intro network adapter hactive loopback
    have hfaces : Faces adapter gains loopback :=
      ⟨hconstant.steady.logged, hannounces.gains, hactive⟩
    rw [hcount]
    refine ⟨fun index => ⟨fun hindex => ?_, fun hindex => ?_⟩,
      fun percent => ⟨fun hgains => ?_, fun hgains => ?_⟩⟩
    · refine ⟨gains[index.toNat], List.getElem?_eq_getElem hindex, ?_⟩
      rw [hfaces.log_command hwide]
      exact congrArg (log loopback ++ ·) (entryAt_of_lt hindex)
    · rw [hfaces.log_command hwide, (tabled_gainByIndex_eq_nil_iff gains index).mpr hindex,
        List.append_nil]
    · obtain ⟨tenths, hmem, htabled⟩ := tabled_gainByPercentage hgains percent
      refine ⟨tenths, hmem, ?_⟩
      rw [hfaces.log_command hwide, htabled]
    · rw [hfaces.log_command hwide, (tabled_gainByPercentage_eq_nil_iff gains percent).mpr
        (List.length_eq_zero_iff.mp hgains), List.append_nil]
  · intro percent index hindex
    have hbelow := UInt64.lt_iff_toNat_lt.mp (lt_of_gainIndex? hindex)
    rwa [UInt64.toNat_ofNat_of_lt' hwide] at hbelow

/-- A receiver with two gains. -/
def tunable : Logged Device.Recorder where
  device := { gains := [0, 100], number := 5, faults := fun _ => none }

/-- A session is set up and about to stage its header. -/
def stagingMoves : List Move := .begin plainArguments :: advances 5

theorem announced_gains_accepted_staged :
    let hosting := (atRest tunable).run stagingMoves
    let next := hosting.move (.advance (.outside .nothing))
    let loopback : Loopback (Adapters (Logged Device.Recorder)) :=
      { host := { isUp := true }, relay := hosting.relay }
    Constant Device.Recorder ∧ (Tuner.gains tunable).length < 2 ^ 32 ∧
    next.server.epoch ≠ hosting.server.epoch ∧ hosting.relay.hub.attends 0 = true ∧
    (∃ announced : Header, announced.tuner = 5 ∧ announced.gainCount.toNat = 2 ∧
      ∃ pool buffer rest, next.server.pool = some pool ∧ pool.acquire 1 = (some buffer, rest) ∧
        Header.ofBytes? buffer.bytes = some announced) ∧
    log (command 0 ⟨0x0d, 1⟩ loopback) = log loopback ++ [.gain 100] ∧
    log (command 0 ⟨0x0d, 2⟩ loopback) = log loopback := by
  intro hosting next loopback
  have hlength : (Tuner.gains tunable).length < 2 ^ 32 := by decide
  have hepoch : next.server.epoch ≠ hosting.server.epoch := Nat.one_ne_zero
  have hactive : hosting.relay.hub.attends 0 = true := rfl
  obtain ⟨announced, -, htuner, hcount, hstaged, hasked, -⟩ :=
    announced_gains_accepted Device.Recorder.constant hlength stagingMoves
  have hcount : announced.gainCount.toNat = 2 := hcount
  obtain ⟨pool, buffer, rest, hpool, -, hacquire, -, hread⟩ := hstaged _ hepoch
  obtain ⟨hindex, -⟩ := hasked loopback.toNetwork 0 hactive
  obtain ⟨tenths, hentry, hlog⟩ := (hindex 1).1 (by rw [hcount]; decide)
  obtain rfl : 100 = tenths := Option.some.inj hentry
  exact ⟨Device.Recorder.constant, hlength, hepoch, hactive,
    ⟨announced, htuner, hcount, pool, buffer, rest, hpool, hacquire, hread⟩, hlog,
    (hindex 2).2 (Nat.le_of_eq hcount)⟩

end Session.Hosting

end TunerRelay
