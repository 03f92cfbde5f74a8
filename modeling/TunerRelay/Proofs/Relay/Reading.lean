import TunerRelay.Proofs.Relay.Upkeep
import TunerRelay.Proofs.Wire.Records

/-!
# What a reader makes of the bytes it gets

However the bytes of a client arrive, every record that a reader hands on stands in them, in order.
As long as the client is served the reader loses no byte, and the records that it hands on are those
from the start of the stream. Once the client is no longer served it completes at most the record
that it had decided on before.
-/

namespace TunerRelay.Relay.Reader

open TunerRelay.Wire (Record)

variable {ω : Type} [Audience ω]

/-- The bytes of the record that the reader is at. -/
def Place.inHand : Place → List UInt8
  | .assembling piece | .receiving piece => piece
  | .judging record | .counting record | .handing record => record.toBytes
  | .idle | .halting | .acting _ | .ended => []

/-- The record that the reader has decided to hand on. -/
def Place.committed : Place → List Record
  | .counting record | .handing record => [record]
  | _ => []

/-- The records that the reader has counted. -/
def counted (reader : Reader) : Nat :=
  match reader.place with
  | .handing _ => reader.records.length + 1
  | _ => reader.records.length

/-- What the reader has is part of what it got, after the records that it handed on. -/
def Sound (reader : Reader) : Prop :=
  ∃ front, reader.received = front ++ reader.place.inHand ∧ Record.Among reader.records front

/-- The records that the reader hands on are the first of the stream. -/
def Aligned (reader : Reader) : Prop :=
  Record.allBytes (reader.records ++ reader.place.committed) <+: reader.received

/-- What the reader got beyond the records that it handed on. -/
def Place.Keeps (rest : List UInt8) : Place → Prop
  | .idle | .acting _ => rest = []
  | .assembling piece => rest = piece ∧ piece.length ≤ Record.size
  | .receiving piece => rest = piece ∧ piece.length < Record.size
  | .halting => rest.length < Record.size
  | .judging record | .counting record | .handing record => rest = record.toBytes
  | .ended => False

/-- The reader has lost nothing of what it got. -/
def Exact (reader : Reader) : Prop :=
  ∃ rest, reader.received = Record.allBytes reader.records ++ rest ∧ reader.place.Keeps rest

theorem sound_start : ({} : Reader).Sound := ⟨[], rfl, .nil []⟩

theorem exact_start : ({} : Reader).Exact := ⟨[], rfl, rfl⟩

theorem Exact.aligned {reader : Reader} (hexact : reader.Exact) : reader.Aligned := by
  obtain ⟨place, received, records⟩ := reader
  obtain ⟨rest, hreceived, hkeeps⟩ := hexact
  have hreceived : received = Record.allBytes records ++ rest := hreceived
  subst hreceived
  unfold Aligned
  simp only [Record.allBytes_append, List.prefix_append_right_inj]
  cases place with
  | counting record | handing record =>
      have hrest : rest = record.toBytes := hkeeps
      simp [Place.committed, hrest]
  | _ => exact List.nil_prefix

theorem assemble_eq (piece : List UInt8) (serving : Bool) :
    (∃ record : Record, piece = record.toBytes ∧ assemble piece serving = .judging record) ∨
      piece.length ≠ Record.size ∧
        assemble piece serving = if serving then .receiving piece else .idle := by
  unfold assemble
  cases hrecord : Record.ofBytes? piece with
  | none => exact Or.inr ⟨Record.ofBytes?_eq_none_iff.mp hrecord, rfl⟩
  | some record => exact Or.inl ⟨record, Record.toBytes_of_ofBytes? hrecord, rfl⟩

/-- A step keeps every record in the stream, whatever the server does. -/
theorem Sound.step {reader : Reader} (observer : Nat) (signal : Signal) (hub : Hub ω)
    (hsound : reader.Sound) : (reader.step observer signal hub).1.Sound := by
  obtain ⟨place, received, records⟩ := reader
  obtain ⟨front, hreceived, hamong⟩ := hsound
  have hreceived : received = front ++ place.inHand := hreceived
  have hamong : Record.Among records front := hamong
  -- Whatever is in hand may be dropped.
  have hdropped : Record.Among records received := hreceived ▸ hamong.append _
  have hnothing : received = received ++ [] := (List.append_nil received).symm
  cases place with
  | idle =>
      refine ⟨received, ?_, hdropped⟩
      simp only [Reader.step, goTo]
      split <;> exact hnothing
  | assembling piece =>
      rcases assemble_eq piece hub.isServing with ⟨record, rfl, hjudging⟩ | ⟨-, hother⟩
      · refine ⟨front, ?_, hamong⟩
        simp only [Reader.step, goTo, hjudging]
        exact hreceived
      · simp only [Sound, Reader.step, goTo, hother]
        split
        · exact ⟨front, hreceived, hamong⟩
        · exact ⟨received, hnothing, hdropped⟩
  | receiving piece =>
      cases signal with
      | received bytes =>
          refine ⟨front, ?_, hamong⟩
          simp only [Reader.step, hreceived]
          exact List.append_assoc ..
      | failure reason => exact ⟨received, hnothing, hdropped⟩
      | _ => exact ⟨front, hreceived, hamong⟩
  | judging record =>
      simp only [Sound, Reader.step, goTo]
      split
      · exact ⟨front, hreceived, hamong⟩
      · exact ⟨received, hnothing, hdropped⟩
  | counting record => exact ⟨front, hreceived, hamong⟩
  | handing record =>
      refine ⟨received, ?_, hreceived ▸ hamong.concat record⟩
      simp only [Reader.step]
      split <;> exact hnothing
  | halting | acting | ended => exact ⟨received, hnothing, hdropped⟩

/-- While the client is served a step loses nothing. -/
theorem Exact.step {reader : Reader} (observer : Nat) (signal : Signal) {hub : Hub ω}
    (hserving : hub.isServing = true)
    (hnext : (reader.step observer signal hub).2.isServing = true) (hexact : reader.Exact) :
    (reader.step observer signal hub).1.Exact := by
  obtain ⟨place, received, records⟩ := reader
  obtain ⟨rest, hreceived, hkeeps⟩ := hexact
  have hreceived : received = Record.allBytes records ++ rest := hreceived
  have hkeeps : place.Keeps rest := hkeeps
  cases place with
  | idle =>
      refine ⟨rest, hreceived, ?_⟩
      simp only [Reader.step, goTo, hserving, if_true]
      exact ⟨hkeeps, Nat.zero_le _⟩
  | assembling piece =>
      obtain ⟨rfl, hlength⟩ := hkeeps
      refine ⟨rest, hreceived, ?_⟩
      rcases assemble_eq rest hub.isServing with ⟨record, hrecord, hjudging⟩ | ⟨hne, hother⟩
      · simp only [Reader.step, goTo, hjudging]
        exact hrecord
      · simp only [Reader.step, goTo, hother]
        rw [if_pos hserving]
        exact ⟨rfl, Nat.lt_of_le_of_ne hlength hne⟩
  | receiving piece =>
      obtain ⟨rfl, hlength⟩ := hkeeps
      cases signal with
      | received bytes =>
          refine ⟨rest ++ accept rest bytes, ?_, rfl, ?_⟩
          · exact (congrArg (· ++ accept rest bytes) hreceived).trans (List.append_assoc ..)
          · simp only [accept, List.length_append, List.length_take]
            omega
      | failure reason => exact ⟨rest, hreceived, hlength⟩
      | _ => exact ⟨rest, hreceived, rfl, Nat.le_of_lt hlength⟩
  | halting =>
      have hphase := Hub.isServing_iff.mp hserving
      simp [Reader.step, Hub.requestStop, Hub.withServer, Server.requestStop, hphase,
        Hub.isServing, Hub.phase] at hnext
  | judging record =>
      refine ⟨rest, hreceived, ?_⟩
      simp only [Reader.step, goTo, hserving, if_true]
      exact hkeeps
  | counting record => exact ⟨rest, hreceived, hkeeps⟩
  | handing record =>
      have hrest : rest = record.toBytes := hkeeps
      subst hrest
      refine ⟨[], ?_, ?_⟩
      · simp [Reader.step, hreceived]
      · simp only [Reader.step]
        split <;> rfl
  | acting record => exact ⟨rest, hreceived, hkeeps⟩
  | ended => exact hkeeps.elim

/-- Unless it decides on a record, a step hands on only what was decided on before. -/
theorem records_step {reader : Reader} (observer : Nat) (signal : Signal) {hub : Hub ω}
    (hjudging : (∃ record, reader.place = .judging record) → hub.isServing = false) :
    (reader.step observer signal hub).1.records ++
        (reader.step observer signal hub).1.place.committed =
      reader.records ++ reader.place.committed := by
  obtain ⟨place, received, records⟩ := reader
  cases place with
  | idle =>
      simp only [Reader.step, goTo]
      split <;> rfl
  | assembling piece =>
      rcases assemble_eq piece hub.isServing with ⟨record, -, hjudging⟩ | ⟨-, hother⟩
      · simp only [Reader.step, goTo, hjudging]
        rfl
      · simp only [Reader.step, goTo, hother]
        split <;> rfl
  | receiving piece => cases signal <;> rfl
  | judging record => simp [Reader.step, goTo, hjudging ⟨record, rfl⟩, Place.committed]
  | halting | counting | acting | ended => rfl
  | handing record =>
      simp only [Reader.step]
      cases hub.attends observer <;> simp [Place.committed]

theorem received_step (reader : Reader) (observer : Nat) (signal : Signal) (hub : Hub ω) :
    reader.received <+: (reader.step observer signal hub).1.received := by
  obtain ⟨place, received, records⟩ := reader
  cases place with
  | receiving piece =>
      cases signal with
      | received bytes => exact List.prefix_append received _
      | _ => exact List.prefix_refl received
  | _ => exact List.prefix_refl received

theorem Aligned.step {reader : Reader} (observer : Nat) (signal : Signal) {hub : Hub ω}
    (hjudging : (∃ record, reader.place = .judging record) → hub.isServing = false)
    (haligned : reader.Aligned) : (reader.step observer signal hub).1.Aligned := by
  unfold Aligned
  rw [records_step observer signal hjudging]
  exact haligned.trans (received_step reader observer signal hub)

theorem counted_eq_of_step {reader : Reader} (observer : Nat) (signal : Signal) (hub : Hub ω)
    (hcounting : ∀ record, reader.place ≠ .counting record) :
    (reader.step observer signal hub).1.counted = reader.counted := by
  obtain ⟨place, received, records⟩ := reader
  cases place with
  | idle | judging =>
      simp only [Reader.step, goTo]
      split <;> rfl
  | assembling piece =>
      rcases assemble_eq piece hub.isServing with ⟨record, -, hjudging⟩ | ⟨-, hother⟩
      · simp only [Reader.step, goTo, hjudging]
        rfl
      · simp only [Reader.step, goTo, hother]
        split <;> rfl
  | receiving piece => cases signal <;> rfl
  | halting | acting | ended => rfl
  | counting record => exact absurd rfl (hcounting record)
  | handing record =>
      simp only [Reader.step]
      cases hub.attends observer <;> simp [counted]

/-- The server counts what the reader counts. -/
theorem commands_step (reader : Reader) (observer : Nat) (signal : Signal) (hub : Hub ω) :
    (reader.step observer signal hub).2.server.counters.commands + UInt64.ofNat reader.counted =
      hub.server.counters.commands +
        UInt64.ofNat (reader.step observer signal hub).1.counted := by
  by_cases hcounting : ∃ record, reader.place = .counting record
  · obtain ⟨place, received, records⟩ := reader
    obtain ⟨record, rfl⟩ := hcounting
    have hcounted : ∀ commands : UInt64, commands + 1 + UInt64.ofNat records.length =
        commands + UInt64.ofNat (records.length + 1) := by
      intro commands
      rw [UInt64.ofNat_add, UInt64.add_assoc, UInt64.add_comm 1]
      rfl
    exact hcounted hub.server.counters.commands
  · have hnot : ∀ record, reader.place ≠ .counting record :=
      fun record hplace => hcounting ⟨record, hplace⟩
    rw [counted_eq_of_step observer signal hub hnot,
      (quiet_step observer signal hub hnot).commands_eq]

end TunerRelay.Relay.Reader
