import TunerRelay.Proofs.Relay.Supply

/-!
# What a session owes to its client

A session owes the header that it was opened with and, after it, the chunks that were queued in it.
Both are read off the calls: the header off the section that staged the pool, and the chunks off the
sections of feeds that ended with the answer that the chunk was queued.
-/

namespace TunerRelay.Relay

open TunerRelay.Server (Quiet Supplies)

structure Ledger where
  header : Option Wire.Header := none
  /-- In the order in which their feeds queued them. -/
  chunks : List (List UInt8) := []
deriving DecidableEq, Repr

namespace Ledger

def bytes (ledger : Ledger) : List UInt8 :=
  ledger.header.elim [] Wire.Header.toBytes ++ ledger.chunks.flatten

/-- What a section of a call, after which the call stands here, adds to what a session owes. -/
def enter (epoch : Nat) (server : Server) (call next : Call) (ledger : Ledger) : Ledger :=
  match call with
  | .staging _ _ header =>
    if server.phase = .uninitialized ∧ server.epoch + 1 = epoch then { header := some header }
    else ledger
  | .feeding bytes =>
    match next with
    | .returned (.fed .queued) =>
      if server.epoch = epoch then { ledger with chunks := ledger.chunks ++ [bytes] } else ledger
    | _ => ledger
  | _ => ledger

/-- An entry agrees with what the section did to the pool of the session. -/
inductive Entry (epoch : Nat) (server next : Server) (ledger : Ledger) : Ledger → Prop where
  | nothing (hsame : next.epoch = epoch → server.epoch = epoch)
    (hsupplies : Supplies epoch [] server next) : Entry epoch server next ledger ledger
  | header (header : Wire.Header) (hnew : server.epoch < epoch) (hopened : next.epoch = epoch)
    (hsupplies : Supplies epoch header.toBytes server next) :
    Entry epoch server next ledger { header := some header }
  | chunk (bytes : List UInt8) (hpresent : server.epoch = epoch)
    (hsupplies : Supplies epoch bytes server next) :
    Entry epoch server next ledger { ledger with chunks := ledger.chunks ++ [bytes] }

namespace Entry

variable {epoch : Nat} {server next : Server} {ledger entered : Ledger}

theorem supplies (hentry : Entry epoch server next ledger entered)
    (hunopened : server.epoch < epoch → ledger = {}) :
    ∃ gain, entered.bytes = ledger.bytes ++ gain ∧ Supplies epoch gain server next := by
  cases hentry with
  | nothing hsame hsupplies => exact ⟨[], (List.append_nil _).symm, hsupplies⟩
  | header header hnew hopened hsupplies =>
      refine ⟨header.toBytes, ?_, hsupplies⟩
      rw [hunopened hnew]
      simp [bytes]
  | chunk bytes hpresent hsupplies => exact ⟨bytes, by simp [Ledger.bytes], hsupplies⟩

/-- Before it is opened a session owes nothing. -/
theorem unopened (hentry : Entry epoch server next ledger entered)
    (hunopened : server.epoch < epoch → ledger = {}) (hearly : next.epoch < epoch) :
    entered = {} := by
  cases hentry with
  | nothing hsame hsupplies =>
      exact hunopened (Nat.lt_of_le_of_lt hsupplies.epoch_le hearly)
  | header header hnew hopened hsupplies => omega
  | chunk bytes hpresent hsupplies =>
      have hle := hsupplies.epoch_le
      omega

theorem isSome_header (hentry : Entry epoch server next ledger entered)
    (hheader : ledger.header.isSome = true) : entered.header.isSome = true := by
  cases hentry with
  | header => rfl
  | nothing | chunk => exact hheader

/-- A session with a pool owes a header. -/
theorem headed (hentry : Entry epoch server next ledger entered)
    (hheaded : (server.poolOf? epoch).isSome = true → ledger.header.isSome = true)
    (hpool : (next.poolOf? epoch).isSome = true) : entered.header.isSome = true := by
  obtain ⟨later, hlater⟩ := Option.isSome_iff_exists.mp hpool
  obtain ⟨hpresent, -⟩ := Server.poolOf?_eq_some_iff.mp hlater
  have hkept : ∀ gain, server.epoch = epoch → Supplies epoch gain server next →
      ledger.header.isSome = true := by
    intro gain hsame hsupplies
    rcases hsupplies.pool later hlater with ⟨pool, hown, -⟩ | ⟨hnew, -⟩
    · exact hheaded (by rw [hown]; rfl)
    · omega
  cases hentry with
  | nothing hsame hsupplies => exact hkept [] (hsame hpresent) hsupplies
  | header => rfl
  | chunk bytes hpresent hsupplies => exact hkept bytes hpresent hsupplies

end Entry

end Ledger

/-- What a call enters is what it did. -/
theorem Call.Acts.entry {call next : Call} {server later : Server} (epoch : Nat) (ledger : Ledger)
    (hacts : call.Acts server next later) (hstocked : server.Stocked) :
    Ledger.Entry epoch server later ledger (ledger.enter epoch server call next) := by
  cases hacts with
  | refuse next hphase =>
      simp only [Ledger.enter, hphase, false_and, if_false]
      exact .nothing id (Quiet.stay.supplies epoch hstocked)
  | stage next hstage =>
      obtain ⟨hrest, hnext, hsupplies⟩ := Server.supplies_stage hstage epoch
      simp only [Ledger.enter, hrest, true_and]
      split
      · rename_i hsame
        rw [if_pos hsame] at hsupplies
        exact .header _ (by omega) (hnext.trans hsame) hsupplies
      · rename_i hother
        rw [if_neg hother] at hsupplies
        exact .nothing (fun hsame => absurd (hnext.symm.trans hsame) hother) hsupplies
  | wait bytes => exact .nothing id (Quiet.stay.supplies epoch hstocked)
  | feed bytes =>
      have hsupplies := (server.feeds_feed bytes).supplies hstocked epoch
      have hsame := Server.epoch_feed server bytes
      have hnothing : ¬ ((server.feed bytes).1 = .queued ∧ server.epoch = epoch) →
          Ledger.Entry epoch server (server.feed bytes).2 ledger ledger := by
        intro hnot
        rw [if_neg hnot] at hsupplies
        exact .nothing hsame.symm.trans hsupplies
      cases hstatus : (server.feed bytes).1 with
      | queued =>
          simp only [Ledger.enter]
          split
          · rename_i hpresent
            rw [if_pos ⟨hstatus, hpresent⟩] at hsupplies
            exact .chunk bytes hpresent hsupplies
          · rename_i hother
            exact hnothing fun hqueued => hother hqueued.2
      | dropped | noClient | closed =>
          refine hnothing fun hqueued => ?_
          cases hstatus.symm.trans hqueued.1
  | quiet hstaging hfeeding hquiet =>
      have hnothing : ledger.enter epoch server call next = ledger := by
        cases call with
        | staging address port header => exact absurd rfl (hstaging address port header)
        | feeding bytes => exact absurd rfl (hfeeding bytes)
        | _ => rfl
      rw [hnothing]
      exact .nothing hquiet.epoch_eq.symm.trans (hquiet.supplies epoch hstocked)

variable {ω : Type} [Audience ω]

namespace Traffic

/-- What a move adds to what a session owes. -/
def enter (epoch : Nat) (traffic : Traffic ω) (ledger : Ledger) : Move → Ledger
  | .resume number signal =>
    match traffic.calls[number]? with
    | some call => ledger.enter epoch traffic.server call (call.step signal traffic.relay).1
    | none => ledger
  | _ => ledger

/-- What a session owes after some moves. -/
def ledger (epoch : Nat) : Traffic ω → Ledger → List Move → Ledger
  | _, owed, [] => owed
  | traffic, owed, move :: moves =>
    (traffic.move move).ledger epoch (traffic.enter epoch owed move) moves

theorem ledger_concat (epoch : Nat) (traffic : Traffic ω) (owed : Ledger) (moves : List Move)
    (move : Move) :
    traffic.ledger epoch owed (moves ++ [move]) =
      (traffic.run moves).enter epoch (traffic.ledger epoch owed moves) move := by
  induction moves generalizing traffic owed with
  | nil => rfl
  | cons first moves ih => exact ih _ _

end Traffic

end TunerRelay.Relay
