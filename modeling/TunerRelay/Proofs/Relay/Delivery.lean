import TunerRelay.Proofs.Relay.Supply

/-!
# What a supervisor delivers

What a session owes to its client goes three ways: the client's socket has taken it, or it is in the
hands of the supervisor, or it waits in the pool. A supervisor that is stopped in the middle of a
buffer, or whose socket fails, sends nothing more, so that what was sent stays the beginning of what
is owed.
-/

namespace TunerRelay.Relay

open TunerRelay.Pool (Buffer)
open TunerRelay.Server (Quiet Supplies)

namespace Supervisor

/-- The bytes of the buffer in hand that have yet to be sent. -/
def carried (supervisor : Supervisor) : List UInt8 :=
  match supervisor.place with
  | .writing buffer offset | .offering buffer offset => rest buffer offset
  | _ => []

/-- Whether the supervisor has begun to serve its client and has not stopped. -/
def Place.isServing : Place → Bool
  | .spawning | .idle | .fetching | .writing _ _ | .offering _ _ | .returning _ _ | .counting _ =>
    true
  | _ => false

/-- Whether the supervisor is about to stop the server, as it does when its socket has failed. -/
def Place.isFailing : Place → Bool
  | .returning _ none | .halting => true
  | _ => false

/-- Nothing is lost as long as the session lasts: what is owed is sent, in hand, or waiting. -/
def Intact (supervisor : Supervisor) (server : Server) (epoch : Nat) (owed : List UInt8) : Prop :=
  supervisor.sent ++ supervisor.carried <+: owed ∧
    ∀ pool, server.poolOf? epoch = some pool →
      ∃ waiting, pool.Holds waiting ∧ owed = supervisor.sent ++ supervisor.carried ++ waiting

/-- Where a supervisor can be that sends nothing more. Unless its socket has just failed, its session
is over. -/
def Place.IsPast (server : Server) (epoch : Nat) : Place → Prop
  | .returning _ none | .halting => True
  | .returning _ (some _) | .counting _ | .idle | .joining | .closing | .notifying | .leaving _
  | .ended => server.Over epoch
  | .fetching => server.epoch ≠ epoch
  | _ => False

/-- The supervisor has been stopped, or its socket has failed. -/
def Cut (supervisor : Supervisor) (server : Server) (epoch : Nat) (owed : List UInt8) : Prop :=
  supervisor.sent <+: owed ∧ supervisor.place.IsPast server epoch

structure Delivers (supervisor : Supervisor) (server : Server) (epoch : Nat)
    (owed : List UInt8) : Prop where
  epoch_le : epoch ≤ server.epoch
  late : supervisor.place.isServing = true → server.Late epoch
  intact_or : supervisor.Intact server epoch owed ∨ supervisor.Cut server epoch owed

theorem Place.IsPast.supplied {epoch : Nat} {gain : List UInt8} {server next : Server}
    {place : Place} (hpast : place.IsPast server epoch) (hle : epoch ≤ server.epoch)
    (hsupplies : Supplies epoch gain server next) : place.IsPast next epoch := by
  have hnever : server.epoch ≠ epoch → next.epoch ≠ epoch := by
    intro hne
    have hmore := hsupplies.epoch_le
    omega
  cases place with
  | returning buffer result =>
      cases result with
      | none => trivial
      | some bytes => exact hsupplies.over_next hle hpast
  | counting | idle | joining | closing | notifying | leaving | ended =>
      exact hsupplies.over_next hle hpast
  | halting => trivial
  | fetching => exact hnever hpast
  | _ => exact hpast.elim

/-- Without a failure nothing is cut off before the session is over. -/
theorem Place.IsPast.isFailing {server : Server} {epoch : Nat} {place : Place}
    (hpast : place.IsPast server epoch) (hover : ¬ server.Over epoch) :
    place.isFailing = true := by
  cases place with
  | returning buffer result =>
      cases result with
      | none => rfl
      | some bytes => exact absurd hpast hover
  | halting => rfl
  | counting | idle | joining | closing | notifying | leaving | ended => exact absurd hpast hover
  | fetching => exact absurd (Server.not_over_iff.mp hover).1 hpast
  | _ => exact hpast.elim

theorem carried_eq_nil {supervisor : Supervisor} (hhand : supervisor.place.hand = none) :
    supervisor.carried = [] := by
  unfold carried
  split
  · rename_i hplace
    rw [hplace] at hhand
    cases hhand
  · rename_i hplace
    rw [hplace] at hhand
    cases hhand
  · rfl

theorem Delivers.sent_prefix {supervisor : Supervisor} {server : Server} {epoch : Nat}
    {owed : List UInt8} (hdelivers : supervisor.Delivers server epoch owed) :
    supervisor.sent <+: owed := by
  rcases hdelivers.intact_or with ⟨hsent, -⟩ | ⟨hsent, -⟩
  · exact (List.prefix_append supervisor.sent supervisor.carried).trans hsent
  · exact hsent

theorem Delivers.owed_eq {supervisor : Supervisor} {server : Server} {epoch : Nat}
    {owed : List UInt8} {pool : Pool} (hdelivers : supervisor.Delivers server epoch owed)
    (hover : ¬ server.Over epoch) (hfailing : supervisor.place.isFailing = false)
    (hpool : server.pool = some pool) :
    ∃ waiting, pool.Holds waiting ∧ owed = supervisor.sent ++ supervisor.carried ++ waiting := by
  rcases hdelivers.intact_or with ⟨-, hintact⟩ | ⟨-, hpast⟩
  · exact hintact pool
      (Server.poolOf?_eq_some_iff.mpr ⟨(Server.not_over_iff.mp hover).1, hpool⟩)
  · rw [hpast.isFailing hover] at hfailing
    cases hfailing

/-- What others do in between adds to what is owed and takes nothing away. -/
theorem Delivers.supplied {supervisor : Supervisor} {server next : Server} {epoch : Nat}
    {owed gain : List UInt8} (hdelivers : supervisor.Delivers server epoch owed)
    (hsupplies : Supplies epoch gain server next) :
    supervisor.Delivers next epoch (owed ++ gain) where
  epoch_le := Nat.le_trans hdelivers.epoch_le hsupplies.epoch_le
  late hserving := hsupplies.late_next hdelivers.epoch_le (hdelivers.late hserving)
  intact_or := by
    have hmore := List.prefix_append owed gain
    rcases hdelivers.intact_or with ⟨hsent, hpool⟩ | ⟨hsent, hpast⟩
    · left
      refine ⟨hsent.trans hmore, ?_⟩
      intro later hlater
      rcases hsupplies.pool later hlater with ⟨pool, hown, hholds⟩ | ⟨hnew, -⟩
      · obtain ⟨waiting, hwaiting, howed⟩ := hpool pool hown
        refine ⟨waiting ++ gain, hholds waiting hwaiting, ?_⟩
        rw [howed]
        simp only [List.append_assoc]
      · exact absurd hdelivers.epoch_le (Nat.not_le_of_lt hnew)
    · exact Or.inr ⟨hsent.trans hmore, hpast.supplied hdelivers.epoch_le hsupplies⟩

theorem Delivers.spared {supervisor : Supervisor} {server next : Server} {epoch : Nat}
    {owed : List UInt8} (hdelivers : supervisor.Delivers server epoch owed)
    (hsupplies : Supplies epoch [] server next) : supervisor.Delivers next epoch owed := by
  have hafter := hdelivers.supplied hsupplies
  rw [List.append_nil] at hafter
  exact hafter

/-- A supervisor that goes on without a byte changing hands delivers as it did. -/
theorem Delivers.goOn {supervisor later : Supervisor} {server : Server} {epoch : Nat}
    {owed : List UInt8} (hdelivers : supervisor.Delivers server epoch owed)
    (hsent : later.sent = supervisor.sent) (hcarried : later.carried = supervisor.carried)
    (hlate : later.place.isServing = true → server.Late epoch)
    (hpast : supervisor.place.IsPast server epoch → later.place.IsPast server epoch) :
    later.Delivers server epoch owed where
  epoch_le := hdelivers.epoch_le
  late := hlate
  intact_or := by
    unfold Intact Cut
    rw [hsent, hcarried]
    exact hdelivers.intact_or.imp id fun hcut => ⟨hcut.1, hpast hcut.2⟩

/-- A supervisor notes no session but the present one. -/
theorem isSome_poolOf?_of_note {supervisor : Supervisor} {server : Server} {epoch : Nat}
    (hepoch : (supervisor.note server).epoch = some epoch) :
    server.epoch = epoch ∧ (server.poolOf? epoch).isSome = true := by
  cases hpool : server.pool with
  | none => simp [note, hpool] at hepoch
  | some pool =>
      have hpresent : server.epoch = epoch := by simpa [note, hpool] using hepoch
      rw [Server.poolOf?_eq_some_iff.mpr ⟨hpresent, hpool⟩]
      exact ⟨hpresent, rfl⟩

/-- When a supervisor notes its session, nothing has been taken out of the pool. -/
theorem Delivers.note {supervisor : Supervisor} {server : Server} {epoch : Nat}
    {owed : List UInt8} (hepoch : (supervisor.note server).epoch = some epoch)
    (hsent : supervisor.sent = [])
    (hholds : ∀ pool, server.poolOf? epoch = some pool → pool.Holds owed) :
    (supervisor.note server).Delivers server epoch owed := by
  have hpresent := (isSome_poolOf?_of_note hepoch).1
  refine ⟨Nat.le_of_eq hpresent.symm, nofun, Or.inl ⟨?_, ?_⟩⟩
  · simp only [Supervisor.note, carried, hsent]
    exact List.nil_prefix
  · intro pool hpool
    refine ⟨owed, hholds pool hpool, ?_⟩
    simp only [Supervisor.note, carried, hsent, List.nil_append]

section Steps

variable {supervisor : Supervisor} {server next : Server} {epoch : Nat} {owed : List UInt8}
  {buffer : Buffer} {offset : Nat}

/-- What a fetched buffer holds has waited in the pool. -/
theorem Delivers.fetch (hdelivers : supervisor.Delivers server epoch owed)
    (hplace : supervisor.place = .fetching) (htake : (server.take epoch).1 = some buffer) :
    (supervisor.goTo (.writing buffer 0)).Delivers (server.take epoch).2 epoch owed := by
  obtain ⟨place, observer, session, connection, reader, sent⟩ := supervisor
  obtain rfl : place = .fetching := hplace
  obtain ⟨pool, rest, hpool, hacquire, hnext⟩ := Server.take_of_some htake
  have hpresent := (Server.poolOf?_eq_some_iff.mp hpool).1
  obtain ⟨hsent, hintact⟩ := hdelivers.intact_or.resolve_right fun hcut => hcut.2 hpresent
  obtain ⟨waiting, hholds, howed⟩ := hintact pool hpool
  obtain ⟨-, behind, hfront, hbehind⟩ := hholds.acquire_ready hacquire
  have hsplit : owed = sent ++ buffer.bytes ++ behind := by
    rw [howed, hfront]
    simp [carried]
  rw [hnext]
  refine ⟨hdelivers.epoch_le, fun _ => hdelivers.late rfl, Or.inl ⟨?_, ?_⟩⟩
  · rw [hsplit]
    exact List.prefix_append _ behind
  · intro later hlater
    cases (Server.poolOf?_eq_some_iff.mp hlater).2
    exact ⟨behind, hbehind, hsplit⟩

/-- Bytes leave the hands of the supervisor as the socket takes them. -/
theorem Delivers.send (count : Nat) (hdelivers : supervisor.Delivers server epoch owed)
    (hplace : supervisor.place = .offering buffer offset) :
    Delivers
      { supervisor with
        place := .writing buffer (offset + ((rest buffer offset).take count).length)
        sent := supervisor.sent ++ (rest buffer offset).take count }
      server epoch owed := by
  obtain ⟨place, observer, session, connection, reader, sent⟩ := supervisor
  obtain rfl : place = .offering buffer offset := hplace
  have hintact := hdelivers.intact_or.resolve_right fun hcut => hcut.2
  have hlater : ∀ taken, rest buffer (offset + taken) = (rest buffer offset).drop taken :=
    fun taken => List.drop_drop.symm
  have hmoved : sent ++ (rest buffer offset).take count ++
      rest buffer (offset + ((rest buffer offset).take count).length) =
        sent ++ rest buffer offset := by
    calc
      _ = sent ++ ((rest buffer offset).take count ++
            (rest buffer offset).drop ((rest buffer offset).take count).length) := by
          rw [hlater, List.append_assoc]
      _ = sent ++ rest buffer offset := by
          rw [List.prefix_iff_eq_append.mp (List.take_prefix count (rest buffer offset))]
  refine ⟨hdelivers.epoch_le, fun _ => hdelivers.late rfl, Or.inl ?_⟩
  unfold Intact
  simp only [carried, hmoved]
  exact hintact

/-- What is left of a buffer is lost if the client is not served any more. -/
theorem Delivers.finish (hdelivers : supervisor.Delivers server epoch owed)
    (hplace : supervisor.place = .writing buffer offset)
    (hdone : rest buffer offset = [] ∨ server.phase ≠ .serving) :
    (supervisor.goTo (.returning buffer (some offset))).Delivers server epoch owed := by
  obtain ⟨place, observer, session, connection, reader, sent⟩ := supervisor
  obtain rfl : place = .writing buffer offset := hplace
  rcases hdone with hempty | hphase
  · exact hdelivers.goOn rfl hempty.symm (fun _ => hdelivers.late rfl) False.elim
  · refine ⟨hdelivers.epoch_le, fun _ => hdelivers.late rfl, Or.inr ⟨hdelivers.sent_prefix, ?_⟩⟩
    exact fun hsame => (hdelivers.late rfl hsame).resolve_left hphase

theorem Delivers.walk {place : Place} (hdelivers : supervisor.Delivers server epoch owed)
    (hstocked : server.Stocked) (hepoch : supervisor.epoch = some epoch)
    (hhand : ∀ buffer, supervisor.place.hand = some buffer → buffer.kind = .ushort)
    (hleads : supervisor.place.Leads supervisor.epoch server place next) :
    (supervisor.goTo place).Delivers next epoch owed := by
  have hquiet : Quiet server next → supervisor.Delivers next epoch owed :=
    fun hquiet => hdelivers.spared (hquiet.supplies epoch hstocked)
  have hgiven : ∀ buffer, supervisor.place.hand = some buffer →
      supervisor.Delivers (server.giveBack epoch buffer) epoch owed := fun buffer hheld =>
    hdelivers.spared (Server.supplies_giveBack epoch epoch hstocked (hhand buffer hheld))
  obtain ⟨before, observer, session, connection, reader, sent⟩ := supervisor
  obtain rfl : session = some epoch := hepoch
  cases hleads with
  | seek | expect | retry | accept | split => exact hdelivers.goOn rfl rfl nofun False.elim
  | splitFailed =>
      exact (hquiet (Server.quiet_requestStop server)).goOn rfl rfl nofun False.elim
  | enter hphase =>
      exact (hquiet (.serve hphase)).goOn rfl rfl (fun _ _ => Or.inl rfl) False.elim
  | giveUp place hplace =>
      cases before <;>
        first
          | exact hdelivers.goOn rfl rfl nofun False.elim
          | cases hplace
  | spawnFailed =>
      have hafter := hquiet (Server.quiet_requestStop server)
      exact hafter.goOn rfl rfl (fun _ => hafter.late rfl) False.elim
  | goOn hphase =>
      refine hdelivers.goOn rfl rfl (fun _ => hdelivers.late rfl) ?_
      intro hover hsame
      rcases hover hsame with habsurd | habsurd <;> cases hphase.symm.trans habsurd
  | stop => exact hdelivers.goOn rfl rfl (fun _ => hdelivers.late rfl) fun _ => trivial
  | skip hsession => cases hsession
  | fetchNothing session hsession htake =>
      obtain rfl := Option.some.inj hsession
      rw [Server.take_of_none hstocked htake]
      exact hdelivers.goOn rfl rfl (fun _ => hdelivers.late rfl) fun hne hsame => absurd hsame hne
  | fetch session buffer hsession htake =>
      obtain rfl := Option.some.inj hsession
      exact hdelivers.fetch rfl htake
  | offer => exact hdelivers.goOn rfl rfl (fun _ => hdelivers.late rfl) False.elim
  | finish buffer offset hdone => exact hdelivers.finish rfl hdone
  | offerAgain => exact hdelivers.goOn rfl rfl (fun _ => hdelivers.late rfl) id
  | fail =>
      exact ⟨hdelivers.epoch_le, fun _ => hdelivers.late rfl,
        Or.inr ⟨hdelivers.sent_prefix, trivial⟩⟩
  | giveBack buffer =>
      have hafter := hgiven buffer rfl
      exact hafter.goOn rfl rfl (fun _ => hafter.late rfl) id
  | drop buffer => exact (hgiven buffer rfl).goOn rfl rfl nofun fun _ => trivial
  | count bytes =>
      have hafter := hquiet (.countSent bytes)
      exact hafter.goOn rfl rfl (fun _ => hafter.late rfl) id
  | halt =>
      exact (hquiet (Server.quiet_requestStop server)).goOn rfl rfl nofun
        fun _ => server.over_requestStop epoch
  | close => exact (hquiet .close).goOn rfl rfl nofun id
  | linger | inform | quit | leave | stay => exact hdelivers.goOn rfl rfl nofun id

/-- A step of the supervisor of the session. -/
theorem Delivers.step {later : Supervisor} (hdelivers : supervisor.Delivers server epoch owed)
    (hstocked : server.Stocked) (hepoch : supervisor.epoch = some epoch)
    (hstarting : supervisor.place ≠ .starting)
    (hhand : ∀ buffer, supervisor.place.hand = some buffer → buffer.kind = .ushort)
    (hsteps : supervisor.Steps server later next) : later.Delivers next epoch owed := by
  cases hsteps with
  | note hplace => exact absurd hplace hstarting
  | walk hleads => exact hdelivers.walk hstocked hepoch hhand hleads
  | send count hplace => exact hdelivers.send count hplace
  | register hplace hadmitted hnext =>
      have hafter := hdelivers.spared
        ((Server.quiet_of_admit? hadmitted).supplies epoch hstocked)
      obtain ⟨place, observer, session, connection, reader, sent⟩ := supervisor
      cases hplace
      rcases hnext with rfl | rfl <;> exact hafter.goOn rfl rfl nofun False.elim
  | staff hplace =>
      obtain ⟨place, observer, session, connection, reader, sent⟩ := supervisor
      cases hplace
      exact hdelivers.goOn rfl rfl (fun _ => hdelivers.late rfl) False.elim
  | join hplace =>
      obtain ⟨place, observer, session, connection, reader, sent⟩ := supervisor
      cases hplace
      exact hdelivers.goOn rfl rfl nofun id

end Steps

end Supervisor

end TunerRelay.Relay
