import TunerRelay.Proofs.Pool.Stages
import TunerRelay.Proofs.Relay.Moves

/-!
# What sections do to the pool of a session

A session, known by its number, has a pool from its staging until the server is closed. Apart from
its own supervisor, nobody takes bytes out of the pool, and only feeds put bytes into it.
-/

namespace TunerRelay

open TunerRelay.Pool (Buffer)

namespace Server

/-- The pool is a relay's, and the server has one unless it is at rest. -/
structure Stocked (server : Server) : Prop where
  holds : ∀ pool, server.pool = some pool → ∃ waiting, pool.Holds waiting
  isSome : server.phase ≠ .uninitialized → server.pool.isSome = true

/-- If this session is the present one, then it has come to be served. -/
def Late (server : Server) (epoch : Nat) : Prop :=
  server.epoch = epoch →
    server.phase = .serving ∨ server.phase = .stopping ∨ server.phase = .uninitialized

/-- This session has been stopped or closed. -/
def Over (server : Server) (epoch : Nat) : Prop :=
  server.epoch = epoch → server.phase = .stopping ∨ server.phase = .uninitialized

/-- A section of others than the supervisor of a session. It adds these bytes to those that wait in
the pool of the session, which is new if the session is. -/
structure Supplies (epoch : Nat) (gain : List UInt8) (server next : Server) : Prop where
  stocked : next.Stocked
  epoch_le : server.epoch ≤ next.epoch
  pool : ∀ later, next.poolOf? epoch = some later →
    (∃ pool, server.poolOf? epoch = some pool ∧
      ∀ waiting, pool.Holds waiting → later.Holds (waiting ++ gain)) ∨
    server.epoch < epoch ∧ later.Holds gain
  late_next : epoch ≤ server.epoch → server.Late epoch → next.Late epoch
  over_next : epoch ≤ server.epoch → server.Over epoch → next.Over epoch

theorem poolOf?_eq_some_iff {server : Server} {epoch : Nat} {pool : Pool} :
    server.poolOf? epoch = some pool ↔ server.epoch = epoch ∧ server.pool = some pool := by
  unfold poolOf?
  split <;> simp [*]

theorem not_over_iff {server : Server} {epoch : Nat} :
    ¬ server.Over epoch ↔
      server.epoch = epoch ∧ server.phase ≠ .stopping ∧ server.phase ≠ .uninitialized := by
  simp [Over]

theorem Stocked.holds_of_poolOf? {server : Server} {epoch : Nat} {pool : Pool}
    (hstocked : server.Stocked) (hpool : server.poolOf? epoch = some pool) :
    ∃ waiting, pool.Holds waiting :=
  hstocked.holds pool (poolOf?_eq_some_iff.mp hpool).2

/-- A section that leaves the pool of the session alone supplies nothing. -/
theorem Supplies.of_pool_eq {server next : Server} {epoch : Nat} (hstocked : next.Stocked)
    (hepoch : next.epoch = server.epoch) (hphase : next.phase = server.phase)
    (hpool : next.poolOf? epoch = server.poolOf? epoch) : Supplies epoch [] server next where
  stocked := hstocked
  epoch_le := Nat.le_of_eq hepoch.symm
  pool later hlater := by
    refine Or.inl ⟨later, hpool ▸ hlater, ?_⟩
    intro waiting hholds
    rw [List.append_nil]
    exact hholds
  late_next _ hlate hsame := by
    rw [hphase]
    exact hlate (hepoch ▸ hsame)
  over_next _ hover hsame := by
    rw [hphase]
    exact hover (hepoch ▸ hsame)

theorem Quiet.stocked {server next : Server} (hstocked : server.Stocked)
    (hquiet : Quiet server next) : next.Stocked := by
  have hkept : server.phase ≠ .uninitialized → ∀ {pool : Option Pool}, pool = server.pool →
      pool.isSome = true := fun hphase _ hpool => hpool ▸ hstocked.isSome hphase
  cases hquiet with
  | stay | countSent => exact ⟨hstocked.holds, hstocked.isSome⟩
  | listen endpoint hphase | engage observer hphase | register connection hphase | serve hphase =>
      exact ⟨hstocked.holds, fun _ => hkept (by rw [hphase]; exact nofun) rfl⟩
  | halt hphase => exact ⟨hstocked.holds, fun _ => hkept hphase rfl⟩
  | close =>
      unfold cleanUp
      split
      · exact hstocked
      · exact ⟨fun _ hpool => (nomatch hpool), fun hphase => absurd rfl hphase⟩

theorem Quiet.late_next {server next : Server} {epoch : Nat} (hquiet : Quiet server next)
    (hlate : server.Late epoch) : next.Late epoch := by
  intro hepoch
  have hbefore := hlate (hquiet.epoch_eq ▸ hepoch)
  cases hquiet with
  | stay | countSent => exact hbefore
  | listen endpoint hphase | engage observer hphase | register connection hphase | serve hphase =>
      rw [hphase] at hbefore
      rcases hbefore with habsurd | habsurd | habsurd <;> cases habsurd
  | halt => exact Or.inr (Or.inl rfl)
  | close => exact Or.inr (Or.inr (phase_cleanUp server))

theorem Quiet.over_next {server next : Server} {epoch : Nat} (hquiet : Quiet server next)
    (hover : server.Over epoch) : next.Over epoch := by
  intro hepoch
  have hbefore := hover (hquiet.epoch_eq ▸ hepoch)
  cases hquiet with
  | stay | countSent => exact hbefore
  | listen endpoint hphase | engage observer hphase | register connection hphase | serve hphase =>
      rw [hphase] at hbefore
      rcases hbefore with habsurd | habsurd <;> cases habsurd
  | halt => exact Or.inl rfl
  | close => exact Or.inr (phase_cleanUp server)

theorem Quiet.supplies {server next : Server} (epoch : Nat) (hstocked : server.Stocked)
    (hquiet : Quiet server next) : Supplies epoch [] server next where
  stocked := hquiet.stocked hstocked
  epoch_le := Nat.le_of_eq hquiet.epoch_eq.symm
  pool later hlater := by
    obtain ⟨hepoch, hpool⟩ := poolOf?_eq_some_iff.mp hlater
    rcases hquiet.pool_eq_or with hsame | ⟨hnone, -⟩
    · refine Or.inl ⟨later, poolOf?_eq_some_iff.mpr ⟨?_, hsame ▸ hpool⟩, ?_⟩
      · exact hquiet.epoch_eq ▸ hepoch
      · intro waiting hholds
        rw [List.append_nil]
        exact hholds
    · rw [hnone] at hpool
      cases hpool
  late_next _ := hquiet.late_next
  over_next _ := hquiet.over_next

theorem over_requestStop (server : Server) (epoch : Nat) : server.requestStop.Over epoch := by
  intro _
  unfold requestStop
  split
  · exact Or.inr ‹_›
  · exact Or.inl rfl

theorem take_of_none {server : Server} {epoch : Nat} (hstocked : server.Stocked)
    (htake : (server.take epoch).1 = none) : (server.take epoch).2 = server := by
  unfold take at htake ⊢
  cases hpool : server.poolOf? epoch with
  | none => rfl
  | some pool =>
      obtain ⟨waiting, hholds⟩ := hstocked.holds_of_poolOf? hpool
      have hown := (poolOf?_eq_some_iff.mp hpool).2
      simp only [hpool] at htake ⊢
      have hsame : (pool.acquire 1).2 = pool := hholds.acquire_ready_none (Prod.ext htake rfl)
      rw [hsame, ← hown]

theorem take_of_some {server : Server} {epoch : Nat} {buffer : Buffer}
    (htake : (server.take epoch).1 = some buffer) :
    ∃ pool rest, server.poolOf? epoch = some pool ∧ pool.acquire 1 = (some buffer, rest) ∧
      (server.take epoch).2 = { server with pool := some rest } := by
  unfold take at htake ⊢
  cases hpool : server.poolOf? epoch with
  | none =>
      rw [hpool] at htake
      cases htake
  | some pool =>
      simp only [hpool] at htake ⊢
      exact ⟨pool, (pool.acquire 1).2, rfl, Prod.ext htake rfl, rfl⟩

theorem stocked_take {server : Server} (epoch : Nat) (hstocked : server.Stocked) :
    (server.take epoch).2.Stocked := by
  cases htake : (server.take epoch).1 with
  | none =>
      rw [take_of_none hstocked htake]
      exact hstocked
  | some buffer =>
      obtain ⟨pool, rest, hpool, hacquire, hnext⟩ := take_of_some htake
      obtain ⟨waiting, hholds⟩ := hstocked.holds_of_poolOf? hpool
      obtain ⟨-, later, -, hlater⟩ := hholds.acquire_ready hacquire
      rw [hnext]
      refine ⟨?_, fun _ => rfl⟩
      rintro pool hpool
      cases hpool
      exact ⟨later, hlater⟩

theorem kind_take {server : Server} {epoch : Nat} {buffer : Buffer} (hstocked : server.Stocked)
    (htake : (server.take epoch).1 = some buffer) : buffer.kind = .ushort := by
  obtain ⟨pool, rest, hpool, hacquire, -⟩ := take_of_some htake
  obtain ⟨waiting, hholds⟩ := hstocked.holds_of_poolOf? hpool
  exact (hholds.acquire_ready hacquire).1

/-- Giving a buffer back leaves what waits in the pool of any session as it is. -/
theorem supplies_giveBack {server : Server} (epoch session : Nat) {buffer : Buffer}
    (hstocked : server.Stocked) (hkind : buffer.kind = .ushort) :
    Supplies epoch [] server (server.giveBack session buffer) := by
  cases hpool : server.poolOf? session with
  | none =>
      have hsame : server.giveBack session buffer = server := by simp [giveBack, hpool]
      rw [hsame]
      exact Quiet.stay.supplies epoch hstocked
  | some pool =>
      obtain ⟨hepoch, hown⟩ := poolOf?_eq_some_iff.mp hpool
      have hgiven : server.giveBack session buffer =
          { server with pool := some (pool.release 1 buffer) } := by simp [giveBack, hpool]
      rw [hgiven]
      refine ⟨⟨?_, fun _ => rfl⟩, Nat.le_refl _, ?_, fun _ => id, fun _ => id⟩
      · rintro later hlater
        cases hlater
        obtain ⟨waiting, hholds⟩ := hstocked.holds pool hown
        exact ⟨waiting, hholds.release_ready hkind⟩
      · rintro later hlater
        obtain ⟨hsame, hlater⟩ := poolOf?_eq_some_iff.mp hlater
        cases hlater
        refine Or.inl ⟨pool, poolOf?_eq_some_iff.mpr ⟨hsame, hown⟩, ?_⟩
        intro waiting hholds
        rw [List.append_nil]
        exact hholds.release_ready hkind

/-- A worker of another session takes nothing out of the pool. -/
theorem Work.supplies {session : Option Nat} {hand : Option Buffer} {server next : Server}
    {epoch : Nat} (hwork : Work session hand server next) (hstocked : server.Stocked)
    (hhand : ∀ buffer, hand = some buffer → buffer.kind = .ushort)
    (hother : session ≠ some epoch) : Supplies epoch [] server next := by
  cases hwork with
  | quiet hquiet => exact hquiet.supplies epoch hstocked
  | countCommand => exact .of_pool_eq ⟨hstocked.holds, hstocked.isSome⟩ rfl rfl rfl
  | take taken hsession =>
      refine .of_pool_eq (stocked_take taken hstocked) (epoch_take server taken)
        (phase_take server taken) ?_
      unfold Server.take
      split
      · rename_i pool hpool
        have hne : server.epoch ≠ epoch := by
          intro hsame
          apply hother
          rw [hsession, ← hsame, (poolOf?_eq_some_iff.mp hpool).1]
        simp [poolOf?, hne]
      · rfl
  | giveBack given buffer hsession hheld =>
      exact supplies_giveBack epoch given hstocked (hhand buffer hheld)

/-- No worker gives a session a pool. -/
theorem Work.isSome_poolOf? {session : Option Nat} {hand : Option Buffer} {server next : Server}
    {epoch : Nat} (hwork : Work session hand server next)
    (hpool : (next.poolOf? epoch).isSome = true) : (server.poolOf? epoch).isSome = true := by
  obtain ⟨later, hlater⟩ := Option.isSome_iff_exists.mp hpool
  obtain ⟨hpresent, hown⟩ := poolOf?_eq_some_iff.mp hlater
  have hsome : ∀ pool, server.pool = some pool → (server.poolOf? epoch).isSome = true := by
    intro pool hsame
    rw [poolOf?_eq_some_iff.mpr ⟨hwork.epoch_eq.symm.trans hpresent, hsame⟩]
    rfl
  cases hwork with
  | quiet hquiet =>
      rcases hquiet.pool_eq_or with hsame | ⟨hnone, -⟩
      · exact hsome later (hsame.symm.trans hown)
      · cases hnone.symm.trans hown
  | countCommand => exact hpool
  | take taken hsession =>
      unfold Server.take at hown
      split at hown
      · exact hsome _ (poolOf?_eq_some_iff.mp ‹_›).2
      · exact hsome later hown
  | giveBack given buffer hsession hheld =>
      unfold Server.giveBack at hown
      split at hown
      · exact hsome _ (poolOf?_eq_some_iff.mp ‹_›).2
      · exact hsome later hown

theorem Work.stocked {session : Option Nat} {hand : Option Buffer} {server next : Server}
    (hwork : Work session hand server next) (hstocked : server.Stocked)
    (hhand : ∀ buffer, hand = some buffer → buffer.kind = .ushort) : next.Stocked := by
  cases hwork with
  | quiet hquiet => exact hquiet.stocked hstocked
  | countCommand => exact ⟨hstocked.holds, hstocked.isSome⟩
  | take taken hsession => exact stocked_take taken hstocked
  | giveBack given buffer hsession hheld =>
      exact (supplies_giveBack given given hstocked (hhand buffer hheld)).stocked

/-- All that was owed and what is supplied waits in the pool if it all waited there before. -/
theorem Supplies.holds {epoch : Nat} {owed gain : List UInt8} {server next : Server} {later : Pool}
    (hsupplies : Supplies epoch gain server next) (hunopened : server.epoch < epoch → owed = [])
    (hholds : ∀ pool, server.poolOf? epoch = some pool → pool.Holds owed)
    (hlater : next.poolOf? epoch = some later) : later.Holds (owed ++ gain) := by
  rcases hsupplies.pool later hlater with ⟨pool, hpool, hmore⟩ | ⟨hnew, hgain⟩
  · exact hmore owed (hholds pool hpool)
  · rw [hunopened hnew, List.nil_append]
    exact hgain

/-! ### Callers -/

/-- A new pool holds the header. -/
theorem holds_stagedPool (header : Wire.Header) : (stagedPool header).Holds header.toBytes := by
  have hnone : (Pool.ofBuffers bufferLimit 1 [] []).Holds [] :=
    .intro _ _ [] [] (fun _ hmem => absurd hmem List.not_mem_nil)
      fun _ hmem => absurd hmem List.not_mem_nil
  have hholds := hnone.release_free (Buffer.kind_fill (.ofKind .ushort) header.toBytes)
  rw [Buffer.bytes_fill header.toBytes rfl, List.nil_append] at hholds
  exact hholds

/-- A session begins with the header waiting in its pool. -/
theorem supplies_stage {server staged : Server} {header : Wire.Header}
    (hstage : server.stage header = .ok staged) (epoch : Nat) :
    server.phase = .uninitialized ∧ staged.epoch = server.epoch + 1 ∧
      Supplies epoch (if server.epoch + 1 = epoch then header.toBytes else []) server staged := by
  unfold stage at hstage
  split at hstage
  · rename_i hrest
    cases hstage
    refine ⟨hrest, rfl, ⟨?_, fun _ => rfl⟩, Nat.le_succ _, ?_, ?_, ?_⟩
    · rintro pool hpool
      cases hpool
      exact ⟨_, holds_stagedPool header⟩
    · intro later hlater
      obtain ⟨hepoch, hlater⟩ := poolOf?_eq_some_iff.mp hlater
      have hepoch : server.epoch + 1 = epoch := hepoch
      cases hlater
      rw [if_pos hepoch]
      exact Or.inr ⟨hepoch ▸ Nat.lt_succ_self _, holds_stagedPool header⟩
    · intro hle _ hsame
      have hsame : server.epoch + 1 = epoch := hsame
      omega
    · intro hle _ hsame
      have hsame : server.epoch + 1 = epoch := hsame
      omega
  · cases hstage

/-- What becomes of a chunk, and of the server. -/
inductive Feeds (server : Server) (bytes : List UInt8) : FeedStatus → Server → Prop where
  | refuse {status : FeedStatus} (hrefusal : server.phase.refusal? = some status) :
    Feeds server bytes status server
  | close (hpool : server.pool = none) : Feeds server bytes .closed server
  | drop {pool rest : Pool} (hpool : server.pool = some pool)
    (hacquire : pool.acquire 0 = (none, rest)) :
    Feeds server bytes .dropped { server with counters := server.counters.addDropped }
  | queue {pool rest : Pool} {buffer : Buffer} (hpool : server.pool = some pool)
    (hacquire : pool.acquire 0 = (some buffer, rest)) :
    Feeds server bytes .queued
      { server with
        pool := some (rest.release 0 (buffer.fill bytes).2)
        counters := server.counters.addQueued }

theorem feeds_feed (server : Server) (bytes : List UInt8) :
    Feeds server bytes (server.feed bytes).1 (server.feed bytes).2 := by
  unfold feed
  split
  · exact .refuse ‹_›
  · exact .close ‹_›
  · split
    · exact .queue ‹_› ‹_›
    · exact .drop ‹_› ‹_›

theorem ne_queued_of_refusal? {phase : Phase} {status : FeedStatus}
    (hrefusal : phase.refusal? = some status) : status ≠ .queued := by
  rintro rfl
  cases phase <;> simp [Phase.refusal?, Phase.isWaiting] at hrefusal

/-- A feed adds its bytes to the pool of the present session just if it tells that it queued them. -/
theorem Feeds.supplies {server next : Server} {bytes : List UInt8} {status : FeedStatus}
    (hfeeds : Feeds server bytes status next) (hstocked : server.Stocked) (epoch : Nat) :
    Supplies epoch (if status = .queued ∧ server.epoch = epoch then bytes else []) server next := by
  have hstay : status ≠ .queued → ∀ counters : Counters,
      Supplies epoch (if status = .queued ∧ server.epoch = epoch then bytes else []) server
        { server with counters } := by
    intro hne counters
    rw [if_neg fun hqueued => hne hqueued.1]
    exact .of_pool_eq ⟨hstocked.holds, hstocked.isSome⟩ rfl rfl rfl
  cases hfeeds with
  | refuse hrefusal => exact hstay (ne_queued_of_refusal? hrefusal) server.counters
  | close => exact hstay nofun server.counters
  | drop => exact hstay nofun server.counters.addDropped
  | @queue pool rest buffer hpool hacquire =>
      have hqueued : ∀ waiting, pool.Holds waiting →
          (rest.release 0 (buffer.fill bytes).2).Holds (waiting ++ bytes) := by
        intro waiting hholds
        obtain ⟨hkind, hrest⟩ := hholds.acquire_free hacquire
        have hfilled := hrest.release_free ((Buffer.kind_fill buffer bytes).trans hkind)
        rw [Buffer.bytes_fill bytes hkind] at hfilled
        exact hfilled
      refine ⟨⟨?_, fun _ => rfl⟩, Nat.le_refl _, ?_, fun _ => id, fun _ => id⟩
      · rintro later hlater
        cases hlater
        obtain ⟨waiting, hholds⟩ := hstocked.holds pool hpool
        exact ⟨_, hqueued waiting hholds⟩
      · intro later hlater
        obtain ⟨hepoch, hlater⟩ := poolOf?_eq_some_iff.mp hlater
        have hepoch : server.epoch = epoch := hepoch
        cases hlater
        rw [if_pos ⟨rfl, hepoch⟩]
        exact Or.inl ⟨pool, poolOf?_eq_some_iff.mpr ⟨hepoch, hpool⟩, hqueued⟩

end Server

end TunerRelay
