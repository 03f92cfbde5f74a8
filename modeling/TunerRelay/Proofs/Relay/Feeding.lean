import Mathlib
import TunerRelay.Proofs.Pool.Relaying
import TunerRelay.Proofs.Relay.Farewells
import TunerRelay.Proofs.Relay.Resources
import TunerRelay.Proofs.Relay.Stranding
import TunerRelay.Proofs.Relay.Stream

/-!
# A chunk is fed whole or not at all

A feed looks at the phase twice, once without the lock and once under it, and anything may happen in
between. What it answers tells all that it did: it has queued one buffer with the chunk in the pool of
the session that is being served, or counted the chunk as dropped, or done nothing. Over a whole run
the counters of chunks are the numbers of these answers.
-/

namespace TunerRelay

open TunerRelay.Server (FeedStatus Counters Phase Quiet Work)

namespace Server

/-- The chunks counted that fared in this way, if such chunks are counted. -/
def Counters.fared (counters : Counters) : FeedStatus → UInt64
  | .queued => counters.queued
  | .dropped => counters.dropped
  | .noClient | .closed => 0

variable {server next : Server}

theorem Phase.refusal?_eq_none_iff {phase : Phase} : phase.refusal? = none ↔ phase = .serving := by
  cases phase <;> simp [Phase.refusal?]

theorem Phase.refusal?_eq_some_iff {phase : Phase} {status : FeedStatus} :
    phase.refusal? = some status ↔
      status = .noClient ∧ phase.isWaiting = true ∨
      status = .closed ∧ phase.isWaiting = false ∧ phase ≠ .serving := by
  cases phase <;> simp [Phase.refusal?, Phase.isWaiting, eq_comm]

/-! ### What the counters tell of a section -/

theorem fared_cleanUp (server : Server) (status : FeedStatus) :
    server.cleanUp.counters.fared status = server.counters.fared status := by
  unfold cleanUp
  split
  · rfl
  · cases status <;> rfl

theorem Quiet.fared_eq (hquiet : Quiet server next) (status : FeedStatus) :
    next.counters.fared status = server.counters.fared status := by
  cases hquiet with
  | close => exact fared_cleanUp server status
  | _ => cases status <;> rfl

theorem Work.fared_eq {session : Option Nat} {hand : Option Pool.Buffer}
    (hwork : Work session hand server next) (status : FeedStatus) :
    next.counters.fared status = server.counters.fared status := by
  cases hwork with
  | quiet hquiet => exact hquiet.fared_eq status
  | countCommand => cases status <;> rfl
  | take epoch => exact congrArg (·.fared status) (counters_take server epoch)
  | giveBack epoch buffer => exact congrArg (·.fared status) (counters_giveBack server epoch buffer)

end Server

namespace Relay

variable {ω : Type}

/-- What a feed has come to when it answers, with all that it did to the relay. -/
inductive Fed (relay : Relay ω) (bytes : List UInt8) : FeedStatus → Relay ω → Prop where
  /-- One buffer with the chunk is queued behind those that are ready to be sent. It has been the
  first of the free ones or, as there was none, it is new. Nothing else about the pool has changed. -/
  | queued {pool next : Pool} {buffer : Pool.Buffer} (hphase : relay.server.phase = .serving)
    (hpool : relay.server.pool = some pool) (hvalid : pool.valid = true)
    (hframe : next = { pool with stages := next.stages, elements := next.elements })
    (hstages : pool.stages.length = 2 ∧ next.stages.length = 2)
    (hready : next.queue 1 = pool.queue 1 ++ [buffer]) (hbytes : buffer.bytes = bytes)
    (hfree : (∃ free, pool.queue 0 = free :: next.queue 0) ∧ next.elements = pool.elements ∨
      pool.queue 0 = [] ∧ next.queue 0 = [] ∧ next.elements = pool.elements + 1 ∧
        next.elements ≤ Server.bufferLimit) :
    Fed relay bytes .queued
      (relay.withServer
        { relay.server with pool := some next, counters := relay.server.counters.addQueued })
  /-- All buffers there may be are in use. -/
  | dropped {pool : Pool} (hphase : relay.server.phase = .serving)
    (hpool : relay.server.pool = some pool) (hfree : pool.queue 0 = [])
    (hfull : pool.elements = Server.bufferLimit) :
    Fed relay bytes .dropped
      (relay.withServer { relay.server with counters := relay.server.counters.addDropped })
  | noClient (hphase : relay.server.phase.isWaiting = true) : Fed relay bytes .noClient relay
  | closed (hwaiting : relay.server.phase.isWaiting = false)
    (hphase : relay.server.phase ≠ .serving) : Fed relay bytes .closed relay

theorem fed_of_refusal? {relay : Relay ω} {status : FeedStatus} (bytes : List UInt8)
    (hrefusal : relay.server.phase.refusal? = some status) : Fed relay bytes status relay := by
  rcases Server.Phase.refusal?_eq_some_iff.mp hrefusal with
    ⟨rfl, hwaiting⟩ | ⟨rfl, hwaiting, hphase⟩
  · exact .noClient hwaiting
  · exact .closed hwaiting hphase

/-- The section under the lock. A server that serves has a working pool, so it never answers that it
is closed, and the buffers of the pool take bytes. -/
theorem fed_feed {relay : Relay ω} (bytes : List UInt8) (hequipped : relay.server.Equipped)
    (hstocked : relay.server.Stocked) :
    Fed relay bytes (relay.server.feed bytes).1 (relay.withServer (relay.server.feed bytes).2) := by
  cases hrefusal : relay.server.phase.refusal? with
  | some status =>
      have hfeed : relay.server.feed bytes = (status, relay.server) := by
        simp [Server.feed, hrefusal]
      rw [hfeed]
      exact fed_of_refusal? bytes hrefusal
  | none =>
      have hphase := Server.Phase.refusal?_eq_none_iff.mp hrefusal
      obtain ⟨pool, hpool, hworks⟩ := hequipped.exists_pool (by rw [hphase]; exact nofun)
      obtain ⟨waiting, hholds⟩ := hstocked.holds pool hpool
      have hfilled : ∀ {buffer rest}, pool.acquire 0 = (some buffer, rest) →
          (buffer.fill bytes).2.bytes = bytes := fun hacquire =>
        Pool.Buffer.bytes_fill bytes (hholds.acquire_free hacquire).1
      obtain ⟨elements, free, ready, hsome, hfew⟩ := hworks
      cases free with
      | cons buffer free =>
          have hacquire := Pool.acquire_free_cons Server.bufferLimit elements buffer free ready
          have hfeed : relay.server.feed bytes = (.queued, { relay.server with
              pool := some (Pool.ofBuffers Server.bufferLimit elements free
                (ready ++ [(buffer.fill bytes).2]))
              counters := relay.server.counters.addQueued }) := by
            simp [Server.feed, hrefusal, hpool, hacquire, Pool.release_free]
          rw [hfeed]
          exact .queued hphase hpool rfl rfl ⟨rfl, rfl⟩ rfl (hfilled hacquire)
            (.inl ⟨⟨buffer, rfl⟩, rfl⟩)
      | nil =>
          have hacquire := Pool.acquire_free_nil Server.bufferLimit elements ready
          by_cases hroom : elements < Server.bufferLimit
          · rw [if_pos hroom] at hacquire
            have hfeed : relay.server.feed bytes = (.queued, { relay.server with
                pool := some (Pool.ofBuffers Server.bufferLimit (elements + 1) []
                  (ready ++ [((Pool.Buffer.ofKind .ushort).fill bytes).2]))
                counters := relay.server.counters.addQueued }) := by
              simp [Server.feed, hrefusal, hpool, hacquire, Pool.release_free]
            rw [hfeed]
            exact .queued hphase hpool rfl rfl ⟨rfl, rfl⟩ rfl (hfilled hacquire)
              (.inr ⟨rfl, rfl, rfl, hroom⟩)
          · rw [if_neg hroom] at hacquire
            have hfeed : relay.server.feed bytes = (.dropped,
                { relay.server with counters := relay.server.counters.addDropped }) := by
              simp [Server.feed, hrefusal, hpool, hacquire]
            rw [hfeed]
            exact .dropped hphase hpool rfl (Nat.le_antisymm hfew (Nat.le_of_not_lt hroom))

variable [Audience ω]

/-- A step of a feed leaves everything as it is and the feed under way, or the feed answers. -/
theorem Call.fed_step {call : Call} {bytes : List UInt8} (signal : Signal) {relay : Relay ω}
    (hequipped : relay.server.Equipped) (hstocked : relay.server.Stocked)
    (hfeed : call = .glancing bytes ∨ call = .feeding bytes) :
    call.step signal relay = (.feeding bytes, relay) ∨
      ∃ status, (call.step signal relay).1 = .returned (.fed status) ∧
        Fed relay bytes status (call.step signal relay).2 := by
  rcases hfeed with rfl | rfl
  · simp only [step]
    split
    · exact .inr ⟨_, rfl, fed_of_refusal? bytes ‹_›⟩
    · exact .inl rfl
  · simp only [step, feed]
    split
    · exact .inl rfl
    · exact .inr ⟨_, rfl, fed_feed bytes hequipped hstocked⟩

/-! ### What the counters tell -/

/-- The call was a feed that got this answer. -/
def Call.isFed (status : FeedStatus) : Call → Bool
  | .returned (.fed answer) => answer == status
  | _ => false

omit [Audience ω] in
theorem Fed.fared_eq {relay later : Relay ω} {bytes : List UInt8} {answer status : FeedStatus}
    (hfed : Fed relay bytes answer later) (hcounted : status = .queued ∨ status = .dropped) :
    later.server.counters.fared status =
      relay.server.counters.fared status + if answer == status then 1 else 0 := by
  cases hfed <;> rcases hcounted with rfl | rfl <;>
    first | rfl | exact (UInt64.add_zero _).symm

/-- Only feeds are answered as feeds are. -/
theorem Call.isFed_step (call : Call) (signal : Signal) (relay : Relay ω) (status : FeedStatus)
    (hglancing : ∀ bytes, call ≠ .glancing bytes) (hfeeding : ∀ bytes, call ≠ .feeding bytes) :
    (call.step signal relay).1.isFed status = call.isFed status := by
  cases call with
  | staging address port header =>
      simp only [step, stage]
      split
      · rfl
      · cases endpoint? address port <;> rfl
  | binding | preparing | launching => cases signal <;> rfl
  | listening =>
      simp only [step, listen]
      split <;> rfl
  | engaging =>
      simp only [step, engage]
      split <;> rfl
  | glancing bytes => exact absurd rfl (hglancing bytes)
  | feeding bytes => exact absurd rfl (hfeeding bytes)
  | collecting | awaiting =>
      simp only [step]
      split <;> rfl
  | abandoning | keeping | clearing | excusing | stopping | returned => rfl

/-- A step of a call counts a chunk just when the call is a feed that is answered so. -/
theorem Call.fared_step (call : Call) (signal : Signal) {relay : Relay ω} {status : FeedStatus}
    (hequipped : relay.server.Equipped) (hstocked : relay.server.Stocked)
    (hcounted : status = .queued ∨ status = .dropped) :
    (call.step signal relay).2.server.counters.fared status +
        (if call.isFed status then 1 else 0) =
      relay.server.counters.fared status +
        if (call.step signal relay).1.isFed status then 1 else 0 := by
  by_cases hfeed : ∃ bytes, call = .glancing bytes ∨ call = .feeding bytes
  · obtain ⟨bytes, hfeed⟩ := hfeed
    have hbefore : call.isFed status = false := by rcases hfeed with rfl | rfl <;> rfl
    rw [hbefore]
    rcases call.fed_step signal hequipped hstocked hfeed with hwaits | ⟨answer, hanswer, hfed⟩
    · rw [hwaits]
      rfl
    · rw [hanswer, hfed.fared_eq hcounted]
      exact UInt64.add_zero _
  · push Not at hfeed
    rw [call.isFed_step signal relay status (fun bytes => (hfeed bytes).1)
      fun bytes => (hfeed bytes).2]
    congr 1
    have hacts := call.acts signal relay
    generalize (call.step signal relay).1 = next at hacts
    generalize (call.step signal relay).2.server = later at hacts
    cases hacts with
    | stage next hstage =>
        unfold Server.stage at hstage
        split at hstage
        · cases hstage
          cases status <;> rfl
        · cases hstage
    | refuse => rfl
    | wait bytes | feed bytes => exact absurd rfl (hfeed bytes).2
    | quiet hstaging hfeeding hquiet => exact hquiet.fared_eq status

namespace Traffic

/-- The feeds that got this answer. -/
def fed (traffic : Traffic ω) (status : FeedStatus) : Nat :=
  traffic.calls.countP (Call.isFed status)

theorem fared_run (world : ω) (moves : List Move) {status : FeedStatus}
    (hcounted : status = .queued ∨ status = .dropped) :
    ((atRest world).run moves).server.counters.fared status =
      UInt64.ofNat (((atRest world).run moves).fed status) := by
  induction moves using List.reverseRecOn with
  | nil => cases status <;> rfl
  | append_singleton moves move ih =>
      rw [run_concat]
      have hequipped := (equipped_run world moves)
      have hstocked := (streams_run 0 world moves).stocked
      generalize (atRest world).run moves = traffic at ih hequipped hstocked ⊢
      cases move with
      | begin operation =>
          have hfed : (traffic.move (.begin operation)).fed status = traffic.fed status := by
            have hcalls : (traffic.move (.begin operation)).calls =
              traffic.calls ++ [.ofOperation operation] := rfl
            rw [fed, hcalls, List.countP_append]
            cases operation <;> rfl
          rw [hfed]
          exact ih
      | resume number signal =>
          cases hcall : traffic.calls[number]? with
          | none =>
              rw [move_resume_of_none signal hcall]
              exact ih
          | some call =>
              have hstep := call.fared_step signal hequipped hstocked hcounted
              have hcount := congrArg UInt64.ofNat (Lists.countP_set (Call.isFed status)
                (call.step signal traffic.relay).1 hcall)
              have hboole : ∀ test : Bool,
                  UInt64.ofNat (if test then 1 else 0) = if test then 1 else 0 := by decide
              rw [UInt64.ofNat_add, UInt64.ofNat_add, hboole, hboole] at hcount
              rw [fed, server_resume signal hcall, calls_resume signal hcall]
              apply (UInt64.add_left_inj _).mp
              rw [hstep, hcount]
              exact congrArg (· + _) ih
      | work worker signal =>
          cases hworker : traffic.supervisors[worker.number]? with
          | none =>
              rw [move_work_of_none signal hworker]
              exact ih
          | some acting =>
              rw [server_work signal hworker,
                (worker.work_step signal acting traffic.relay.hub).fared_eq]
              exact ih

/-! ### Whole feeds -/

/-- If the move is one of this call, the relay stays as it is. -/
def Spares (number : Nat) (traffic : Traffic ω) (move : Move) : Prop :=
  ∀ signal, move = .resume number signal → (traffic.move move).relay = traffic.relay

theorem length_calls_run (world : ω) (moves : List Move) :
    ((atRest world).run moves).calls.length = (asked moves).length := by
  induction moves using List.reverseRecOn with
  | nil => rfl
  | append_singleton moves move ih =>
      rw [run_concat]
      cases move with
      | begin operation =>
          have hcalls : (((atRest world).run moves).move (.begin operation)).calls =
            ((atRest world).run moves).calls ++ [.ofOperation operation] := rfl
          rw [hcalls, asked_begin, List.length_append, List.length_append, ih]
          rfl
      | resume number signal =>
          rw [asked_resume, ← ih]
          cases hcall : ((atRest world).run moves).calls[number]? with
          | none => rw [move_resume_of_none signal hcall]
          | some call => rw [calls_resume signal hcall, List.length_set]
      | work worker signal => rw [asked_work, calls_work, ih]

/-- A call that has not been made spares everything. -/
theorem spares_of_length_le (world : ω) {number : Nat} {moves : List Move}
    (hlength : (asked moves).length ≤ number) :
    (atRest world).Throughout (Spares number) moves := by
  induction moves using List.reverseRecOn with
  | nil => trivial
  | append_singleton moves move ih =>
      have hearlier : (asked moves).length ≤ (asked (moves ++ [move])).length := by
        simp [asked]
      rw [throughout_append]
      refine ⟨ih (hearlier.trans hlength), ?_, trivial⟩
      rintro signal rfl
      have hnone : ((atRest world).run moves).calls[number]? = none :=
        List.getElem?_eq_none_iff.mpr
          ((length_calls_run world moves).trans_le (hearlier.trans hlength))
      rw [move_resume_of_none signal hnone]

/-- The course of a feed: it does nothing while it is under way, and all that it does it does in the
step in which it answers. -/
inductive Feeds (world : ω) (number : Nat) (bytes : List UInt8) : List Move → Prop where
  | underWay {moves : List Move} (call : Call)
    (hcall : ((atRest world).run moves).calls[number]? = some call)
    (hfeed : call = .glancing bytes ∨ call = .feeding bytes)
    (hspares : (atRest world).Throughout (Spares number) moves) : Feeds world number bytes moves
  | answered {earlier later : List Move} {signal : Signal} {status : FeedStatus}
    (hcall : ((atRest world).run (earlier ++ .resume number signal :: later)).calls[number]? =
      some (.returned (.fed status)))
    (hearlier : (atRest world).Throughout (Spares number) earlier)
    (hfed : Fed ((atRest world).run earlier).relay bytes status
      (((atRest world).run earlier).move (.resume number signal)).relay)
    (hlater : (((atRest world).run earlier).move (.resume number signal)).Throughout
      (Spares number) later) :
    Feeds world number bytes (earlier ++ .resume number signal :: later)

theorem Feeds.concat {world : ω} {number : Nat} {bytes : List UInt8} {moves : List Move}
    (hfeeds : Feeds world number bytes moves) (move : Move) :
    Feeds world number bytes (moves ++ [move]) := by
  cases hfeeds with
  | underWay call hcall hfeed hspares =>
      by_cases hmove : ∃ signal, move = .resume number signal
      · obtain ⟨signal, rfl⟩ := hmove
        have hmoved := move_resume signal hcall
        have hlater : (((atRest world).run moves).move (.resume number signal)).calls[number]? =
            some (call.step signal ((atRest world).run moves).relay).1 := by
          rw [calls_resume signal hcall,
            List.getElem?_set_self (List.getElem?_eq_some_iff.mp hcall).1]
        rcases call.fed_step signal (equipped_run world moves)
          (streams_run 0 world moves).stocked hfeed with hwaits | ⟨status, hanswer, hfed⟩
        · rw [hwaits] at hmoved
          rw [hwaits, ← run_concat] at hlater
          refine .underWay (.feeding bytes) hlater (.inr rfl) ?_
          rw [throughout_append]
          refine ⟨hspares, ?_, trivial⟩
          rintro _ -
          rw [hmoved]
        · rw [hanswer, ← run_concat] at hlater
          refine .answered hlater hspares ?_ trivial
          rw [hmoved]
          exact hfed
      · have hkept : ((atRest world).run (moves ++ [move])).calls[number]? = some call := by
          rw [run_concat]
          refine (call_move move hcall).resolve_right ?_
          rintro ⟨signal, hresume, -⟩
          exact hmove ⟨signal, hresume⟩
        refine .underWay call hkept hfeed ?_
        rw [throughout_append]
        exact ⟨hspares, fun signal hresume => absurd ⟨signal, hresume⟩ hmove, trivial⟩
  | @answered earlier later signal status hcall hearlier hfed hlater =>
      rw [List.append_assoc, List.cons_append]
      have hkept := call_move move hcall
      rw [← run_concat, List.append_assoc, List.cons_append] at hkept
      refine .answered ?_ hearlier hfed ?_
      · rcases hkept with hsame | ⟨other, -, hstepped⟩
        · exact hsame
        · exact hstepped
      · rw [throughout_append]
        refine ⟨hlater, ?_, trivial⟩
        rintro other rfl
        rw [run_append, run_cons] at hcall
        rw [move_resume other hcall]
        rfl

theorem feeds_run (world : ω) {number : Nat} {bytes : List UInt8} {moves : List Move}
    (hasked : (asked moves)[number]? = some (.feed bytes)) : Feeds world number bytes moves := by
  induction moves using List.reverseRecOn with
  | nil => cases hasked
  | append_singleton moves move ih =>
      by_cases hold : (asked moves)[number]? = some (.feed bytes)
      · exact (ih hold).concat move
      · cases move with
        | begin operation =>
            rw [asked_begin] at hasked
            have hle : (asked moves).length ≤ number := by
              by_contra hlt
              rw [List.getElem?_append_left (Nat.lt_of_not_le hlt)] at hasked
              exact hold hasked
            rw [List.getElem?_append_right hle, List.getElem?_eq_some_iff] at hasked
            obtain ⟨hlt, hoperation⟩ := hasked
            have hnumber : number = ((atRest world).run moves).calls.length := by
              rw [length_calls_run]
              rw [List.length_singleton] at hlt
              omega
            obtain rfl : operation = .feed bytes := by simpa using hoperation
            refine .underWay (.glancing bytes) ?_ (.inl rfl) ?_
            · rw [run_concat, hnumber]
              exact List.getElem?_concat_length
            · rw [throughout_append]
              exact ⟨spares_of_length_le world hle, nofun, trivial⟩
        | resume other signal => exact absurd (asked_resume other signal ▸ hasked) hold
        | work worker signal => exact absurd (asked_work worker signal ▸ hasked) hold

/-- **A chunk is fed whole or not at all.** Whatever else callers and workers do before a feed, during
it and after it, between its two looks at the phase too: as long as the feed is under way it changes
nothing, and it answers in one section, with all that it ever does. A chunk is queued only by a server
that is serving, as one buffer with just these bytes behind those that are ready in its working pool,
and counted once; a chunk that is dropped is only counted; any other answer changes nothing. So the
counters tell how many feeds have been answered so. -/
theorem fed_all_or_nothing (world : ω) (moves : List Move) :
    let traffic := (atRest world).run moves
    (∀ (number : Nat) (bytes : List UInt8), (asked moves)[number]? = some (.feed bytes) →
      Feeds world number bytes moves) ∧
    traffic.server.counters.queued = UInt64.ofNat (traffic.fed .queued) ∧
    traffic.server.counters.dropped = UInt64.ofNat (traffic.fed .dropped) :=
  ⟨fun _ _ hasked => feeds_run world hasked, fared_run world moves (.inl rfl),
    fared_run world moves (.inr rfl)⟩

/-- One chunk is fed before there is a client and one after the client has got its header. -/
def fedMoves : List Move :=
  askedMoves ++ feedMoves 2 [9] ++ workMoves (.supervisor 0) headerSignals ++
    feedMoves 3 [1, 2, 3]

theorem fed_all_or_nothing_served :
    (asked fedMoves)[2]? = some (.feed [9]) ∧ (asked fedMoves)[3]? = some (.feed [1, 2, 3]) ∧
      Feeds () 2 [9] fedMoves ∧ Feeds () 3 [1, 2, 3] fedMoves ∧
      ((atRest ()).run fedMoves).server.counters.queued = 1 := by
  obtain ⟨hfeeds, hqueued, -⟩ := fed_all_or_nothing () fedMoves
  have hfed : ((atRest ()).run fedMoves).fed .queued = 1 := by decide +kernel
  exact ⟨rfl, rfl, hfeeds 2 [9] rfl, hfeeds 3 [1, 2, 3] rfl, by rw [hqueued, hfed]; rfl⟩

end Traffic

end Relay

end TunerRelay
