import Mathlib
import TunerRelay.Proofs.Relay.Crew
import TunerRelay.Proofs.Relay.Supply

/-!
# What a server has in each phase

The phase of a server tells which resources it has: the pool from its staging on, the listener from
its opening on, a client from its admission on. Whoever makes a step, in order or out of it, keeps the
two in agreement, and phases follow one another in few ways.
-/

namespace TunerRelay

namespace Server

/-- Phases in which clients can connect or one is connected. -/
def Phase.isListening (phase : Phase) : Bool := phase.isWaiting || phase == .serving

/-- Phases in which a client can be registered. -/
def Phase.isAdmitting : Phase → Bool
  | .clientOpen | .serving | .stopping => true
  | _ => false

/-- How a phase can give way to another. A stop marks any session, and closing ends any. -/
inductive Phase.Follows : Phase → Phase → Prop where
  | stage : Follows .uninitialized .initialized
  | listen : Follows .initialized .socketOpen
  | engage : Follows .socketOpen .asyncStarted
  | connect : Follows .asyncStarted .clientOpen
  | serve : Follows .clientOpen .serving
  | halt (phase : Phase) (hphase : phase ≠ .uninitialized) : Follows phase .stopping
  | close (phase : Phase) (hphase : phase ≠ .uninitialized) : Follows phase .uninitialized

/-- The phase of a server and its resources agree. -/
structure Agrees (server : Server) : Prop where
  uninitialized : server.phase = .uninitialized ↔
    server.pool = none ∧ server.listener = none ∧ server.client = none ∧
      server.bufferedElements = 0
  initialized : server.phase = .initialized →
    server.pool.isSome = true ∧ server.listener = none
  listening : server.phase.isListening = true →
    (∃ pool, server.pool = some pool ∧ pool.valid = true) ∧ server.listener.isSome = true
  client : server.client.isSome = true → server.phase.isAdmitting = true
  buffered : server.phase ≠ .uninitialized →
    1 ≤ server.bufferedElements ∧ server.bufferedElements ≤ 5

structure Released (server : Server) : Prop where
  phase : server.phase = .uninitialized
  pool : server.pool = none
  listener : server.listener = none
  client : server.client = none
  bufferedElements : server.bufferedElements = 0

/-- What every section keeps up: a working pool, and each resource in the phases that have it. -/
structure Equipped (server : Server) : Prop where
  pool : ∀ pool ∈ server.pool, pool.Works bufferLimit
  pool_none : server.pool = none ↔ server.phase = .uninitialized
  listener_some : server.phase.isListening = true → server.listener.isSome = true
  listener_none : server.phase = .uninitialized ∨ server.phase = .initialized →
    server.listener = none
  client_none : server.phase.isAdmitting = false → server.client = none

variable {server next : Server}

namespace Equipped

theorem exists_pool (hequipped : server.Equipped) (hphase : server.phase ≠ .uninitialized) :
    ∃ pool, server.pool = some pool ∧ pool.Works bufferLimit := by
  cases hpool : server.pool with
  | none => exact absurd (hequipped.pool_none.mp hpool) hphase
  | some pool => exact ⟨pool, rfl, hequipped.pool pool hpool⟩

theorem agrees (hequipped : server.Equipped) : server.Agrees where
  uninitialized := by
    constructor
    · intro hphase
      have hpool := hequipped.pool_none.mpr hphase
      refine ⟨hpool, hequipped.listener_none (.inl hphase), hequipped.client_none ?_, ?_⟩
      · rw [hphase]
        rfl
      · rw [bufferedElements, hpool]
    · exact fun hnone => hequipped.pool_none.mp hnone.1
  initialized hphase := by
    obtain ⟨pool, hpool, -⟩ := hequipped.exists_pool (by rw [hphase]; exact nofun)
    exact ⟨by rw [hpool]; rfl, hequipped.listener_none (.inr hphase)⟩
  listening hlistening := by
    have hphase : server.phase ≠ .uninitialized := by
      intro habsurd
      rw [habsurd] at hlistening
      exact Bool.false_ne_true hlistening
    obtain ⟨pool, hpool, hworks⟩ := hequipped.exists_pool hphase
    exact ⟨⟨pool, hpool, hworks.valid⟩, hequipped.listener_some hlistening⟩
  client hclient := by
    by_contra hadmitting
    rw [hequipped.client_none (Bool.eq_false_iff.mpr hadmitting)] at hclient
    exact Bool.false_ne_true hclient
  buffered hphase := by
    obtain ⟨pool, hpool, hworks⟩ := hequipped.exists_pool hphase
    rw [bufferedElements, hpool]
    exact hworks.elements_le

theorem released (hequipped : server.Equipped) (hphase : server.phase = .uninitialized) :
    server.Released := by
  obtain ⟨hpool, hlistener, hclient, hbuffered⟩ := hequipped.agrees.uninitialized.mp hphase
  exact ⟨hphase, hpool, hlistener, hclient, hbuffered⟩

/-- A section that touches counters alone. -/
theorem of_same (hequipped : server.Equipped) (hpool : next.pool = server.pool)
    (hphase : next.phase = server.phase) (hlistener : next.listener = server.listener)
    (hclient : next.client = server.client) : next.Equipped := by
  obtain ⟨hworks, hnone, hsome, hlisten, hadmit⟩ := hequipped
  rw [← hpool, ← hphase] at hnone
  rw [← hphase, ← hlistener] at hsome hlisten
  rw [← hphase, ← hclient] at hadmit
  rw [← hpool] at hworks
  exact ⟨hworks, hnone, hsome, hlisten, hadmit⟩

/-- A section that puts another working pool in the place of the pool. -/
theorem of_pool {pool rest : Pool} (hequipped : server.Equipped) (hpool : server.pool = some pool)
    (hrest : next.pool = some rest) (hphase : next.phase = server.phase)
    (hlistener : next.listener = server.listener) (hclient : next.client = server.client)
    (hworks : rest.Works bufferLimit) : next.Equipped := by
  obtain ⟨-, hnone, hsome, hlisten, hadmit⟩ := hequipped
  rw [← hphase, ← hlistener] at hsome hlisten
  rw [← hphase, ← hclient] at hadmit
  refine ⟨?_, ?_, hsome, hlisten, hadmit⟩
  · intro later hlater
    rw [hrest] at hlater
    exact Option.some.inj hlater ▸ hworks
  · rw [hrest, hphase, ← hnone, hpool]
    exact iff_of_false nofun nofun

/-- A section that keeps the pool from one phase of a session to another. -/
theorem of_phase (hequipped : server.Equipped) (hpool : next.pool = server.pool)
    (hbefore : server.phase ≠ .uninitialized) (hafter : next.phase ≠ .uninitialized)
    (hlistener : next.phase.isListening = true → next.listener.isSome = true)
    (hnone : next.phase = .initialized → next.listener = none)
    (hclient : next.phase.isAdmitting = false → next.client = none) : next.Equipped where
  pool := by
    rw [hpool]
    exact hequipped.pool
  pool_none := by
    rw [hpool, hequipped.pool_none]
    exact iff_of_false hbefore hafter
  listener_some := hlistener
  listener_none hphase := hnone (hphase.resolve_left hafter)
  client_none := hclient

end Equipped

/-! ### Sections -/

theorem Quiet.equipped (hequipped : server.Equipped) (hquiet : Quiet server next) :
    next.Equipped := by
  have hlistener := hequipped.listener_some
  have hclient := hequipped.client_none
  cases hquiet with
  | stay => exact hequipped
  | countSent => exact hequipped.of_same rfl rfl rfl rfl
  | listen endpoint hphase =>
      rw [hphase] at hclient
      exact hequipped.of_phase rfl (by rw [hphase]; exact nofun) nofun (fun _ => rfl) nofun
        fun _ => hclient rfl
  | engage observer hphase =>
      rw [hphase] at hlistener hclient
      exact hequipped.of_phase rfl (by rw [hphase]; exact nofun) nofun (fun _ => hlistener rfl) nofun
        fun _ => hclient rfl
  | register connection hphase | serve hphase =>
      rw [hphase] at hlistener
      exact hequipped.of_phase rfl (by rw [hphase]; exact nofun) nofun (fun _ => hlistener rfl) nofun
        nofun
  | halt hphase => exact hequipped.of_phase rfl hphase nofun nofun nofun nofun
  | close =>
      unfold cleanUp
      split
      · exact hequipped
      · exact ⟨nofun, iff_of_true rfl rfl, nofun, fun _ => rfl, fun _ => rfl⟩

theorem equipped_take (hequipped : server.Equipped) (epoch : Nat) :
    (server.take epoch).2.Equipped := by
  unfold Server.take
  split
  · rename_i pool hpool
    obtain ⟨-, hown⟩ := poolOf?_eq_some_iff.mp hpool
    exact hequipped.of_pool hown rfl rfl rfl rfl (hequipped.pool pool hown).acquire_ready
  · exact hequipped

theorem equipped_giveBack (hequipped : server.Equipped) (epoch : Nat) (buffer : Pool.Buffer) :
    (server.giveBack epoch buffer).Equipped := by
  unfold Server.giveBack
  split
  · rename_i pool hpool
    obtain ⟨-, hown⟩ := poolOf?_eq_some_iff.mp hpool
    exact hequipped.of_pool hown rfl rfl rfl rfl ((hequipped.pool pool hown).release_ready buffer)
  · exact hequipped

theorem Work.equipped {session : Option Nat} {hand : Option Pool.Buffer}
    (hequipped : server.Equipped) (hwork : Work session hand server next) : next.Equipped := by
  cases hwork with
  | quiet hquiet => exact hquiet.equipped hequipped
  | countCommand => exact hequipped.of_same rfl rfl rfl rfl
  | take epoch hsession => exact equipped_take hequipped epoch
  | giveBack epoch buffer hsession hhand => exact equipped_giveBack hequipped epoch buffer

theorem Feeds.equipped {bytes : List UInt8} {status : FeedStatus} (hequipped : server.Equipped)
    (hfeeds : Feeds server bytes status next) : next.Equipped := by
  cases hfeeds with
  | refuse hrefusal => exact hequipped
  | close hpool => exact hequipped
  | drop => exact hequipped.of_same rfl rfl rfl rfl
  | @queue pool rest buffer hpool hacquire =>
      have hrest := (hequipped.pool pool hpool).acquire_free
      rw [hacquire] at hrest
      exact hequipped.of_pool hpool rfl rfl rfl rfl (hrest.release_free _)

theorem works_stagedPool (header : Wire.Header) : (stagedPool header).Works bufferLimit :=
  .intro 1 [] [_] (Nat.le_refl 1) (by decide)

theorem equipped_stage {header : Wire.Header} (hequipped : server.Equipped)
    (hstage : server.stage header = .ok next) : next.Equipped := by
  unfold stage at hstage
  split at hstage
  · rename_i hphase
    cases hstage
    refine ⟨?_, iff_of_false nofun nofun, nofun, fun _ => ?_, fun _ => ?_⟩
    · rintro pool hpool
      obtain rfl := Option.some.inj hpool
      exact works_stagedPool header
    · exact hequipped.listener_none (.inl hphase)
    · exact hequipped.client_none (by rw [hphase]; rfl)
  · cases hstage

/-! ### Phases -/

theorem Quiet.follows (hquiet : Quiet server next) (hchange : next.phase ≠ server.phase) :
    Phase.Follows server.phase next.phase := by
  cases hquiet with
  | stay | countSent => exact absurd rfl hchange
  | listen endpoint hphase => exact hphase ▸ .listen
  | engage observer hphase => exact hphase ▸ .engage
  | register connection hphase => exact hphase ▸ .connect
  | serve hphase => exact hphase ▸ .serve
  | halt hphase => exact .halt _ hphase
  | close =>
      rw [phase_cleanUp] at hchange ⊢
      exact .close _ (Ne.symm hchange)

theorem Work.follows {session : Option Nat} {hand : Option Pool.Buffer}
    (hwork : Work session hand server next) (hchange : next.phase ≠ server.phase) :
    Phase.Follows server.phase next.phase := by
  rcases hwork.quiet_or with hquiet | hsame
  · exact hquiet.follows hchange
  · exact absurd hsame hchange

theorem follows_stage {header : Wire.Header} (hstage : server.stage header = .ok next) :
    Phase.Follows server.phase next.phase := by
  unfold stage at hstage
  split at hstage
  · rename_i hphase
    cases hstage
    exact hphase ▸ .stage
  · cases hstage

end Server

namespace Relay

open TunerRelay.Server (Phase)

variable {ω : Type} [Audience ω]

theorem Call.Acts.equipped {server later : Server} {call next : Call} (hequipped : server.Equipped)
    (hacts : call.Acts server next later) : later.Equipped := by
  cases hacts with
  | stage _ hstage => exact Server.equipped_stage hequipped hstage
  | refuse | wait => exact hequipped
  | feed bytes => exact (Server.feeds_feed server bytes).equipped hequipped
  | quiet _ _ hquiet => exact hquiet.equipped hequipped

theorem Call.Acts.follows {server later : Server} {call next : Call}
    (hacts : call.Acts server next later) (hchange : later.phase ≠ server.phase) :
    Phase.Follows server.phase later.phase := by
  cases hacts with
  | stage _ hstage => exact Server.follows_stage hstage
  | refuse | wait => exact absurd rfl hchange
  | feed bytes => exact absurd (Server.phase_feed server bytes) hchange
  | quiet _ _ hquiet => exact hquiet.follows hchange

/-- A call that ends in a failure to open has just cleaned up. -/
theorem Call.phase_of_opened_error {call : Call} {signal : Signal} {relay : Relay ω}
    {fault : Server.Fault}
    (hopen : call ≠ .returned (.opened (.error fault)))
    (hfailed : (call.step signal relay).1 = .returned (.opened (.error fault))) :
    (call.step signal relay).2.server.phase = .uninitialized := by
  cases call with
  | abandoning _ => exact Server.phase_cleanUp relay.server
  | returned outcome => exact absurd hfailed hopen
  | staging address port header =>
      simp only [step, stage] at hfailed
      split at hfailed
      · cases hfailed
      · split at hfailed <;> cases hfailed
  | binding | preparing | launching => cases signal <;> cases hfailed
  | listening endpoint =>
      simp only [step, listen] at hfailed
      split at hfailed <;> cases hfailed
  | engaging observer =>
      simp only [step, engage] at hfailed
      split at hfailed <;> cases hfailed
  | keeping | clearing | excusing | stopping => cases hfailed
  | glancing | collecting | awaiting =>
      simp only [step] at hfailed
      split at hfailed <;> cases hfailed
  | feeding bytes =>
      simp only [step, feed] at hfailed
      split at hfailed <;> cases hfailed

namespace Traffic

/-- What a move does to the server: a call acts, or somebody works, or nothing happens. -/
inductive Alters (server : Server) : Server → Prop where
  | rest : Alters server server
  | act {call next : Call} {later : Server} (hacts : call.Acts server next later) :
    Alters server later
  | work {session : Option Nat} {hand : Option Pool.Buffer} {later : Server}
    (hwork : Server.Work session hand server later) : Alters server later

theorem alters_move (traffic : Traffic ω) (move : Move) :
    Alters traffic.server (traffic.move move).server := by
  cases move with
  | begin operation => exact .rest
  | resume number signal =>
      cases hcall : traffic.calls[number]? with
      | none =>
          rw [move_resume_of_none signal hcall]
          exact .rest
      | some call =>
          rw [server_resume signal hcall]
          exact .act (call.acts signal traffic.relay)
  | work worker signal =>
      cases hworker : traffic.supervisors[worker.number]? with
      | none =>
          rw [move_work_of_none signal hworker]
          exact .rest
      | some supervisor =>
          rw [server_work signal hworker]
          exact .work (worker.work_step signal supervisor traffic.relay.hub)

theorem Alters.equipped {server later : Server} (hequipped : server.Equipped)
    (halters : Alters server later) : later.Equipped := by
  cases halters with
  | rest => exact hequipped
  | act hacts => exact hacts.equipped hequipped
  | work hwork => exact hwork.equipped hequipped

theorem Alters.follows {server later : Server} (halters : Alters server later)
    (hchange : later.phase ≠ server.phase) : Phase.Follows server.phase later.phase := by
  cases halters with
  | rest => exact absurd rfl hchange
  | act hacts => exact hacts.follows hchange
  | work hwork => exact hwork.follows hchange

theorem equipped_run (world : ω) (moves : List Move) :
    ((atRest world).run moves).server.Equipped := by
  refine run_induction (fun traffic => traffic.server.Equipped) ?_ ?_ moves
  · exact ⟨nofun, iff_of_true rfl rfl, nofun, fun _ => rfl, fun _ => rfl⟩
  · exact fun traffic move hequipped => (alters_move traffic move).equipped hequipped

/-- Whatever is asked of a relay, by whomever and in whatever order, the phase of its server tells
what it has. A failure to open leaves nothing behind, and neither does a request to serve that comes
in the wrong phase. -/
theorem resources_agree (world : ω) (moves : List Move) :
    let traffic := (atRest world).run moves
    traffic.server.Agrees ∧
    (∀ move, (traffic.move move).server.phase ≠ traffic.server.phase →
      Phase.Follows traffic.server.phase (traffic.move move).server.phase) ∧
    (∀ number signal fault,
      traffic.calls[number]? ≠ some (.returned (.opened (.error fault))) →
      (traffic.move (.resume number signal)).calls[number]? =
        some (.returned (.opened (.error fault))) →
      (traffic.move (.resume number signal)).server.Released) ∧
    ∀ number signal observer, traffic.calls[number]? = some (.engaging observer) →
      traffic.server.phase ≠ .socketOpen →
      (traffic.move (.resume number signal)).calls[number]? =
        some (.excusing observer (.wrongPhase traffic.server.phase)) ∧
      (traffic.move (.resume number signal)).server.Released := by
  intro traffic
  have hequipped : traffic.server.Equipped := equipped_run world moves
  have hafter : ∀ move, (traffic.move move).server.Equipped :=
    fun move => (alters_move traffic move).equipped hequipped
  refine ⟨hequipped.agrees, fun move => (alters_move traffic move).follows, ?_, ?_⟩
  · intro number signal fault hopen hfailed
    refine (hafter _).released ?_
    cases hcall : traffic.calls[number]? with
    | none =>
        rw [move_resume_of_none signal hcall, hcall] at hfailed
        exact nomatch hfailed
    | some call =>
        obtain ⟨hlt, -⟩ := List.getElem?_eq_some_iff.mp hcall
        rw [calls_resume signal hcall, List.getElem?_set_self hlt] at hfailed
        rw [server_resume signal hcall]
        refine Call.phase_of_opened_error ?_ (Option.some.inj hfailed)
        rintro rfl
        exact hopen hcall
  · intro number signal observer hcall hphase
    obtain ⟨hlt, -⟩ := List.getElem?_eq_some_iff.mp hcall
    have hstep := Call.step_engaging_of_ne signal observer hphase
    refine ⟨?_, (hafter _).released ?_⟩
    · rw [calls_resume signal hcall, List.getElem?_set_self hlt, hstep]
      rfl
    · rw [server_resume signal hcall, hstep]
      exact Server.phase_cleanUp traffic.server

end Traffic

end Relay

end TunerRelay
