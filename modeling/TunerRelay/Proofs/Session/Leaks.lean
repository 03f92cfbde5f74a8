import TunerRelay.Proofs.Session.Protocol
import TunerRelay.Proofs.Session.Sections

/-!
# No buffer leaks

A pool is torn down when the server is closed, and in hosted sessions nobody closes the server while
a supervisor serves its client. Only then has a supervisor a buffer in hand, so that whenever a pool
is torn down all its buffers are queued. Every pool that was made is torn down once, in order, and the
last of them when its session has returned at the latest.
-/

namespace TunerRelay

namespace Server

open TunerRelay.Relay (Call)

/-- What becomes of the pool in a section: it stays, a new one is made, or the server is closed. -/
inductive Passes (server : Server) : Server → Prop where
  | keep {next : Server} (hpool : next.pool.isSome = server.pool.isSome)
    (hepoch : next.epoch = server.epoch) (hleaks : next.counters.leaks = server.counters.leaks) :
    Passes server next
  | stage {next : Server} (hphase : server.phase = .uninitialized) (hpool : next.pool.isSome = true)
    (hepoch : next.epoch = server.epoch + 1)
    (hleaks : next.counters.leaks = server.counters.leaks) : Passes server next
  | close : Passes server server.cleanUp

variable {server next : Server}

theorem Quiet.passes (hquiet : Quiet server next) : Passes server next := by
  cases hquiet with
  | close => exact .close
  | _ => exact .keep rfl rfl rfl

theorem Work.passes {session : Option Nat} {hand : Option Pool.Buffer}
    (hwork : Work session hand server next) : Passes server next := by
  cases hwork with
  | quiet hquiet => exact hquiet.passes
  | countCommand => exact .keep rfl rfl rfl
  | take epoch =>
      unfold Server.take
      split
      · rename_i hpool
        exact .keep (by rw [(poolOf?_eq_some_iff.mp hpool).2]; rfl) rfl rfl
      · exact .keep rfl rfl rfl
  | giveBack epoch buffer =>
      unfold Server.giveBack
      split
      · rename_i hpool
        exact .keep (by rw [(poolOf?_eq_some_iff.mp hpool).2]; rfl) rfl rfl
      · exact .keep rfl rfl rfl

theorem Feeds.passes {bytes : List UInt8} {status : FeedStatus}
    (hfeeds : Feeds server bytes status next) : Passes server next := by
  cases hfeeds with
  | queue hpool => exact .keep (by rw [hpool]; rfl) rfl rfl
  | _ => exact .keep rfl rfl rfl

theorem passes_of_acts {call later : Call} (hacts : call.Acts server later next) :
    Passes server next := by
  cases hacts with
  | stage _ hstage =>
      unfold Server.stage at hstage
      split at hstage
      · cases hstage
        exact .stage ‹_› rfl rfl rfl
      · cases hstage
  | refuse | wait => exact .keep rfl rfl rfl
  | feed bytes => exact (feeds_feed server bytes).passes
  | quiet _ _ hquiet => exact hquiet.passes

/-- A server that is closed while all buffers are queued counts no leak. -/
theorem leaks_cleanUp (hlends : ∀ pool, server.pool = some pool → pool.Lends 0)
    (hequipped : server.Equipped) : server.cleanUp.counters.leaks = server.counters.leaks := by
  unfold cleanUp
  split
  · rfl
  · cases hpool : server.pool with
    | none => simp [Counters.addLeaks]
    | some pool =>
        have hreport := (hlends pool hpool).teardown (hequipped.pool pool hpool)
        simp [hreport, Counters.addLeaks]

end Server

namespace Session

open TunerRelay.Device (Tuner)
open TunerRelay.Relay (Balanced Supervisor)

namespace Hosting

variable {σ : Type} [Tuner σ] {hosting : Hosting σ}

theorem Fits.passes_move (hfits : hosting.Fits) (move : Move) :
    Server.Passes hosting.server (hosting.move move).server := by
  rcases hfits.move_cases move with ⟨call, signal, -, hserver, -⟩ | ⟨worker, signal, hwork⟩
  · change Server.Passes _ (hosting.move move).relay.server
    rw [hserver]
    exact Server.passes_of_acts (call.acts signal hosting.relay)
  · change Server.Passes _ (hosting.move move).relay.server
    rw [hwork]
    cases hacting : hosting.relay.supervisors[worker.number]? with
    | none =>
        rw [Relay.work_eq_of_none signal hacting]
        exact .keep rfl rfl rfl
    | some acting =>
        rw [Relay.work_eq signal hacting]
        exact (worker.work_step signal acting hosting.relay.hub).passes

/-- What is true of the buffers at any time: the books are right, and whoever serves a client serves
one that the server knows of. -/
structure Thrifty (hosting : Hosting σ) : Prop where
  fits : hosting.Fits
  balanced : Balanced hosting.server hosting.relay.supervisors
  served : ∀ supervisor ∈ hosting.relay.supervisors, supervisor.Serves →
    hosting.server.phase.IsServed
  leaks : hosting.server.counters.leaks = 0

theorem thrifty_atRest (device : σ) : (atRest device).Thrifty where
  fits := fits_atRest device
  balanced := ⟨(fun _ hpool => nomatch hpool), fun _ hmem => absurd hmem List.not_mem_nil⟩
  served := fun _ hmem => absurd hmem List.not_mem_nil
  leaks := rfl

namespace Thrifty

/-- Where a move takes the pool away, nobody has a buffer in hand. -/
theorem hand_eq_none (hthrifty : hosting.Thrifty) {move : Move}
    (hgone : (hosting.move move).server.pool = none) :
    ∀ supervisor ∈ hosting.relay.supervisors, supervisor.place.hand = none := by
  intro supervisor hmem
  by_contra hhand
  have hserves := Supervisor.serves_of_hand (Option.isSome_iff_ne_none.mpr hhand)
  have hserved := Serves.isServed_move hthrifty.fits hmem hserves
    (hthrifty.served supervisor hmem hserves) move
  have hclosed := ((hthrifty.fits.move move).kept.equipped.pool_none).mp hgone
  exact hserved.ne_uninitialized hclosed

theorem lends_zero (hthrifty : hosting.Thrifty) {move : Move} {pool : Pool}
    (hpool : hosting.server.pool = some pool)
    (hgone : (hosting.move move).server.pool = none) : pool.Lends 0 :=
  hthrifty.balanced.lends_zero hpool (hthrifty.hand_eq_none hgone)

theorem balanced_move (hthrifty : hosting.Thrifty) (move : Move) :
    Balanced (hosting.move move).server (hosting.move move).relay.supervisors := by
  have hequipped := hthrifty.fits.kept.equipped
  rcases hthrifty.fits.move_cases move with ⟨call, signal, -, hserver, hsupervisors⟩ |
    ⟨worker, signal, hwork⟩
  · have hacted := hthrifty.balanced.act hequipped (call.acts signal hosting.relay)
    change Balanced (hosting.move move).relay.server _
    rw [hserver, hsupervisors]
    rcases call.supervisors_step signal hosting.relay with hsame | ⟨hmore, -⟩
    · rw [hsame]
      exact hacted
    · rw [hmore]
      exact hacted.launch
  · change Balanced (hosting.move move).relay.server _
    rw [hwork]
    cases hacting : hosting.relay.supervisors[worker.number]? with
    | none =>
        rw [Relay.work_eq_of_none signal hacting]
        exact hthrifty.balanced
    | some acting =>
        rw [Relay.work_eq signal hacting]
        exact hthrifty.balanced.of_books hacting
          (worker.books_step signal acting hosting.relay.hub hequipped)

theorem served_move (hthrifty : hosting.Thrifty) (move : Move) :
    ∀ supervisor ∈ (hosting.move move).relay.supervisors, supervisor.Serves →
      (hosting.move move).server.phase.IsServed := by
  intro supervisor hmem hserves
  have hbefore : ∀ earlier ∈ hosting.relay.supervisors, earlier.Serves →
      (hosting.move move).server.phase.IsServed := fun earlier hearlier hserving =>
    Serves.isServed_move hthrifty.fits hearlier hserving
      (hthrifty.served earlier hearlier hserving) move
  rcases hthrifty.fits.move_cases move with ⟨call, signal, -, -, hsupervisors⟩ |
    ⟨worker, signal, hwork⟩
  · rw [hsupervisors] at hmem
    rcases call.supervisors_step signal hosting.relay with hsame | ⟨hmore, -⟩
    · exact hbefore supervisor (hsame ▸ hmem) hserves
    · rw [hmore, List.mem_append, List.mem_singleton] at hmem
      rcases hmem with hold | rfl
      · exact hbefore supervisor hold hserves
      · rcases hserves with habsurd | habsurd <;> cases habsurd
  · rw [hwork] at hmem
    cases hacting : hosting.relay.supervisors[worker.number]? with
    | none =>
        rw [Relay.work_eq_of_none signal hacting] at hmem
        exact hbefore supervisor hmem hserves
    | some acting =>
        rw [Relay.work_eq signal hacting] at hmem
        rcases List.mem_or_eq_of_mem_set hmem with hold | rfl
        · exact hbefore supervisor hold hserves
        · rcases Relay.Worker.served_step hserves with hserving | hserving
          · exact hbefore acting (List.mem_of_getElem? hacting) hserving
          · left
            change (hosting.move move).relay.server.phase = .serving
            rw [hwork, Relay.work_eq signal hacting]
            exact hserving

theorem leaks_move (hthrifty : hosting.Thrifty) (move : Move) :
    (hosting.move move).server.counters.leaks = 0 := by
  generalize hnext : (hosting.move move).server = next
  have hpasses := hthrifty.fits.passes_move move
  rw [hnext] at hpasses
  cases hpasses with
  | keep _ _ hleaks | stage _ _ _ hleaks => exact hleaks.trans hthrifty.leaks
  | close =>
      refine (Server.leaks_cleanUp (fun pool hpool => ?_) hthrifty.fits.kept.equipped).trans
        hthrifty.leaks
      refine hthrifty.lends_zero hpool (?_ : (hosting.move move).server.pool = none)
      refine ((hthrifty.fits.move move).kept.equipped.pool_none).mpr ?_
      change (hosting.move move).server.phase = .uninitialized
      rw [hnext]
      exact Server.phase_cleanUp hosting.server

protected theorem move (hthrifty : hosting.Thrifty) (move : Move) : (hosting.move move).Thrifty where
  fits := hthrifty.fits.move move
  balanced := hthrifty.balanced_move move
  served := hthrifty.served_move move
  leaks := hthrifty.leaks_move move

theorem run (hthrifty : hosting.Thrifty) (moves : List Move) : (hosting.run moves).Thrifty := by
  induction moves generalizing hosting with
  | nil => exact hthrifty
  | cons move rest ih => exact ih (hthrifty.move move)

end Thrifty

/-! ### The books of all pools -/

/-- A pool that is torn down, with the number of its session and the buffers that supervisors have in
hand. -/
structure Teardown where
  epoch : Nat
  pool : Pool
  held : List Pool.Buffer

/-- What a move tears down. -/
def teardown? (hosting : Hosting σ) (move : Move) : Option Teardown :=
  match hosting.server.pool, (hosting.move move).server.pool with
  | some pool, none =>
    some
      { epoch := hosting.server.epoch
        pool
        held := hosting.relay.supervisors.filterMap fun supervisor => supervisor.place.hand }
  | _, _ => none

/-- All that is torn down in a run, in order. -/
def teardowns (hosting : Hosting σ) : List Move → List Teardown
  | [] => []
  | move :: rest => (hosting.teardown? move).toList ++ (hosting.move move).teardowns rest

theorem teardown?_eq_some_iff {move : Move} {torn : Teardown} :
    hosting.teardown? move = some torn ↔
      hosting.server.pool = some torn.pool ∧ (hosting.move move).server.pool = none ∧
        torn.epoch = hosting.server.epoch ∧
        torn.held = hosting.relay.supervisors.filterMap fun supervisor => supervisor.place.hand := by
  obtain ⟨epoch, pool, held⟩ := torn
  unfold teardown?
  split
  · rename_i own hpool hgone
    simp only [hpool, hgone, Option.some.injEq, Teardown.mk.injEq, true_and]
    constructor
    · rintro ⟨rfl, rfl, rfl⟩
      exact ⟨rfl, rfl, rfl⟩
    · rintro ⟨rfl, rfl, rfl⟩
      exact ⟨rfl, rfl, rfl⟩
  · rename_i hnone
    refine iff_of_false nofun ?_
    rintro ⟨hpool, hgone, -⟩
    exact hnone pool hpool hgone

theorem teardowns_concat (moves : List Move) (move : Move) :
    hosting.teardowns (moves ++ [move]) =
      hosting.teardowns moves ++ ((hosting.run moves).teardown? move).toList := by
  induction moves generalizing hosting with
  | nil => simp [teardowns, run]
  | cons first rest ih =>
      simp only [List.cons_append, teardowns, ih, List.append_assoc]
      rfl

theorem run_concat (moves : List Move) (move : Move) :
    hosting.run (moves ++ [move]) = (hosting.run moves).move move := by
  rw [run, List.foldl_append]
  rfl

/-- The number of the session whose pool is still there. -/
def epoch? (hosting : Hosting σ) : Option Nat :=
  hosting.server.pool.map fun _ => hosting.server.epoch

/-- Every move leads from the sessions up to one to those up to the same or the next. -/
theorem Thrifty.epochs_move (hthrifty : hosting.Thrifty) (move : Move) {torn : List Nat}
    (htorn : torn ++ hosting.epoch?.toList = List.range' 1 hosting.server.epoch) :
    torn ++ ((hosting.teardown? move).map Teardown.epoch).toList ++
        (hosting.move move).epoch?.toList = List.range' 1 (hosting.move move).server.epoch := by
  have hnone := hthrifty.fits.kept.equipped.pool_none
  have hpasses := hthrifty.fits.passes_move move
  unfold epoch? at htorn ⊢
  unfold teardown?
  generalize (hosting.move move).server = next at hpasses ⊢
  cases hpasses with
  | keep hpool hepoch =>
      rw [hepoch, ← htorn]
      cases hbefore : hosting.server.pool with
      | none =>
          have hlater : next.pool = none := by simpa [hbefore] using hpool
          simp [hlater]
      | some pool =>
          rw [hbefore] at hpool
          obtain ⟨later, hlater⟩ := Option.isSome_iff_exists.mp hpool
          simp [hlater]
  | stage hphase hpool hepoch =>
      have hbefore : hosting.server.pool = none := hnone.mpr hphase
      obtain ⟨later, hlater⟩ := Option.isSome_iff_exists.mp hpool
      rw [hbefore] at htorn
      simp only [Option.map_none, Option.toList_none, List.append_nil] at htorn
      rw [hepoch, List.range'_1_concat, ← htorn, hlater, hbefore, Nat.add_comm]
      simp
  | close =>
      have hgone : hosting.server.cleanUp.pool = none := by
        unfold Server.cleanUp
        split
        · exact hnone.mpr ‹_›
        · rfl
      rw [hgone, Server.epoch_cleanUp, ← htorn]
      cases hosting.server.pool with
      | none => simp
      | some pool => simp

/-- What a teardown finds. -/
theorem Thrifty.teardown (hthrifty : hosting.Thrifty) {move : Move} {torn : Teardown}
    (htorn : hosting.teardown? move = some torn) :
    torn.pool.elements = torn.pool.population ∧ torn.held = [] ∧ torn.pool.teardown.1 = 0 ∧
      (hosting.move move).server = hosting.server.cleanUp := by
  obtain ⟨hpool, hgone, -, hheld⟩ := teardown?_eq_some_iff.mp htorn
  have hlends := hthrifty.lends_zero hpool hgone
  refine ⟨hlends, ?_, hlends.teardown (hthrifty.fits.kept.equipped.pool _ hpool), ?_⟩
  · rw [hheld, List.filterMap_eq_nil_iff]
    exact hthrifty.hand_eq_none hgone
  · have hpasses := hthrifty.fits.passes_move move
    generalize (hosting.move move).server = next at hpasses hgone ⊢
    cases hpasses with
    | keep hsame =>
        rw [hgone, hpool] at hsame
        cases hsame
    | stage _ hsome =>
        rw [hgone] at hsome
        cases hsome
    | close => rfl

/-- **No buffer leaks.** However many sessions are hosted, whatever their clients do, whichever samples
come and whenever somebody asks to close, no leak is ever counted. The pools that were made are torn
down once each and in order, all but the last one as long as its session runs, by closing the server
at a moment when all buffers of the pool are queued and no supervisor has one in hand. -/
theorem no_buffer_leaks (device : σ) (moves : List Move) :
    let hosting := (atRest device).run moves
    let torn := (atRest device).teardowns moves
    hosting.server.counters.leaks = 0 ∧
    torn.map Teardown.epoch ++ hosting.epoch?.toList = List.range' 1 hosting.server.epoch ∧
    (∀ entry ∈ torn, entry.pool.elements = entry.pool.population ∧ entry.held = [] ∧
      entry.pool.teardown.1 = 0) ∧
    (∀ move entry, hosting.teardown? move = some entry →
      (hosting.move move).server = hosting.server.cleanUp) ∧
    (hosting.isRunning = false → hosting.server.pool = none) := by
  intro hosting torn
  have hthrifty : hosting.Thrifty := (thrifty_atRest device).run moves
  refine ⟨hthrifty.leaks, ?_, ?_, fun move entry htorn => (hthrifty.teardown htorn).2.2.2, ?_⟩
  · induction moves using List.reverseRecOn with
    | nil => rfl
    | append_singleton earlier move ih =>
        have hbefore : ((atRest device).run earlier).Thrifty := (thrifty_atRest device).run earlier
        have hnext := hbefore.epochs_move move (ih hbefore)
        simp only [torn, hosting, teardowns_concat, run_concat]
        convert hnext using 2
        simp [Option.toList_map]
  · induction moves using List.reverseRecOn with
    | nil => exact List.forall_mem_nil _
    | append_singleton earlier move ih =>
        have hbefore : ((atRest device).run earlier).Thrifty := (thrifty_atRest device).run earlier
        intro entry hentry
        simp only [torn, teardowns_concat] at hentry
        rcases List.mem_append.mp hentry with hold | hnew
        · exact ih hbefore entry hold
        · obtain ⟨helements, hheld, hreport, -⟩ := hbefore.teardown (Option.mem_toList.mp hnew)
          exact ⟨helements, hheld, hreport⟩
  · intro hreturned
    obtain ⟨result, hplace⟩ := exists_returned hreturned
    have hholds := hthrifty.fits.holds
    rw [hplace] at hholds
    have hphase : hosting.server.phase = .uninitialized := List.mem_singleton.mp hholds.1
    exact hthrifty.fits.kept.equipped.pool_none.mpr hphase

theorem no_buffer_leaks_closed :
    let hosting := (atRest willing).run (.begin plainArguments :: closedMoves)
    let torn := (atRest willing).teardowns (.begin plainArguments :: closedMoves)
    hosting.isRunning = false ∧ hosting.server.counters.leaks = 0 ∧
      hosting.server.pool = none ∧ torn.map Teardown.epoch = [1] := by
  intro hosting torn
  obtain ⟨hleaks, hepochs, -, -, hnone⟩ :=
    no_buffer_leaks willing (.begin plainArguments :: closedMoves)
  have hreturned : hosting.isRunning = false := rfl
  have hpool : hosting.server.pool = none := hnone hreturned
  have hepoch : hosting.server.epoch = 1 := rfl
  rw [epoch?, hpool, hepoch] at hepochs
  exact ⟨hreturned, hleaks, hpool, by simpa using hepochs⟩

end Hosting

end Session

end TunerRelay
