import TunerRelay.Proofs.Pool.Lending
import TunerRelay.Proofs.Relay.Resources

/-!
# Who has the buffers of a pool

However callers and workers interleave, every buffer of the present pool is queued in it or in the
hand of one supervisor that noted this pool. A buffer of an earlier pool is nobody's business any
more: it will not be given back to a pool that it does not belong to.
-/

namespace TunerRelay

open TunerRelay.Server (Quiet Work Feeds)

namespace Relay

/-- Buffers of the pool of a session that the supervisor has in hand. -/
def Supervisor.burden (epoch : Nat) (supervisor : Supervisor) : Nat :=
  if supervisor.epoch = some epoch ∧ supervisor.place.hand.isSome = true then 1 else 0

/-- Every buffer of the present pool that is not queued is in the hand of a supervisor, and nobody
knows a pool yet that is still to be made. -/
structure Balanced (server : Server) (supervisors : List Supervisor) : Prop where
  account : ∀ pool, server.pool = some pool →
    pool.Lends (supervisors.map (Supervisor.burden server.epoch)).sum
  known : ∀ supervisor ∈ supervisors, ∀ epoch, supervisor.epoch = some epoch → epoch ≤ server.epoch

/-! ### Workers -/

/-- What a section of a worker makes of the books: a buffer goes from the pool to the supervisor's hand
or back, or the pool goes. -/
structure Supervisor.Books (supervisor : Supervisor) (server : Server) (later : Supervisor)
    (next : Server) : Prop where
  epoch : next.epoch = server.epoch
  noted : later.epoch = supervisor.epoch ∨ later.epoch = server.pool.map fun _ => server.epoch
  account : ∀ pool, next.pool = some pool → ∃ old, server.pool = some old ∧
    ∀ others, old.Lends (others + supervisor.burden server.epoch) →
      pool.Lends (others + later.burden server.epoch)

namespace Supervisor

variable {supervisor later : Supervisor} {server next : Server}

/-- A section that leaves the pool alone unless it closes the server, and the supervisor's hand. -/
theorem Books.of_quiet (hquiet : Quiet server next)
    (hnoted : later.epoch = supervisor.epoch ∨ later.epoch = server.pool.map fun _ => server.epoch)
    (hburden : later.burden server.epoch = supervisor.burden server.epoch) :
    supervisor.Books server later next where
  epoch := hquiet.epoch_eq
  noted := hnoted
  account pool hpool := by
    rcases hquiet.pool_eq_or with hsame | ⟨hnone, -⟩
    · exact ⟨pool, hsame ▸ hpool, fun others hlends => hburden ▸ hlends⟩
    · rw [hnone] at hpool
      cases hpool

theorem burden_of_hand {place : Place} (epoch : Nat)
    (hhand : place.hand.isSome = supervisor.place.hand.isSome) :
    (supervisor.goTo place).burden epoch = supervisor.burden epoch := by
  unfold burden
  rw [goTo, hhand]

theorem Books.take {epoch : Nat} {place : Place}
    (hsession : supervisor.epoch = some epoch) (hempty : supervisor.place.hand = none)
    (hplace : place.hand = (server.take epoch).1) :
    supervisor.Books server (supervisor.goTo place) (server.take epoch).2 := by
  have hbefore : ∀ known, supervisor.burden known = 0 := fun known => by simp [burden, hempty]
  refine ⟨Server.epoch_take server epoch, .inl rfl, fun pool hpool => ?_⟩
  cases htake : (server.take epoch).1 with
  | none =>
      have hkept : (server.take epoch).2.pool = server.pool := by
        unfold Server.take at htake ⊢
        split at htake
        · rename_i own hown
          obtain ⟨-, hpresent⟩ := Server.poolOf?_eq_some_iff.mp hown
          rw [hpresent]
          exact congrArg some (Pool.acquire_eq_none (Prod.ext htake rfl))
        · rfl
      refine ⟨pool, hkept ▸ hpool, fun others hlends => ?_⟩
      rwa [burden_of_hand _ (by rw [hplace, htake, hempty])]
  | some buffer =>
      obtain ⟨own, rest, hown, hacquire, hnext⟩ := Server.take_of_some htake
      obtain ⟨hepoch, hpresent⟩ := Server.poolOf?_eq_some_iff.mp hown
      rw [hnext] at hpool
      obtain rfl : rest = pool := Option.some.inj hpool
      refine ⟨own, hpresent, fun others hlends => ?_⟩
      have hafter : (supervisor.goTo place).burden server.epoch = 1 := by
        simp [burden, goTo, hsession, hepoch, hplace, htake]
      rw [hbefore] at hlends
      rw [hafter]
      exact hlends.acquire hacquire

theorem Books.giveBack {buffer : Pool.Buffer} {place : Place} (hequipped : server.Equipped)
    (hhand : supervisor.place.hand = some buffer) (hempty : place.hand = none) :
    supervisor.Books server (supervisor.goTo place)
      (supervisor.epoch.elim server fun epoch => server.giveBack epoch buffer) := by
  have hafter : ∀ known, (supervisor.goTo place).burden known = 0 :=
    fun known => by simp [burden, goTo, hempty]
  cases hsession : supervisor.epoch with
  | none =>
      refine .of_quiet .stay (.inl rfl) ?_
      rw [hafter, burden, hsession]
      simp
  | some epoch =>
      refine ⟨Server.epoch_giveBack server epoch buffer, .inl rfl, fun pool hpool => ?_⟩
      simp only [Option.elim_some, Server.giveBack] at hpool
      split at hpool
      · rename_i own hown
        obtain ⟨hepoch, hpresent⟩ := Server.poolOf?_eq_some_iff.mp hown
        obtain rfl : own.release 1 buffer = pool := Option.some.inj hpool
        refine ⟨own, hpresent, fun others hlends => ?_⟩
        have hbefore : supervisor.burden server.epoch = 1 := by
          simp [burden, hsession, hepoch, hhand]
        have hworks := hequipped.pool own hpresent
        rw [hbefore] at hlends
        rw [hafter]
        exact hlends.release hworks.valid (by rw [hworks.length_stages]; exact Nat.one_lt_two)
      · rename_i hnone
        refine ⟨pool, hpool, fun others hlends => ?_⟩
        have hother : supervisor.epoch ≠ some server.epoch := by
          rw [hsession]
          rintro hsame
          rw [Server.poolOf?, if_pos (Option.some.inj hsame).symm, hpool] at hnone
          cases hnone
        rw [burden, if_neg fun hboth => hother hboth.1] at hlends
        rwa [hafter]

theorem Steps.books (hequipped : server.Equipped)
    (hsteps : supervisor.Steps server later next) : supervisor.Books server later next := by
  cases hsteps with
  | note hplace =>
      refine .of_quiet .stay (.inr rfl) ?_
      simp [burden, Supervisor.note, hplace, Place.hand]
  | @walk place _ hleads =>
      have hstay : ∀ {now : Server}, Quiet server now →
          place.hand.isSome = supervisor.place.hand.isSome →
          supervisor.Books server (supervisor.goTo place) now :=
        fun hquiet hhand => .of_quiet hquiet (.inl rfl) (burden_of_hand _ hhand)
      obtain ⟨from_, observer, session, connection, reader, sent⟩ := supervisor
      cases hleads with
      | splitFailed | spawnFailed | halt => exact hstay (Server.quiet_requestStop server) rfl
      | enter hphase => exact hstay (.serve hphase) rfl
      | count bytes => exact hstay (.countSent bytes) rfl
      | close => exact hstay .close rfl
      | fetchNothing epoch hsession htake => exact .take hsession rfl htake.symm
      | fetch epoch buffer hsession htake => exact .take hsession rfl htake.symm
      | giveBack buffer | drop buffer => exact .giveBack hequipped rfl rfl
      | giveUp _ hplace =>
          refine hstay .stay ?_
          cases from_ with
          | seeking | waiting | accepting | registering | splitting | entering => rfl
          | _ => cases hplace
      | _ => exact hstay .stay rfl
  | register hplace hadmitted hnext =>
      refine .of_quiet (Server.quiet_of_admit? hadmitted) (.inl rfl) ?_
      rcases hnext with rfl | rfl <;> simp [burden, hplace, Place.hand]
  | staff hplace | send count hplace =>
      exact .of_quiet .stay (.inl rfl) (by simp [burden, hplace, Place.hand])
  | join hplace => exact .of_quiet .stay (.inl rfl) (by simp [burden, goTo, hplace, Place.hand])

end Supervisor

variable {ω : Type} [Audience ω]

theorem Worker.books_step (worker : Worker) (signal : Signal) (supervisor : Supervisor)
    (hub : Hub ω) (hequipped : hub.server.Equipped) :
    supervisor.Books hub.server (worker.step signal supervisor hub).1
      (worker.step signal supervisor hub).2.server := by
  cases worker with
  | supervisor number => exact (supervisor.steps signal hub).books hequipped
  | reader number =>
      obtain ⟨reader, hsame⟩ := supervisor.exists_stepReader signal hub
      simp only [step]
      rw [hsame]
      -- A reader has nothing in hand that it could take or give back.
      have hwork : Work none none hub.server (supervisor.stepReader signal hub).2.server := by
        unfold Supervisor.stepReader
        split
        · exact Reader.work_step _ _ _ _ signal hub
        · exact .quiet .stay
      generalize hnext : (supervisor.stepReader signal hub).2.server = next at hwork
      cases hwork with
      | quiet hquiet => exact .of_quiet hquiet (.inl rfl) rfl
      | countCommand =>
          exact ⟨rfl, .inl rfl, fun pool hpool => ⟨pool, hpool, fun others hlends => hlends⟩⟩
      | take epoch hsession => cases hsession
      | giveBack epoch buffer hsession => cases hsession

end Relay

namespace Relay.Balanced

variable {server next : Server} {supervisors : List Supervisor}

theorem of_books {number : Nat} {supervisor later : Supervisor} (hbalanced : Balanced server supervisors)
    (hsupervisor : supervisors[number]? = some supervisor)
    (hbooks : supervisor.Books server later next) :
    Balanced next (supervisors.set number later) where
  account pool hpool := by
    obtain ⟨old, hold, hlends⟩ := hbooks.account pool hpool
    have hsum := Lists.sum_map_set (Supervisor.burden server.epoch) later hsupervisor
    have hmem := List.mem_of_getElem? hsupervisor
    have hle : supervisor.burden server.epoch ≤
        (supervisors.map (Supervisor.burden server.epoch)).sum :=
      List.single_le_sum (fun _ _ => Nat.zero_le _) _ (List.mem_map_of_mem hmem)
    have hbefore := hbalanced.account old hold
    rw [← Nat.sub_add_cancel hle] at hbefore
    have hafter := hlends _ hbefore
    rw [hbooks.epoch]
    convert hafter using 1
    omega
  known := by
    intro other hother epoch hepoch
    rw [hbooks.epoch]
    rcases List.mem_or_eq_of_mem_set hother with hmem | rfl
    · exact hbalanced.known other hmem epoch hepoch
    · rcases hbooks.noted with hsame | hnoted
      · exact hbalanced.known supervisor (List.mem_of_getElem? hsupervisor) epoch (hsame ▸ hepoch)
      · rw [hnoted] at hepoch
        cases hpool : server.pool with
        | none =>
            rw [hpool] at hepoch
            cases hepoch
        | some pool =>
            rw [hpool] at hepoch
            exact (Option.some.inj hepoch).ge

/-! ### Callers -/

/-- A section that leaves the pool alone, or takes it away. -/
theorem of_pool (hbalanced : Balanced server supervisors)
    (hpool : next.pool = server.pool ∨ next.pool = none) (hepoch : next.epoch = server.epoch) :
    Balanced next supervisors where
  account pool hnext := by
    rcases hpool with hsame | hnone
    · rw [hepoch]
      exact hbalanced.account pool (hsame ▸ hnext)
    · rw [hnone] at hnext
      cases hnext
  known := by
    rw [hepoch]
    exact hbalanced.known

/-- In the pool of a new session nobody has anything in hand. -/
theorem stage {header : Wire.Header} (hbalanced : Balanced server supervisors)
    (hstage : server.stage header = .ok next) : Balanced next supervisors := by
  unfold Server.stage at hstage
  split at hstage
  · cases hstage
    have hnone : (supervisors.map (Supervisor.burden (server.epoch + 1))).sum = 0 := by
      refine List.sum_eq_zero fun weight hweight => ?_
      obtain ⟨supervisor, hmem, rfl⟩ := List.mem_map.mp hweight
      refine if_neg fun hboth => ?_
      have hle := hbalanced.known supervisor hmem _ hboth.1
      omega
    refine ⟨fun pool hpool => ?_, fun supervisor hmem epoch hepoch => ?_⟩
    · obtain rfl := Option.some.inj hpool
      change (Server.stagedPool header).Lends
        (supervisors.map (Supervisor.burden (server.epoch + 1))).sum
      rw [hnone]
      rfl
    · exact Nat.le_succ_of_le (hbalanced.known supervisor hmem epoch hepoch)
  · cases hstage

theorem feed {bytes : List UInt8} {status : Server.FeedStatus}
    (hbalanced : Balanced server supervisors) (hequipped : server.Equipped)
    (hfeeds : Feeds server bytes status next) : Balanced next supervisors := by
  cases hfeeds with
  | refuse | close => exact hbalanced
  | drop => exact hbalanced.of_pool (.inl rfl) rfl
  | @queue pool rest buffer hpool hacquire =>
      have hrest := (hequipped.pool pool hpool).acquire_free
      rw [hacquire] at hrest
      refine ⟨fun later hlater => ?_, hbalanced.known⟩
      obtain rfl := Option.some.inj hlater
      have hlends := (hbalanced.account pool hpool).acquire hacquire
      exact hlends.release hrest.valid (by rw [hrest.length_stages]; exact Nat.two_pos)

theorem act {call later : Call} (hbalanced : Balanced server supervisors)
    (hequipped : server.Equipped) (hacts : call.Acts server later next) :
    Balanced next supervisors := by
  cases hacts with
  | stage _ hstage => exact hbalanced.stage hstage
  | refuse | wait => exact hbalanced
  | feed bytes => exact hbalanced.feed hequipped (Server.feeds_feed server bytes)
  | quiet _ _ hquiet => exact hbalanced.of_pool (hquiet.pool_eq_or.imp_right And.left) hquiet.epoch_eq

theorem launch (hbalanced : Balanced server supervisors) :
    Balanced server (supervisors ++ [({} : Supervisor)]) where
  account pool hpool := by
    have hnew : Supervisor.burden server.epoch ({} : Supervisor) = 0 := rfl
    rw [List.map_append, List.sum_append, List.map_singleton, List.sum_singleton, hnew]
    exact hbalanced.account pool hpool
  known := by
    intro supervisor hmem epoch hepoch
    rcases List.mem_append.mp hmem with hold | hnew
    · exact hbalanced.known supervisor hold epoch hepoch
    · rw [List.mem_singleton.mp hnew] at hepoch
      cases hepoch

/-- A pool is torn down with all its buffers queued, if nobody has one in hand. -/
theorem lends_zero {pool : Pool} (hbalanced : Balanced server supervisors)
    (hpool : server.pool = some pool)
    (hhands : ∀ supervisor ∈ supervisors, supervisor.place.hand = none) : pool.Lends 0 := by
  have hnone : (supervisors.map (Supervisor.burden server.epoch)).sum = 0 := by
    refine List.sum_eq_zero fun weight hweight => ?_
    obtain ⟨supervisor, hmem, rfl⟩ := List.mem_map.mp hweight
    simp [Supervisor.burden, hhands supervisor hmem]
  exact hnone ▸ hbalanced.account pool hpool

end Relay.Balanced

end TunerRelay
