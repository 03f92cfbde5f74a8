import Mathlib
import TunerRelay.Proofs.Lists
import TunerRelay.Proofs.Pool.Sharing

/-!
# Buffers of a shared pool are conserved

Every buffer that was reserved is queued in a stage, held by a thread, freed by the teardown or
counted off, however the threads and the teardown interleave. Until the teardown exchanges the
counter, the counter is the number of the first three; what the exchange reports is the number of
the first two.
-/

namespace TunerRelay.Pool

/-- Buffers queued in all stages. -/
def population (pool : Pool) : Nat := (pool.stages.map Fifo.size).sum

/-- Buffers under way in a call. -/
@[simp]
def Task.carried : Task → Nat
  | .returning _ _ | .queueing _ _ | .forgetting _ => 1
  | _ => 0

/-- A buffer that is to be queued was released from a stage that exists. -/
@[simp]
def Task.IsKnown (stages : Nat) : Task → Prop
  | .queueing stage _ => stage < stages
  | _ => True

/-- Buffers that a thread has acquired and the pool has not got back. -/
def Thread.burden (thread : Thread) : Nat := thread.held.length + thread.task.carried

attribute [simp] Task.makes Task.drops Thread.goTo Thread.gain Thread.fail

def Sharing.held (sharing : Sharing) : Nat := (sharing.threads.map Thread.burden).sum

/-! ### The atomic steps -/

theorem population_set {pool : Pool} {stage : Nat} {old : Fifo Buffer} (new : Fifo Buffer)
    (hold : pool.stages[stage]? = some old) :
    ({ pool with stages := pool.stages.set stage new } : Pool).population + old.size =
      pool.population + new.size :=
  Lists.sum_map_set Fifo.size new hold

theorem pop?_eq_some {pool rest : Pool} {stage : Nat} {buffer : Buffer}
    (hpop : pool.pop? stage = some (buffer, rest)) :
    ∃ fifo remaining, pool.stages[stage]? = some fifo ∧
      fifo.pop? = some (buffer, remaining) ∧
      rest = { pool with stages := pool.stages.set stage remaining } := by
  unfold pop? at hpop
  cases hstage : pool.stages[stage]? with
  | none => simp [hstage] at hpop
  | some fifo =>
      cases hfifo : fifo.pop? with
      | none => simp [hstage, hfifo] at hpop
      | some popped =>
          obtain ⟨head, remaining⟩ := popped
          simp only [hstage, hfifo, Option.bind_eq_bind, Option.bind_some, Option.pure_def,
            Option.some.injEq, Prod.mk.injEq] at hpop
          obtain ⟨rfl, rfl⟩ := hpop
          exact ⟨fifo, remaining, rfl, hfifo, rfl⟩

theorem Fifo.size_pop? {fifo remaining : Fifo Buffer} {buffer : Buffer}
    (hpop : fifo.pop? = some (buffer, remaining)) : fifo.size = remaining.size + 1 := by
  rw [Fifo.pop?_eq_some_iff] at hpop
  simp [Fifo.size, hpop]

theorem population_pop? {pool rest : Pool} {stage : Nat} {buffer : Buffer}
    (hpop : pool.pop? stage = some (buffer, rest)) : rest.population + 1 = pool.population := by
  obtain ⟨fifo, remaining, hstage, hfifo, rfl⟩ := pop?_eq_some hpop
  have hset := population_set remaining hstage
  have hsize := Fifo.size_pop? hfifo
  omega

theorem nextStage_lt {pool : Pool} {stage : Nat} (hstage : stage < pool.stages.length) :
    pool.nextStage stage < pool.stages.length := by
  unfold nextStage
  split <;> omega

theorem population_handOn {pool : Pool} {stage : Nat} (buffer : Buffer)
    (hstage : stage < pool.stages.length) :
    (pool.handOn stage buffer).population = pool.population + 1 := by
  obtain ⟨fifo, hfifo⟩ : ∃ fifo, pool.stages[pool.nextStage stage]? = some fifo :=
    ⟨_, List.getElem?_eq_getElem (nextStage_lt hstage)⟩
  unfold handOn
  simp only [Lists.modify_of_getElem? _ hfifo]
  have hset := population_set
    (fifo.push (if stage + 1 = pool.stages.length then buffer.prepare 0 else buffer)) hfifo
  rw [show (fifo.push (if stage + 1 = pool.stages.length then buffer.prepare 0 else buffer)).size =
    fifo.size + 1 by simp [Fifo.size]] at hset
  omega

theorem population_drain (pool : Pool) (stage : Nat) :
    (pool.drain stage).1 + (pool.drain stage).2.population = pool.population := by
  unfold drain queued
  cases hstage : pool.stages[stage]? with
  | none =>
      rw [List.modify_eq_self (List.getElem?_eq_none_iff.mp hstage)]
      exact Nat.zero_add _
  | some fifo =>
      simp only [Lists.modify_of_getElem? _ hstage]
      have hset := population_set fifo.drain.2 hstage
      rw [show fifo.drain.2.size = 0 from rfl] at hset
      omega

/-- What one step of a thread does to the numbers. -/
structure Thread.Effect (thread : Thread) (pool : Pool) (next : Thread × Pool) : Prop where
  limit : next.2.limit = pool.limit
  valid : next.2.valid = pool.valid
  stages : next.2.stages.length = pool.stages.length
  elements : next.2.elements = pool.elements + thread.task.makes pool - thread.task.drops
  buffers : next.2.population + next.1.burden + thread.task.drops =
    pool.population + thread.burden + thread.task.makes pool
  known : next.1.task.IsKnown pool.stages.length

theorem Thread.effect_step (patienceEnded : Bool) (thread : Thread) (pool : Pool)
    (hknown : thread.task.IsKnown pool.stages.length) :
    thread.Effect pool (thread.step patienceEnded pool) := by
  obtain ⟨task, held, answers⟩ := thread
  cases task with
  | idle => constructor <;> simp [step]
  | asking stage mayWait =>
      simp only [step]
      split <;> constructor <;> simp [burden]
  | taking stage mayWait =>
      cases hpop : pool.pop? stage with
      | some popped =>
          obtain ⟨buffer, rest⟩ := popped
          have hpopulation := population_pop? hpop
          obtain ⟨fifo, remaining, -, -, rfl⟩ := pop?_eq_some hpop
          constructor <;> simp [step, hpop, burden]
          omega
      | none =>
          simp only [step, hpop]
          split
          · constructor <;> simp [burden]
          · split <;> constructor <;> simp [burden]
  | reserving mayWait =>
      by_cases hroom : pool.elements < pool.limit
      · constructor <;> simp [step, reserve?, hroom, burden, population]
        omega
      · simp only [step, reserve?, hroom, if_false]
        split <;> constructor <;> simp [hroom, burden]
  | waiting stage =>
      cases hpop : pool.pop? stage with
      | some popped =>
          obtain ⟨buffer, rest⟩ := popped
          have hpopulation := population_pop? hpop
          obtain ⟨fifo, remaining, -, -, rfl⟩ := pop?_eq_some hpop
          constructor <;> simp [step, hpop, burden]
          omega
      | none =>
          simp only [step, hpop]
          split <;> constructor <;> simp [burden]
  | returning stage buffer =>
      simp only [step]
      split <;> rename_i hvalid
      · constructor <;> simp [burden, hvalid.2]
      · constructor <;> simp [burden]
  | queueing stage buffer =>
      have hpopulation := population_handOn buffer hknown
      simp only [handOn] at hpopulation
      constructor <;> simp [step, burden, handOn]
      omega
  | forgetting buffer =>
      constructor <;> simp [step, burden, forget, population]
      omega

namespace Sharing

def IsSettled (sharing : Sharing) : Prop :=
  ∃ freed outstanding, sharing.teardown = .settled freed outstanding

/-- The books of a shared pool. Until it is settled, the counter is kept in step with them. -/
structure Balanced (limit : Nat) (sharing : Sharing) : Prop where
  limit_eq : sharing.pool.limit = limit
  elements_le : sharing.pool.elements ≤ limit
  invalid : sharing.teardown ≠ .ahead → sharing.pool.valid = false
  known : ∀ thread ∈ sharing.threads, thread.task.IsKnown sharing.pool.stages.length
  account : sharing.pool.population + sharing.held + sharing.teardown.freed + sharing.dropped =
    sharing.made
  counter : ¬ sharing.IsSettled → sharing.pool.elements + sharing.dropped = sharing.made

theorem held_set {sharing : Sharing} {number : Nat} {thread : Thread} (next : Thread)
    (hthread : sharing.threads[number]? = some thread) :
    ((sharing.threads.set number next).map Thread.burden).sum + thread.burden =
      sharing.held + next.burden :=
  Lists.sum_map_set Thread.burden next hthread

theorem balanced_start (limit : Nat) (kind : Kind) (stages threads : Nat) :
    (start limit kind stages threads).Balanced limit := by
  have hempty : (ofLimit limit kind).teardown.2 = ofLimit limit kind := rfl
  have hpool : ((ofLimit limit kind).configure stages).limit = limit ∧
      ((ofLimit limit kind).configure stages).elements = 0 ∧
      ((ofLimit limit kind).configure stages).population = 0 := by
    unfold configure
    rw [hempty]
    split <;> simp [ofLimit, population, Fifo.size]
  obtain ⟨hlimit, helements, hpopulation⟩ := hpool
  constructor
  · exact hlimit
  · exact helements ▸ Nat.zero_le limit
  · intro hbegun
    exact absurd rfl hbegun
  · intro thread hthread
    rw [List.eq_of_mem_replicate hthread]
    trivial
  · simp [start, hpopulation, held, Thread.burden, Teardown.freed]
  · intro _
    exact helements

/-- A thread that changes neither its burden nor its place in a call leaves the books as they are. -/
theorem Balanced.update {limit : Nat} {sharing : Sharing} (hbalanced : sharing.Balanced limit)
    (number : Nat) (change : Thread → Thread)
    (hburden : ∀ thread, (change thread).burden = thread.burden)
    (hknown : ∀ thread stages, thread.task.IsKnown stages → (change thread).task.IsKnown stages) :
    (sharing.update number change).Balanced limit := by
  cases hthread : sharing.threads[number]? with
  | none =>
      have hself : sharing.update number change = sharing := by
        unfold Sharing.update
        rw [List.modify_eq_self (List.getElem?_eq_none_iff.mp hthread)]
      rwa [hself]
  | some thread =>
      have hheld := held_set (change thread) hthread
      rw [hburden thread] at hheld
      have hsame : (sharing.update number change).held = sharing.held := by
        unfold Sharing.update
        rw [Lists.modify_of_getElem? change hthread]
        exact Nat.add_right_cancel hheld
      refine ⟨hbalanced.limit_eq, hbalanced.elements_le, hbalanced.invalid, ?_, ?_,
        hbalanced.counter⟩
      · intro other hother
        unfold Sharing.update at hother
        rw [Lists.modify_of_getElem? change hthread] at hother
        rcases List.mem_or_eq_of_mem_set hother with hmem | rfl
        · exact hbalanced.known other hmem
        · exact hknown thread _ (hbalanced.known thread (List.mem_of_getElem? hthread))
      · rw [hsame]
        exact hbalanced.account

theorem Balanced.resume {limit : Nat} {sharing : Sharing} (hbalanced : sharing.Balanced limit)
    (number : Nat) (patienceEnded : Bool) :
    (sharing.resume number patienceEnded).Balanced limit := by
  unfold Sharing.resume
  cases hthread : sharing.threads[number]? with
  | none => exact hbalanced
  | some thread =>
      have hknown := hbalanced.known thread (List.mem_of_getElem? hthread)
      have heffect := Thread.effect_step patienceEnded thread sharing.pool hknown
      have hheld := held_set (thread.step patienceEnded sharing.pool).1 hthread
      have hbuffers := heffect.buffers
      have helements := heffect.elements
      have hlimit := hbalanced.limit_eq
      have hle := hbalanced.elements_le
      have haccount := hbalanced.account
      constructor
      · exact heffect.limit.trans hlimit
      · simp only [helements]
        cases thread.task <;> simp only [Task.makes, Task.drops] <;> grind
      · intro hbegun
        exact heffect.valid.trans (hbalanced.invalid hbegun)
      · intro other hother
        simp only [heffect.stages]
        rcases List.mem_or_eq_of_mem_set hother with hmem | rfl
        · exact hbalanced.known other hmem
        · exact heffect.known
      · simp only [held] at hheld haccount ⊢
        omega
      · intro hopen
        have hcounter := hbalanced.counter hopen
        -- A buffer that is counted off is still on its thread's books, so the counter is not zero.
        have hdrops : thread.task.drops ≤ thread.burden := by
          unfold Thread.burden
          cases thread.task <;> simp
        have hburden : thread.burden ≤ sharing.held := by
          exact List.le_sum_of_mem (List.mem_map_of_mem (List.mem_of_getElem? hthread))
        simp only [helements]
        omega

theorem Balanced.tearDown {limit : Nat} {sharing : Sharing} (hbalanced : sharing.Balanced limit) :
    (sharing.move .tearDown).Balanced limit := by
  obtain ⟨pool, threads, teardown, made, dropped⟩ := sharing
  have haccount := hbalanced.account
  cases teardown with
  | ahead =>
      refine ⟨hbalanced.limit_eq, hbalanced.elements_le, fun _ => rfl, hbalanced.known,
        haccount, fun _ => ?_⟩
      refine hbalanced.counter ?_
      rintro ⟨freed, outstanding, habsurd⟩
      cases habsurd
  | emptying rest freed =>
      have hinvalid := hbalanced.invalid Teardown.noConfusion
      have hcounter := hbalanced.counter (by rintro ⟨_, _, habsurd⟩; cases habsurd)
      cases rest with
      | cons stage rest =>
          have hdrain := population_drain pool stage
          refine ⟨hbalanced.limit_eq, hbalanced.elements_le, fun _ => hinvalid, ?_, ?_,
            fun _ => hcounter⟩
          · intro thread hthread
            have hstages : (pool.drain stage).2.stages.length = pool.stages.length := by
              simp [drain]
            simp only [move, Teardown.step, hstages]
            exact hbalanced.known thread hthread
          · simp only [move, Teardown.step, Teardown.freed, held] at haccount ⊢
            omega
      | nil =>
          refine ⟨hbalanced.limit_eq, Nat.zero_le limit, fun _ => hinvalid, hbalanced.known,
            haccount, fun hopen => ?_⟩
          exact absurd ⟨_, _, rfl⟩ hopen
  | settled freed outstanding => exact hbalanced

theorem Balanced.move {limit : Nat} {sharing : Sharing} (hbalanced : sharing.Balanced limit)
    (move : Move) : (sharing.move move).Balanced limit := by
  cases move with
  | acquire number stage mayWait =>
      refine hbalanced.update number _ ?_ ?_
      · intro thread
        by_cases hidle : thread.task = .idle <;> simp [hidle, Thread.burden]
      · intro thread stages hknown
        by_cases hidle : thread.task = .idle
        · simp [hidle]
        · simpa only [hidle, if_false] using hknown
  | release number position stage =>
      refine hbalanced.update number _ ?_ ?_
      · intro thread
        split
        · rename_i buffer hidle hbuffer
          have hlt := (List.getElem?_eq_some_iff.mp hbuffer).1
          simp only [Thread.burden, hidle, Task.carried, List.length_eraseIdx, hlt, if_true]
          omega
        · rfl
      · intro thread stages hknown
        split
        · trivial
        · exact hknown
  | alter number position buffer =>
      refine hbalanced.update number _ ?_ (fun thread stages hknown => hknown)
      intro thread
      simp [Thread.burden]
  | resume number patienceEnded => exact hbalanced.resume number patienceEnded
  | tearDown => exact hbalanced.tearDown

theorem Balanced.run {limit : Nat} {sharing : Sharing} (hbalanced : sharing.Balanced limit)
    (moves : List Move) : (sharing.run moves).Balanced limit := by
  induction moves generalizing sharing with
  | nil => exact hbalanced
  | cons move rest ih => exact ih (hbalanced.move move)

/-! ### After the teardown has begun -/

end Sharing

/-- The thread is not in an acquisition that has found the pool valid. -/
def Task.IsOutside : Task → Prop
  | .taking _ _ | .reserving _ | .waiting _ => False
  | _ => True

/-- All acquisitions since these answers have come to nothing. -/
structure Thread.Barred (since : List (Option Buffer)) (thread : Thread) : Prop where
  outside : thread.task.IsOutside
  answers : ∃ count, thread.answers = List.replicate count none ++ since

theorem Thread.barred_step {since : List (Option Buffer)} {thread : Thread} {pool : Pool}
    (patienceEnded : Bool) (hbarred : thread.Barred since) (hinvalid : pool.valid = false) :
    (thread.step patienceEnded pool).1.Barred since := by
  obtain ⟨task, held, answers⟩ := thread
  obtain ⟨houtside, count, hanswers⟩ := hbarred
  cases task with
  | idle => exact ⟨trivial, count, hanswers⟩
  | asking stage mayWait =>
      simp only [step, hinvalid, Bool.false_eq_true, false_and, if_false]
      refine ⟨trivial, count + 1, ?_⟩
      simp only [fail, List.replicate_succ, List.cons_append, List.cons.injEq, true_and]
      exact hanswers
  | taking | reserving | waiting => exact houtside.elim
  | returning stage buffer =>
      simp only [step, hinvalid, Bool.false_eq_true, false_and, if_false]
      exact ⟨trivial, count, hanswers⟩
  | queueing | forgetting => exact ⟨trivial, count, hanswers⟩

namespace Sharing

theorem teardown_move_ne_ahead {sharing : Sharing} (move : Move)
    (hbegun : sharing.teardown ≠ .ahead) : (sharing.move move).teardown ≠ .ahead := by
  cases move with
  | acquire | release | alter => exact hbegun
  | resume number patienceEnded =>
      simp only [Sharing.move, resume]
      split <;> exact hbegun
  | tearDown =>
      simp only [Sharing.move, Teardown.step]
      split <;> simp_all

theorem barred_move {limit : Nat} {sharing : Sharing} {number : Nat} {thread : Thread}
    {since : List (Option Buffer)} (hbalanced : sharing.Balanced limit)
    (hbegun : sharing.teardown ≠ .ahead) (hthread : sharing.threads[number]? = some thread)
    (hbarred : thread.Barred since) (move : Move) :
    ∃ later, (sharing.move move).threads[number]? = some later ∧ later.Barred since := by
  -- Only the thread itself changes what it has; a change that keeps it outside keeps it barred.
  have hupdate : ∀ (other : Nat) (change : Thread → Thread),
      (change thread).Barred since →
      ∃ later, (sharing.update other change).threads[number]? = some later ∧
        later.Barred since := by
    intro other change hchange
    unfold update
    by_cases heq : other = number
    · subst heq
      exact ⟨change thread, by simp [hthread], hchange⟩
    · exact ⟨thread, by simp [heq, hthread], hbarred⟩
  cases move with
  | acquire other stage mayWait =>
      refine hupdate other _ ?_
      split
      · exact ⟨trivial, hbarred.answers⟩
      · exact hbarred
  | release other position stage =>
      refine hupdate other _ ?_
      split
      · exact ⟨trivial, hbarred.answers⟩
      · exact hbarred
  | alter other position buffer => exact hupdate other _ ⟨hbarred.outside, hbarred.answers⟩
  | resume other patienceEnded =>
      simp only [Sharing.move, resume]
      split
      · exact ⟨thread, hthread, hbarred⟩
      · rename_i acting hacting
        by_cases heq : other = number
        · subst heq
          obtain rfl : thread = acting := Option.some.inj (hthread.symm.trans hacting)
          have hlt := (List.getElem?_eq_some_iff.mp hthread).1
          exact ⟨_, List.getElem?_set_self hlt,
            Thread.barred_step patienceEnded hbarred (hbalanced.invalid hbegun)⟩
        · exact ⟨thread, by simp [heq, hthread], hbarred⟩
  | tearDown => exact ⟨thread, hthread, hbarred⟩

theorem barred_run {limit : Nat} {sharing : Sharing} {number : Nat} {thread : Thread}
    {since : List (Option Buffer)} (hbalanced : sharing.Balanced limit)
    (hbegun : sharing.teardown ≠ .ahead) (hthread : sharing.threads[number]? = some thread)
    (hbarred : thread.Barred since) (moves : List Move) :
    ∃ later, (sharing.run moves).threads[number]? = some later ∧ later.Barred since := by
  induction moves generalizing sharing thread with
  | nil => exact ⟨thread, hthread, hbarred⟩
  | cons move rest ih =>
      obtain ⟨later, hlater, hstill⟩ := barred_move hbalanced hbegun hthread hbarred move
      exact ih (hbalanced.move move) (teardown_move_ne_ahead move hbegun) hlater hstill

/-- Once settled, a pool counts no more than what has been reserved since. -/
theorem elements_move_of_settled {limit base : Nat} {sharing : Sharing}
    (hbalanced : sharing.Balanced limit) (hsettled : sharing.IsSettled)
    (hbase : sharing.pool.elements + base ≤ sharing.made) (move : Move) :
    (sharing.move move).IsSettled ∧
      (sharing.move move).pool.elements + base ≤ (sharing.move move).made := by
  cases move with
  | acquire | release | alter => exact ⟨hsettled, hbase⟩
  | resume number patienceEnded =>
      simp only [Sharing.move, resume]
      split
      · exact ⟨hsettled, hbase⟩
      · rename_i thread hthread
        have heffect := Thread.effect_step patienceEnded thread sharing.pool
          (hbalanced.known thread (List.mem_of_getElem? hthread))
        refine ⟨hsettled, ?_⟩
        simp only [heffect.elements]
        omega
  | tearDown =>
      obtain ⟨freed, outstanding, hteardown⟩ := hsettled
      simp only [Sharing.move, hteardown, Teardown.step]
      exact ⟨⟨freed, outstanding, rfl⟩, hbase⟩

theorem elements_run_of_settled {limit base : Nat} {sharing : Sharing}
    (hbalanced : sharing.Balanced limit) (hsettled : sharing.IsSettled)
    (hbase : sharing.pool.elements + base ≤ sharing.made) (moves : List Move) :
    (sharing.run moves).pool.elements + base ≤ (sharing.run moves).made := by
  induction moves generalizing sharing with
  | nil => exact hbase
  | cons move rest ih =>
      obtain ⟨hstill, hlater⟩ := elements_move_of_settled hbalanced hsettled hbase move
      exact ih (hbalanced.move move) hstill hlater

/-! ### The whole life of a pool -/

/-- **Conservation.** In every interleaving the counter stays within the limit, and until the
teardown exchanges it, it is the number of buffers queued, held or freed. The teardown reports the
buffers that were neither freed nor counted off, without cutting its difference off at zero. Threads
that begin to acquire after it has begun get nothing, and after the exchange the counter holds at
most what has been reserved since, so that late releases cannot drive it below zero. -/
theorem buffers_conserved (limit : Nat) (kind : Kind) (stages threads : Nat) (moves : List Move) :
    let sharing := (start limit kind stages threads).run moves
    sharing.pool.elements ≤ limit ∧
    (¬ sharing.IsSettled →
      sharing.pool.elements =
        sharing.pool.population + sharing.held + sharing.teardown.freed) ∧
    (∀ freed, sharing.teardown = .emptying [] freed →
      ∃ outstanding, (sharing.move .tearDown).teardown = .settled freed outstanding ∧
        outstanding = sharing.pool.population + sharing.held ∧
        outstanding + freed + sharing.dropped = sharing.made ∧
        outstanding + freed = sharing.pool.elements) ∧
    (sharing.teardown ≠ .ahead → ∀ (number : Nat) (thread : Thread),
      sharing.threads[number]? = some thread → thread.task = .idle → ∀ after,
      ∃ later count, (sharing.run after).threads[number]? = some later ∧
        later.answers = List.replicate count none ++ thread.answers) ∧
    (∀ before after freed, moves = before ++ .tearDown :: after →
      ((start limit kind stages threads).run before).teardown = .emptying [] freed →
      sharing.pool.elements + ((start limit kind stages threads).run before).made ≤
        sharing.made) := by
  intro sharing
  have hstart := balanced_start limit kind stages threads
  have hbalanced : sharing.Balanced limit := hstart.run moves
  have haccount := hbalanced.account
  refine ⟨hbalanced.elements_le, ?_, ?_, ?_, ?_⟩
  · intro hopen
    have hcounter := hbalanced.counter hopen
    omega
  · intro freed hemptied
    have hcounter := hbalanced.counter (by rintro ⟨_, _, hsettled⟩; simp [hemptied] at hsettled)
    simp only [hemptied, Teardown.freed] at haccount
    refine ⟨sharing.pool.elements - freed, ?_, by omega, by omega, by omega⟩
    simp only [move, hemptied, Teardown.step, settle]
  · intro hbegun number thread hthread hidle after
    have hbarred : thread.Barred thread.answers := by
      refine ⟨?_, 0, rfl⟩
      rw [hidle]
      trivial
    obtain ⟨later, hlater, hstill⟩ := barred_run hbalanced hbegun hthread hbarred after
    obtain ⟨count, hanswers⟩ := hstill.answers
    exact ⟨later, count, hlater, hanswers⟩
  · intro before after freed hmoves hemptied
    have hbefore := hstart.run before
    have hrun : sharing =
        (((start limit kind stages threads).run before).move .tearDown).run after := by
      simp only [sharing, hmoves, run, List.foldl_append, List.foldl_cons]
    rw [hrun]
    refine elements_run_of_settled (hbefore.move .tearDown) ?_ ?_ after
    · simp only [move, hemptied, Teardown.step]
      exact ⟨_, _, rfl⟩
    · simp only [move, hemptied, Teardown.step, settle]
      omega

/-- One buffer is queued and freed, one is queued in a stage that was emptied already, and one is
released from a stage that does not exist. -/
def lateMoves : List Move :=
  [.acquire 0 0 true, .resume 0 false, .resume 0 false, .resume 0 false,
    .release 0 0 0, .resume 0 false, .resume 0 false,
    .acquire 0 0 true, .resume 0 false, .resume 0 false, .resume 0 false,
    .acquire 1 0 true, .resume 1 false, .resume 1 false, .resume 1 false,
    .release 0 0 0, .resume 0 false, .release 1 0 7, .resume 1 false,
    .tearDown, .tearDown, .tearDown, .resume 0 false, .resume 1 false]

theorem buffers_conserved_late :
    let sharing := (start 3 .ushort 2 2).run lateMoves
    sharing.teardown = .emptying [] 1 ∧
    ∃ outstanding, (sharing.move .tearDown).teardown = .settled 1 outstanding ∧
      outstanding = sharing.pool.population + sharing.held ∧
      outstanding + 1 + sharing.dropped = sharing.made ∧
      outstanding + 1 = sharing.pool.elements :=
  ⟨by decide, (buffers_conserved 3 .ushort 2 2 lateMoves).2.2.1 1 (by decide)⟩

end Sharing

end TunerRelay.Pool
