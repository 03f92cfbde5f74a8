import TunerRelay.Pool.Basic

/-!
# A pool shared by threads

The operations of a pool, cut into the steps that are atomic: a look at the validity flag, a
section under the lock of one stage, an exchange on the counter. Between two steps of a thread every
other thread may take steps of its own, and so may the teardown. Taken without interruption the
steps of one call add up to the operation itself: `Thread.steps_asking`, `Thread.steps_returning`
and `Teardown.steps_ahead`.
-/

namespace TunerRelay.Pool

/-- Where a thread stands in its call. -/
inductive Task where
  | idle
  /-- Acquiring; about to look whether the pool is valid. -/
  | asking (stage : Nat) (mayWait : Bool)
  /-- About to take the head of the stage. -/
  | taking (stage : Nat) (mayWait : Bool)
  /-- Nothing is queued in the first stage; about to reserve a new buffer. -/
  | reserving (mayWait : Bool)
  | waiting (stage : Nat)
  /-- Releasing; about to look whether the pool is valid. -/
  | returning (stage : Nat) (buffer : Buffer)
  | queueing (stage : Nat) (buffer : Buffer)
  /-- The buffer is not wanted any more; about to count it off. -/
  | forgetting (buffer : Buffer)
deriving DecidableEq, Repr

/-- How many buffers the next step reserves. -/
def Task.makes (task : Task) (pool : Pool) : Nat :=
  match task with
  | .reserving _ => if pool.elements < pool.limit then 1 else 0
  | _ => 0

/-- How many buffers the next step counts off. -/
def Task.drops : Task → Nat
  | .forgetting _ => 1
  | _ => 0

structure Thread where
  task : Task := .idle
  /-- Buffers acquired and not yet released. -/
  held : List Buffer := []
  /-- What the acquisitions came to, the latest first. -/
  answers : List (Option Buffer) := []
deriving DecidableEq, Repr

namespace Thread

def goTo (thread : Thread) (task : Task) : Thread := { thread with task }

def gain (thread : Thread) (buffer : Buffer) : Thread :=
  { task := .idle, held := buffer :: thread.held, answers := some buffer :: thread.answers }

def fail (thread : Thread) : Thread :=
  { thread with task := .idle, answers := none :: thread.answers }

/-- The next step of a call. A waiter whose patience has not ended goes on waiting while there is
something to wait for. -/
def step (patienceEnded : Bool) (thread : Thread) (pool : Pool) : Thread × Pool :=
  match thread.task with
  | .idle => (thread, pool)
  | .asking stage mayWait =>
    if pool.valid ∧ stage < pool.stages.length then (thread.goTo (.taking stage mayWait), pool)
    else (thread.fail, pool)
  | .taking stage mayWait =>
    match pool.pop? stage with
    | some (buffer, pool) => (thread.gain buffer, pool)
    | none =>
      if stage = 0 then (thread.goTo (.reserving mayWait), pool)
      else if mayWait then (thread.goTo (.waiting stage), pool)
      else (thread.fail, pool)
  | .reserving mayWait =>
    match pool.reserve? with
    | some pool => (thread.gain (.ofKind pool.kind), pool)
    | none => if mayWait then (thread.goTo (.waiting 0), pool) else (thread.fail, pool)
  | .waiting stage =>
    match pool.pop? stage with
    | some (buffer, pool) => (thread.gain buffer, pool)
    | none => if pool.valid ∧ !patienceEnded then (thread, pool) else (thread.fail, pool)
  | .returning stage buffer =>
    if pool.valid ∧ stage < pool.stages.length then (thread.goTo (.queueing stage buffer), pool)
    else (thread.goTo (.forgetting buffer), pool)
  | .queueing stage buffer => (thread.goTo .idle, pool.handOn stage buffer)
  | .forgetting _ => (thread.goTo .idle, pool.forget)

end Thread

/-- How far the teardown has come. -/
inductive Teardown where
  | ahead
  /-- The pool is invalid; these stages are still to be emptied. -/
  | emptying (rest : List Nat) (freed : Nat)
  /-- The counter was exchanged, and so many buffers were reported to be outstanding. -/
  | settled (freed outstanding : Nat)
deriving DecidableEq, Repr

def Teardown.step (teardown : Teardown) (pool : Pool) : Teardown × Pool :=
  match teardown with
  | .ahead => (.emptying (List.range pool.stages.length) 0, pool.invalidate)
  | .emptying (stage :: rest) freed =>
    let (count, pool) := pool.drain stage
    (.emptying rest (freed + count), pool)
  | .emptying [] freed =>
    let (outstanding, pool) := pool.settle freed
    (.settled freed outstanding, pool)
  | .settled freed outstanding => (.settled freed outstanding, pool)

/-- Buffers freed by the teardown so far. -/
def Teardown.freed : Teardown → Nat
  | .ahead => 0
  | .emptying _ freed | .settled freed _ => freed

structure Sharing where
  pool : Pool
  threads : List Thread
  teardown : Teardown := .ahead
  /-- Buffers reserved so far. -/
  made : Nat := 0
  /-- Buffers counted off one by one so far. -/
  dropped : Nat := 0
deriving DecidableEq, Repr

inductive Sharing.Move where
  /-- An idle thread begins to acquire. -/
  | acquire (thread stage : Nat) (mayWait : Bool)
  /-- An idle thread begins to release one of the buffers it holds. -/
  | release (thread position stage : Nat)
  /-- A thread changes a buffer it holds. -/
  | alter (thread position : Nat) (buffer : Buffer)
  | resume (thread : Nat) (patienceEnded : Bool)
  | tearDown
deriving DecidableEq, Repr

namespace Sharing

/-- A pool configured once, and threads that hold nothing yet. -/
def start (limit : Nat) (kind : Kind) (stages threads : Nat) : Sharing :=
  { pool := (ofLimit limit kind).configure stages, threads := List.replicate threads {} }

def update (sharing : Sharing) (number : Nat) (change : Thread → Thread) : Sharing :=
  { sharing with threads := sharing.threads.modify number change }

def resume (sharing : Sharing) (number : Nat) (patienceEnded : Bool) : Sharing :=
  match sharing.threads[number]? with
  | none => sharing
  | some thread =>
    let (next, pool) := thread.step patienceEnded sharing.pool
    { sharing with
      pool
      threads := sharing.threads.set number next
      made := sharing.made + thread.task.makes sharing.pool
      dropped := sharing.dropped + thread.task.drops }

def move (sharing : Sharing) : Move → Sharing
  | .acquire number stage mayWait =>
    sharing.update number fun thread =>
      if thread.task = .idle then thread.goTo (.asking stage mayWait) else thread
  | .release number position stage =>
    sharing.update number fun thread =>
      match thread.task, thread.held[position]? with
      | .idle, some buffer =>
        { thread with task := .returning stage buffer, held := thread.held.eraseIdx position }
      | _, _ => thread
  | .alter number position buffer =>
    sharing.update number fun thread => { thread with held := thread.held.set position buffer }
  | .resume number patienceEnded => sharing.resume number patienceEnded
  | .tearDown =>
    let (teardown, pool) := sharing.teardown.step sharing.pool
    { sharing with teardown, pool }

def run (sharing : Sharing) (moves : List Move) : Sharing := moves.foldl move sharing

end Sharing

/-! ### Calls without interruption -/

/-- So many steps of a thread with nobody else about. -/
def Thread.steps : Nat → Thread → Pool → Thread × Pool
  | 0, thread, pool => (thread, pool)
  | count + 1, thread, pool =>
    let (thread, pool) := thread.step false pool
    steps count thread pool

def Teardown.steps : Nat → Teardown → Pool → Teardown × Pool
  | 0, teardown, pool => (teardown, pool)
  | count + 1, teardown, pool =>
    let (teardown, pool) := teardown.step pool
    steps count teardown pool

/-- What a thread is after an acquisition that came to this. -/
def Thread.after (thread : Thread) : Option Buffer → Thread
  | some buffer => thread.gain buffer
  | none => thread.fail

theorem Thread.steps_asking (thread : Thread) (stage : Nat) (pool : Pool) :
    (thread.goTo (.asking stage false)).steps 3 pool =
      (thread.after (pool.acquire stage).1, (pool.acquire stage).2) := by
  by_cases hknown : pool.valid ∧ stage < pool.stages.length
  · cases hpop : pool.pop? stage with
    | some popped =>
        obtain ⟨buffer, rest⟩ := popped
        simp [Thread.steps, Thread.step, Thread.goTo, acquire, hknown, hpop, Thread.gain,
          Thread.after]
    | none =>
        by_cases hfirst : stage = 0
        · subst hfirst
          cases hreserve : pool.reserve? with
          | some larger =>
              have hkind : larger.kind = pool.kind := by
                unfold reserve? at hreserve
                split at hreserve
                · cases hreserve
                  rfl
                · cases hreserve
              simp [Thread.steps, Thread.step, Thread.goTo, acquire, hknown, hpop, hreserve,
                Thread.gain, Thread.after, hkind]
          | none =>
              simp [Thread.steps, Thread.step, Thread.goTo, acquire, hknown, hpop, hreserve,
                Thread.fail, Thread.after]
        · simp [Thread.steps, Thread.step, Thread.goTo, acquire, hknown, hpop, hfirst,
            Thread.fail, Thread.after]
  · simp [Thread.steps, Thread.step, Thread.goTo, acquire, hknown, Thread.fail, Thread.after]

theorem Thread.steps_returning (thread : Thread) (stage : Nat) (buffer : Buffer) (pool : Pool) :
    (thread.goTo (.returning stage buffer)).steps 2 pool =
      (thread.goTo .idle, pool.release stage buffer) := by
  by_cases hknown : pool.valid ∧ stage < pool.stages.length
  · simp [Thread.steps, Thread.step, Thread.goTo, release, hknown]
  · simp [Thread.steps, Thread.step, Thread.goTo, release, hknown]

theorem Teardown.steps_emptying (rest : List Nat) (freed : Nat) (pool : Pool) :
    Teardown.steps (rest.length + 1) (.emptying rest freed) pool =
      (.settled (freed + (pool.drainFrom rest).1)
        ((pool.drainFrom rest).2.settle (freed + (pool.drainFrom rest).1)).1,
        ((pool.drainFrom rest).2.settle (freed + (pool.drainFrom rest).1)).2) := by
  induction rest generalizing freed pool with
  | nil => simp [Teardown.steps, Teardown.step, drainFrom, settle]
  | cons stage rest ih =>
      have hstep := ih (freed + (pool.drain stage).1) (pool.drain stage).2
      rw [Nat.add_assoc] at hstep
      exact hstep

theorem Teardown.steps_ahead (pool : Pool) :
    Teardown.steps (pool.stages.length + 2) .ahead pool =
      (.settled (pool.invalidate.drainFrom (List.range pool.stages.length)).1 pool.teardown.1,
        pool.teardown.2) := by
  have hsteps := Teardown.steps_emptying (List.range pool.stages.length) 0 pool.invalidate
  rw [List.length_range, Nat.zero_add] at hsteps
  exact hsteps

end TunerRelay.Pool
