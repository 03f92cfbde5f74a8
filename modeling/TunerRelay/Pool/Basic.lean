import TunerRelay.Pool.Buffer
import TunerRelay.Pool.Fifo

/-!
A bounded set of buffers that travel through stages. A buffer released from one stage is queued in
the next, and from the last one it returns, emptied, to the first. New buffers come into being in
the first stage only, as long as there are fewer than the limit.
-/

namespace TunerRelay

open TunerRelay.Pool (Fifo Buffer Kind)

structure Pool where
  kind : Kind
  /-- Most buffers that may be in existence. -/
  limit : Nat
  /-- Buffers in existence, queued or held by somebody. -/
  elements : Nat := 0
  stages : List (Fifo Buffer) := []
  valid : Bool := false
deriving DecidableEq, Repr

namespace Pool

/-- A pool without stages gives nothing. -/
def ofLimit (limit : Nat) (kind : Kind) : Pool := { kind, limit }

/-- Buffers queued in a stage; none in a stage that does not exist. -/
def queued (pool : Pool) (stage : Nat) : Nat :=
  match pool.stages[stage]? with
  | some fifo => fifo.size
  | none => 0

/-! The single steps, each done under one lock or by one atomic exchange. -/

/-- Takes the buffer at the head of a stage. -/
def pop? (pool : Pool) (stage : Nat) : Option (Buffer × Pool) := do
  let fifo ← pool.stages[stage]?
  let (buffer, rest) ← fifo.pop?
  return (buffer, { pool with stages := pool.stages.set stage rest })

/-- Counts one more buffer, unless the limit is reached. -/
def reserve? (pool : Pool) : Option Pool :=
  if pool.elements < pool.limit then some { pool with elements := pool.elements + 1 } else none

/-- The stage that a buffer released from a stage goes to. -/
def nextStage (pool : Pool) (stage : Nat) : Nat :=
  if stage + 1 = pool.stages.length then 0 else stage + 1

/-- Queues a buffer in the stage after the one it is released from. On its way back to the first
stage it is emptied. -/
def handOn (pool : Pool) (stage : Nat) (buffer : Buffer) : Pool :=
  let next := pool.nextStage stage
  let buffer := if stage + 1 = pool.stages.length then buffer.prepare 0 else buffer
  { pool with stages := pool.stages.modify next fun fifo => fifo.push buffer }

/-- Counts one buffer less, never below zero. -/
def forget (pool : Pool) : Pool := { pool with elements := pool.elements - 1 }

def invalidate (pool : Pool) : Pool := { pool with valid := false }

/-- Empties a stage and counts the buffers freed. -/
def drain (pool : Pool) (stage : Nat) : Nat × Pool :=
  (pool.queued stage, { pool with stages := pool.stages.modify stage fun fifo => fifo.drain.2 })

/-- Forgets all buffers; those that were not freed are outstanding. -/
def settle (pool : Pool) (freed : Nat) : Nat × Pool :=
  (pool.elements - freed, { pool with elements := 0 })

/-! The operations. -/

/-- Takes a buffer from a stage without waiting. -/
def acquire (pool : Pool) (stage : Nat) : Option Buffer × Pool :=
  if pool.valid ∧ stage < pool.stages.length then
    match pool.pop? stage with
    | some (buffer, pool) => (some buffer, pool)
    | none =>
      match if stage = 0 then pool.reserve? else none with
      | some pool => (some (.ofKind pool.kind), pool)
      | none => (none, pool)
  else (none, pool)

/-- Takes a buffer from a stage, if need be after waiting while somebody else uses the pool. A waiter
takes what is queued when it wakes, and no new buffer. -/
def acquireDuring (pool : Pool) (stage : Nat) (meanwhile : Pool → Pool) : Option Buffer × Pool :=
  match pool.acquire stage with
  | (some buffer, pool) => (some buffer, meanwhile pool)
  | (none, pool) =>
    let later := meanwhile pool
    if pool.valid ∧ stage < pool.stages.length then
      match later.pop? stage with
      | some (buffer, later) => (some buffer, later)
      | none => (none, later)
    else (none, later)

/-- Hands a buffer on from a stage. Where there is no such stage any more, the buffer is dropped. -/
def release (pool : Pool) (stage : Nat) (buffer : Buffer) : Pool :=
  if pool.valid ∧ stage < pool.stages.length then pool.handOn stage buffer else pool.forget

/-- Empties the stages from one on, and counts the buffers freed. -/
def drainFrom (pool : Pool) : List Nat → Nat × Pool
  | [] => (0, pool)
  | stage :: rest =>
    let (freed, pool) := pool.drain stage
    let (more, pool) := pool.drainFrom rest
    (freed + more, pool)

/-- Makes the pool useless, frees what is queued, and counts the buffers still held by somebody. -/
def teardown (pool : Pool) : Nat × Pool :=
  let (freed, pool) := pool.invalidate.drainFrom (List.range pool.stages.length)
  pool.settle freed

/-- Starts over with so many stages, all empty. Zero stages are ignored. -/
def configure (pool : Pool) (stages : Nat) : Pool :=
  if stages = 0 then pool
  else { pool.teardown.2 with stages := List.replicate stages {}, valid := true }

end Pool

end TunerRelay
