import Mathlib
import TunerRelay.Proofs.Pool.Lending

/-!
# Buffers are relayed in order

Each stage of a pool is a queue that is fed from the stage before it, and the first one from the last.
Over any sequence of calls, what was queued in a stage at first and what was released into it since
are, in that order, what was acquired from it and what is still queued there. So no buffer is lost or
doubled on its way, and none overtakes another. A new buffer never comes from a queue.
-/

namespace TunerRelay.Pool

/-- A call of somebody who uses the pool. -/
inductive Call where
  | acquire (stage : Nat) (mayWait : Bool)
  | release (stage : Nat) (buffer : Buffer)
deriving DecidableEq, Repr

def Call.stage : Call → Nat
  | .acquire stage _ | .release stage _ => stage

/-- What a call comes to when no other is made meanwhile: what it obtains, and the pool after it. -/
def Call.run (pool : Pool) : Call → Option Buffer × Pool
  | .acquire stage mayWait =>
    if mayWait then pool.acquireDuring stage id else pool.acquire stage
  | .release stage buffer => (none, pool.release stage buffer)

/-- The buffers queued in a stage, the next to be acquired first. -/
def queue (pool : Pool) (stage : Nat) : List Buffer :=
  match pool.stages[stage]? with
  | some fifo => fifo.toList
  | none => []

/-- The buffer that a call takes out of a stage, if any. One that it makes is counted as one more in
existence, and is not taken out of any. -/
def Call.taken (stage : Nat) (pool : Pool) (call : Call) : List Buffer :=
  match call with
  | .acquire origin _ =>
    if origin = stage ∧ (call.run pool).2.elements = pool.elements then (call.run pool).1.toList
    else []
  | .release _ _ => []

/-- The buffer that a call releases from a stage, if any. -/
def Call.released (stage : Nat) : Call → List Buffer
  | .acquire _ _ => []
  | .release origin buffer => if origin = stage then [buffer] else []

def after (pool : Pool) (calls : List Call) : Pool :=
  calls.foldl (fun pool call => (call.run pool).2) pool

/-- The buffers that calls take out of a stage, in order. -/
def taken (stage : Nat) : Pool → List Call → List Buffer
  | _, [] => []
  | pool, call :: calls => call.taken stage pool ++ taken stage (call.run pool).2 calls

/-- The buffers that calls release from a stage, in order and as they were then. -/
def released (stage : Nat) (calls : List Call) : List Buffer := calls.flatMap (Call.released stage)

/-- What an acquisition gives and leaves: the head of the stage, or else a new buffer, in the first
stage and below the limit only, or else nothing. -/
inductive Gives (pool : Pool) (stage : Nat) : Option Buffer → Pool → Prop where
  | old (buffer : Buffer) (rest : List Buffer) (hqueue : pool.queue stage = buffer :: rest) :
    Gives pool stage (some buffer)
      { pool with stages := pool.stages.set stage { toList := rest } }
  | new (hfirst : stage = 0) (hqueue : pool.queue stage = []) (hroom : pool.elements < pool.limit) :
    Gives pool stage (some (.ofKind pool.kind)) { pool with elements := pool.elements + 1 }
  | nothing (hqueue : pool.queue stage = []) (hfull : stage = 0 → pool.limit ≤ pool.elements) :
    Gives pool stage none pool

variable {pool : Pool} {stage : Nat}

/-! ### One call -/

theorem queue_eq_nil_of_pop? (hpop : pool.pop? stage = none) : pool.queue stage = [] := by
  unfold queue
  cases hstage : pool.stages[stage]? with
  | none => rfl
  | some fifo =>
      cases hfifo : fifo.pop? with
      | none => exact (Fifo.pop?_eq_none_iff fifo).mp hfifo
      | some popped => simp [pop?, hstage, hfifo] at hpop

theorem gives_of_pop? {buffer : Buffer} {rest : Pool}
    (hpop : pool.pop? stage = some (buffer, rest)) : Gives pool stage (some buffer) rest := by
  obtain ⟨fifo, remaining, hstage, hfifo, rfl⟩ := pop?_eq_some hpop
  refine .old buffer remaining.toList ?_
  unfold queue
  rw [hstage]
  exact (Fifo.pop?_eq_some_iff fifo remaining buffer).mp hfifo

theorem gives_acquire (hvalid : pool.valid = true) (hstage : stage < pool.stages.length) :
    Gives pool stage (pool.acquire stage).1 (pool.acquire stage).2 := by
  unfold acquire
  rw [if_pos ⟨hvalid, hstage⟩]
  cases hpop : pool.pop? stage with
  | some popped => exact gives_of_pop? hpop
  | none =>
      have hqueue := queue_eq_nil_of_pop? hpop
      by_cases hfirst : stage = 0
      · by_cases hroom : pool.elements < pool.limit
        · simp only [hfirst, if_true, reserve?, hroom]
          exact .new rfl (hfirst ▸ hqueue) hroom
        · simp only [hfirst, if_true, reserve?, hroom, if_false]
          exact .nothing (hfirst ▸ hqueue) fun _ => Nat.le_of_not_lt hroom
      · simp only [hfirst, if_false]
        exact .nothing hqueue fun heq => absurd heq hfirst

/-- Who waits while nobody else uses the pool waits in vain. -/
theorem acquireDuring_id (pool : Pool) (stage : Nat) :
    pool.acquireDuring stage id = pool.acquire stage := by
  unfold acquireDuring
  cases hacquire : pool.acquire stage with
  | mk answer rest =>
      cases answer with
      | some buffer => rfl
      | none =>
          obtain rfl := acquire_eq_none hacquire
          cases hpop : rest.pop? stage with
          | none => simp [hpop]
          | some popped =>
              by_cases hknown : rest.valid = true ∧ stage < rest.stages.length
              · simp [acquire, hknown, hpop] at hacquire
              · simp only [id, hknown, if_false]

theorem Call.run_acquire (pool : Pool) (stage : Nat) (mayWait : Bool) :
    Call.run pool (.acquire stage mayWait) = pool.acquire stage := by
  cases mayWait with
  | false => rfl
  | true => exact acquireDuring_id pool stage

theorem Call.gives_run (hvalid : pool.valid = true) (hstage : stage < pool.stages.length)
    (mayWait : Bool) :
    Gives pool stage (Call.run pool (.acquire stage mayWait)).1
      (Call.run pool (.acquire stage mayWait)).2 := by
  rw [run_acquire]
  exact gives_acquire hvalid hstage

theorem queue_set_self {items : List Buffer} (hstage : stage < pool.stages.length) :
    ({ pool with stages := pool.stages.set stage { toList := items } } : Pool).queue stage =
      items := by
  simp [queue, hstage]

theorem queue_set_of_ne {items : List Buffer} {other : Nat} (hne : stage ≠ other) :
    ({ pool with stages := pool.stages.set stage { toList := items } } : Pool).queue other =
      pool.queue other := by
  simp [queue, hne]

/-- The buffer that a call queues in a stage of so many, if any. -/
def Call.arriving (length stage : Nat) : Call → List Buffer
  | .acquire _ _ => []
  | .release origin buffer =>
    if origin + 1 = length then (if stage = 0 then [buffer.prepare 0] else [])
    else if origin + 1 = stage then [buffer] else []

theorem queue_push {next : Nat} (buffer : Buffer) (hnext : next < pool.stages.length)
    (stage : Nat) :
    ({ pool with stages := pool.stages.modify next fun fifo => fifo.push buffer } : Pool).queue
      stage = pool.queue stage ++ if next = stage then [buffer] else [] := by
  unfold queue
  rw [List.getElem?_modify]
  by_cases hstage : next = stage
  · subst hstage
    simp [hnext]
  · simp [hstage]

theorem queue_handOn {origin : Nat} (buffer : Buffer) (horigin : origin < pool.stages.length)
    (stage : Nat) :
    (pool.handOn origin buffer).queue stage =
      pool.queue stage ++ (Call.release origin buffer).arriving pool.stages.length stage := by
  unfold handOn
  rw [queue_push _ (nextStage_lt horigin)]
  by_cases hlast : origin + 1 = pool.stages.length
  · simp only [nextStage, Call.arriving, hlast, if_true, eq_comm]
  · simp only [nextStage, Call.arriving, hlast, if_false]

theorem Gives.stages_length {answer : Option Buffer} {next : Pool}
    (hgives : Gives pool stage answer next) :
    next.valid = pool.valid ∧ next.stages.length = pool.stages.length := by
  cases hgives with
  | old => exact ⟨rfl, List.length_set⟩
  | new | nothing => exact ⟨rfl, rfl⟩

/-- What an acquisition takes out of a queue was at its front. -/
theorem Gives.queue_eq {answer : Option Buffer} {next : Pool} (hgives : Gives pool stage answer next)
    (hstage : stage < pool.stages.length) (other : Nat) :
    pool.queue other =
      (if stage = other ∧ next.elements = pool.elements then answer.toList else []) ++
        next.queue other := by
  cases hgives with
  | old buffer rest hqueue =>
      by_cases heq : stage = other
      · subst heq
        rw [queue_set_self hstage, hqueue]
        simp
      · rw [queue_set_of_ne heq]
        simp [heq]
  | new => simp [queue]
  | nothing => simp

/-- A call takes what it takes from the front of a stage, and queues what it queues behind. -/
theorem Call.queue_run (hvalid : pool.valid = true) {call : Call}
    (hcall : call.stage < pool.stages.length) (stage : Nat) :
    pool.queue stage ++ call.arriving pool.stages.length stage =
      call.taken stage pool ++ (call.run pool).2.queue stage := by
  cases call with
  | release origin buffer =>
      simp only [taken, List.nil_append, run, Pool.release]
      rw [if_pos ⟨hvalid, hcall⟩]
      exact (queue_handOn buffer hcall stage).symm
  | acquire origin mayWait =>
      rw [arriving, List.append_nil]
      exact (gives_run hvalid hcall mayWait).queue_eq hcall stage

theorem Call.stages_length_run (hvalid : pool.valid = true) {call : Call}
    (hcall : call.stage < pool.stages.length) :
    (call.run pool).2.valid = true ∧ (call.run pool).2.stages.length = pool.stages.length := by
  cases call with
  | release origin buffer =>
      simp only [run, Pool.release]
      rw [if_pos ⟨hvalid, hcall⟩]
      exact ⟨hvalid, List.length_modify _ _ _⟩
  | acquire origin mayWait =>
      obtain ⟨hnext, hlength⟩ := (gives_run hvalid hcall mayWait).stages_length
      exact ⟨hnext.trans hvalid, hlength⟩

/-! ### A sequence of calls -/

theorem stages_length_after {calls : List Call} (hvalid : pool.valid = true)
    (hknown : ∀ call ∈ calls, call.stage < pool.stages.length) :
    (pool.after calls).valid = true ∧ (pool.after calls).stages.length = pool.stages.length := by
  induction calls generalizing pool with
  | nil => exact ⟨hvalid, rfl⟩
  | cons call rest ih =>
      obtain ⟨hnext, hlength⟩ := Call.stages_length_run hvalid (hknown call List.mem_cons_self)
      rw [← hlength]
      refine ih hnext fun other hother => ?_
      rw [hlength]
      exact hknown other (List.mem_cons_of_mem _ hother)

/-- What was in a stage and what arrived there is what was taken from it and what is left. -/
theorem queue_after {calls : List Call} (hvalid : pool.valid = true)
    (hknown : ∀ call ∈ calls, call.stage < pool.stages.length) (stage : Nat) :
    pool.queue stage ++ calls.flatMap (Call.arriving pool.stages.length stage) =
      pool.taken stage calls ++ (pool.after calls).queue stage := by
  induction calls generalizing pool with
  | nil => simp [taken, after]
  | cons call rest ih =>
      have hcall := hknown call List.mem_cons_self
      obtain ⟨hnext, hlength⟩ := Call.stages_length_run hvalid hcall
      have hrest := ih hnext fun other hother => by
        rw [hlength]
        exact hknown other (List.mem_cons_of_mem _ hother)
      rw [hlength] at hrest
      calc
        _ = (pool.queue stage ++ call.arriving pool.stages.length stage) ++
              rest.flatMap (Call.arriving pool.stages.length stage) := by
            rw [List.flatMap_cons, List.append_assoc]
        _ = call.taken stage pool ++ ((call.run pool).2.queue stage ++
              rest.flatMap (Call.arriving pool.stages.length stage)) := by
            rw [Call.queue_run hvalid hcall, List.append_assoc]
        _ = _ := by
            rw [hrest, taken, List.append_assoc]
            rfl

/-- Into every stage but the first arrives what is released from the stage before. -/
theorem arriving_eq_released {length : Nat} (calls : List Call) (hstage : stage + 1 < length) :
    calls.flatMap (Call.arriving length (stage + 1)) = released stage calls := by
  unfold released
  congr 1
  funext call
  cases call with
  | acquire origin mayWait => rfl
  | release origin buffer =>
      simp only [Call.arriving, Call.released, Nat.add_right_cancel_iff]
      by_cases hsame : origin = stage
      · rw [if_neg (by omega), if_pos hsame]
      · rw [if_neg hsame]
        split <;> simp

/-- Into the first stage arrives, emptied, what is released from the last. -/
theorem arriving_eq_emptied {last : Nat} (calls : List Call) :
    calls.flatMap (Call.arriving (last + 1) 0) =
      (released last calls).map fun buffer => { buffer with valid := 0, byteLength := 0 } := by
  unfold released
  rw [List.map_flatMap]
  congr 1
  funext call
  cases call with
  | acquire origin mayWait => rfl
  | release origin buffer =>
      simp only [Call.arriving, Call.released, Nat.add_right_cancel_iff]
      by_cases hsame : origin = last
      · simp only [hsame, if_true]
        rfl
      · simp [hsame]

/-- **Buffers are relayed in order.** Over any sequence of calls to a working pool: what was queued in
a stage and what was released from the stage before it, as it was then, is what was acquired from the
stage and what is left there. The first stage is fed from the last, with buffers that are as they were
released but for having no valid elements; of a pool with one stage, that is the same stage. An
acquisition gives the head of its stage as long as there is one, and a new buffer in the first stage
alone, where that is empty and the limit has not been reached. -/
theorem relayed_in_order (hvalid : pool.valid = true) {calls : List Call}
    (hknown : ∀ call ∈ calls, call.stage < pool.stages.length) :
    (∀ stage, stage + 1 < pool.stages.length →
      pool.queue (stage + 1) ++ released stage calls =
        pool.taken (stage + 1) calls ++ (pool.after calls).queue (stage + 1)) ∧
    (∀ last, last + 1 = pool.stages.length →
      pool.queue 0 ++
          (released last calls).map (fun buffer => { buffer with valid := 0, byteLength := 0 }) =
        pool.taken 0 calls ++ (pool.after calls).queue 0) ∧
    ∀ earlier stage mayWait later, calls = earlier ++ .acquire stage mayWait :: later →
      let asked := Call.run (pool.after earlier) (.acquire stage mayWait)
      Gives (pool.after earlier) stage asked.1 asked.2 := by
  refine ⟨?_, ?_, ?_⟩
  · intro stage hstage
    rw [← arriving_eq_released calls hstage]
    exact queue_after hvalid hknown (stage + 1)
  · intro last hlast
    rw [← arriving_eq_emptied calls, hlast]
    exact queue_after hvalid hknown 0
  · rintro earlier stage mayWait later rfl asked
    obtain ⟨hnext, hlength⟩ := stages_length_after hvalid fun call hcall =>
      hknown call (List.mem_append_left _ hcall)
    refine Call.gives_run hnext ?_ mayWait
    rw [hlength]
    exact hknown (.acquire stage mayWait) (List.mem_append_right _ List.mem_cons_self)

/-- Two buffers go around a pool of two stages, and the first of them is acquired again, emptied. -/
def roundCalls : List Call :=
  let first := ((Buffer.ofKind .ushort).fill [1, 2, 3]).2
  let second := ((Buffer.ofKind .ushort).fill [4]).2
  [.acquire 0 false, .acquire 0 true, .release 0 first, .release 0 second, .acquire 1 true,
    .release 1 first, .acquire 0 false, .acquire 1 false]

theorem relayed_in_order_round :
    let pool := (ofLimit 2 .ushort).configure 2
    let first := ((Buffer.ofKind .ushort).fill [1, 2, 3]).2
    let second := ((Buffer.ofKind .ushort).fill [4]).2
    pool.valid = true ∧ (∀ call ∈ roundCalls, call.stage < pool.stages.length) ∧
    [first, second] = pool.taken 1 roundCalls ++ (pool.after roundCalls).queue 1 ∧
    [{ first with valid := 0, byteLength := 0 }] =
      pool.taken 0 roundCalls ++ (pool.after roundCalls).queue 0 := by
  have hknown : ∀ call ∈ roundCalls,
      call.stage < ((ofLimit 2 .ushort).configure 2).stages.length := by decide
  obtain ⟨hrelayed, hemptied, -⟩ :=
    relayed_in_order (show ((ofLimit 2 .ushort).configure 2).valid = true from rfl) hknown
  exact ⟨rfl, hknown, hrelayed 0 (by decide), hemptied 1 rfl⟩

end TunerRelay.Pool
