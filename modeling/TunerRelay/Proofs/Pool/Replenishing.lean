import TunerRelay.Proofs.Pool.Relaying

/-!
# Acquiring after others

What an acquisition finds when others have released buffers before it, or have torn the pool down.
While the limit stays reached, it is what is first to arrive.
-/

namespace TunerRelay.Pool

variable {pool rest : Pool} {stage : Nat} {buffer : Buffer} {calls : List Call}

theorem pop?_eq (pool : Pool) (stage : Nat) :
    pool.pop? stage =
      match pool.queue stage with
      | [] => none
      | buffer :: items =>
        some (buffer, { pool with stages := pool.stages.set stage { toList := items } }) := by
  unfold pop? queue
  cases hstage : pool.stages[stage]? with
  | none => rfl
  | some fifo =>
      obtain ⟨items⟩ := fifo
      cases items <;> rfl

theorem pop?_eq_none_iff : pool.pop? stage = none ↔ pool.queue stage = [] := by
  rw [pop?_eq]
  cases pool.queue stage <;> simp

/-- Whether the first stage has no new buffers to give. Other stages never have any. -/
def Exhausts (pool : Pool) (stage : Nat) : Prop := stage = 0 → pool.limit ≤ pool.elements

theorem reserve?_eq_none (hfull : pool.limit ≤ pool.elements) : pool.reserve? = none :=
  if_neg (Nat.not_lt.mpr hfull)

theorem acquire_of_exhausts (hvalid : pool.valid = true) (hstage : stage < pool.stages.length)
    (hfull : pool.Exhausts stage) :
    pool.acquire stage =
      match pool.pop? stage with
      | some (buffer, rest) => (some buffer, rest)
      | none => (none, pool) := by
  have hreserve : (if stage = 0 then pool.reserve? else none) = none := by
    split
    · exact reserve?_eq_none (hfull ‹_›)
    · rfl
  unfold acquire
  rw [if_pos ⟨hvalid, hstage⟩]
  cases pool.pop? stage with
  | some popped => rfl
  | none => simp only [hreserve]

theorem acquire_fst_of_exhausts (hvalid : pool.valid = true) (hstage : stage < pool.stages.length)
    (hfull : pool.Exhausts stage) : (pool.acquire stage).1 = (pool.queue stage).head? := by
  rw [acquire_of_exhausts hvalid hstage hfull, pop?_eq]
  cases pool.queue stage <;> rfl

/-- Who gets nothing at once found nothing, and nothing could be made. -/
theorem exhausts_of_acquire (hvalid : pool.valid = true) (hstage : stage < pool.stages.length)
    (hnone : (pool.acquire stage).1 = none) : pool.queue stage = [] ∧ pool.Exhausts stage := by
  have hgives := gives_acquire hvalid hstage
  rw [hnone] at hgives
  generalize hnext : (pool.acquire stage).2 = next at hgives
  cases hgives with
  | nothing hqueue hfull => exact ⟨hqueue, hfull⟩

/-! ### After releases -/

/-- Releases from stages that exist. -/
def Call.Releases (length : Nat) : Call → Prop
  | .acquire _ _ => False
  | .release origin _ => origin < length

theorem run_release {origin : Nat} (hvalid : pool.valid = true)
    (horigin : origin < pool.stages.length) :
    (Call.run pool (.release origin buffer)).2 = pool.handOn origin buffer :=
  if_pos ⟨hvalid, horigin⟩

theorem after_append (pool : Pool) (calls more : List Call) :
    pool.after (calls ++ more) = (pool.after calls).after more := List.foldl_append

/-- What releases leave: nothing is different but for what they queue. -/
structure Fed (pool : Pool) (calls : List Call) (next : Pool) : Prop where
  valid : next.valid = true
  length : next.stages.length = pool.stages.length
  limit : next.limit = pool.limit
  elements : next.elements = pool.elements
  queue : ∀ stage, next.queue stage =
    pool.queue stage ++ calls.flatMap (Call.arriving pool.stages.length stage)

theorem Fed.exhausts {next : Pool} (hfed : Fed pool calls next) (hfull : pool.Exhausts stage) :
    next.Exhausts stage := by
  unfold Exhausts
  rw [hfed.limit, hfed.elements]
  exact hfull

theorem fed_run (hvalid : pool.valid = true) {call : Call}
    (hcall : call.Releases pool.stages.length) : Fed pool [call] (call.run pool).2 := by
  cases call with
  | acquire => exact hcall.elim
  | release origin buffer =>
      rw [run_release hvalid hcall]
      refine ⟨hvalid, List.length_modify _ _ _, rfl, rfl, fun stage => ?_⟩
      rw [queue_handOn buffer hcall, List.flatMap_singleton]

theorem fed_after (hvalid : pool.valid = true)
    (hcalls : ∀ call ∈ calls, call.Releases pool.stages.length) :
    Fed pool calls (pool.after calls) := by
  induction calls generalizing pool with
  | nil => exact ⟨hvalid, rfl, rfl, rfl, fun stage => (List.append_nil _).symm⟩
  | cons call more ih =>
      have hrun := fed_run hvalid (hcalls call List.mem_cons_self)
      have hmore : Fed (call.run pool).2 more ((call.run pool).2.after more) :=
        ih hrun.valid fun other hother =>
          hrun.length ▸ hcalls other (List.mem_cons_of_mem _ hother)
      refine ⟨hmore.valid, hmore.length.trans hrun.length, hmore.limit.trans hrun.limit,
        hmore.elements.trans hrun.elements, fun stage => ?_⟩
      change ((call.run pool).2.after more).queue stage = _
      rw [hmore.queue, hrun.queue, hrun.length, List.append_assoc, List.flatMap_singleton,
        List.flatMap_cons]

theorem set_modify_push (fifos : List (Fifo Buffer)) (stage next : Nat) (items : List Buffer) :
    (fifos.modify next fun fifo => fifo.push buffer).set stage
        { toList := items ++ if next = stage then [buffer] else [] } =
      (fifos.set stage { toList := items }).modify next fun fifo => fifo.push buffer := by
  apply List.ext_getElem?
  intro other
  simp only [List.getElem?_set, List.getElem?_modify, List.length_modify]
  by_cases hother : stage = other
  · subst hother
    by_cases hstage : stage < fifos.length
    · by_cases hnext : next = stage <;> simp [hstage, hnext, Fifo.push]
    · simp [hstage]
  · simp [hother]

/-- A buffer that is queued behind makes no difference to who takes the first. -/
theorem pop?_handOn {origin : Nat} {added : Buffer} (horigin : origin < pool.stages.length)
    (hpop : pool.pop? stage = some (buffer, rest)) :
    (pool.handOn origin added).pop? stage = some (buffer, rest.handOn origin added) := by
  rw [pop?_eq] at hpop
  cases hqueue : pool.queue stage with
  | nil => simp [hqueue] at hpop
  | cons head items =>
      simp only [hqueue, Option.some.injEq, Prod.mk.injEq] at hpop
      obtain ⟨rfl, rfl⟩ := hpop
      have hnext : ({ pool with
          stages := pool.stages.set stage { toList := items } } : Pool).nextStage origin =
            pool.nextStage origin := by
        simp only [nextStage, List.length_set]
      rw [pop?_eq, handOn, handOn, queue_push _ (nextStage_lt horigin), hqueue, List.cons_append,
        hnext]
      simp only [List.length_set]
      rw [set_modify_push]

theorem pop?_after (hvalid : pool.valid = true)
    (hcalls : ∀ call ∈ calls, call.Releases pool.stages.length)
    (hpop : pool.pop? stage = some (buffer, rest)) :
    (pool.after calls).pop? stage = some (buffer, rest.after calls) := by
  induction calls generalizing pool rest with
  | nil => exact hpop
  | cons call more ih =>
      cases call with
      | acquire => exact (hcalls _ List.mem_cons_self).elim
      | release origin added =>
          have horigin : origin < pool.stages.length := hcalls _ List.mem_cons_self
          obtain ⟨fifo, remaining, -, -, hrest⟩ := pop?_eq_some hpop
          have hlength : rest.stages.length = pool.stages.length := by
            rw [hrest]
            exact List.length_set
          have hfed : Fed pool [.release origin added]
              (Call.run pool (.release origin added)).2 := fed_run hvalid horigin
          have hnext : rest.after (.release origin added :: more) =
              (rest.handOn origin added).after more := by
            rw [← run_release (hrest ▸ hvalid) (hlength ▸ horigin)]
            rfl
          rw [hnext]
          change ((Call.run pool (.release origin added)).2.after more).pop? stage = _
          refine ih hfed.valid
            (fun other hother => hfed.length ▸ hcalls other (List.mem_cons_of_mem _ hother)) ?_
          rw [run_release hvalid horigin]
          exact pop?_handOn horigin hpop

/-- An acquisition that takes what is queued may as well be made after releases. -/
theorem acquire_after (hvalid : pool.valid = true) (hstage : stage < pool.stages.length)
    (hfull : pool.Exhausts stage) (hcalls : ∀ call ∈ calls, call.Releases pool.stages.length)
    (hacquire : pool.acquire stage = (some buffer, rest)) :
    (pool.after calls).acquire stage = (some buffer, rest.after calls) := by
  have hfed := fed_after hvalid hcalls
  rw [acquire_of_exhausts hvalid hstage hfull] at hacquire
  cases hpop : pool.pop? stage with
  | none =>
      rw [hpop] at hacquire
      cases hacquire
  | some popped =>
      rw [hpop] at hacquire
      cases hacquire
      rw [acquire_of_exhausts hfed.valid (hfed.length ▸ hstage) (hfed.exhausts hfull),
        pop?_after hvalid hcalls hpop]

/-! ### After the teardown -/

theorem queue_drain_eq_nil (drained : Nat) (hqueue : pool.queue stage = []) :
    (pool.drain drained).2.queue stage = [] := by
  unfold drain
  unfold queue at hqueue ⊢
  rw [List.getElem?_modify]
  cases hstage : pool.stages[stage]? with
  | none => simp
  | some fifo =>
      simp only [hstage] at hqueue
      by_cases hdrained : drained = stage
      · simp [hdrained, Fifo.drain]
      · simpa [hdrained] using hqueue

theorem queue_drainFrom_eq_nil {stages : List Nat} (hqueue : pool.queue stage = []) :
    (pool.drainFrom stages).2.queue stage = [] := by
  induction stages generalizing pool with
  | nil => exact hqueue
  | cons drained more ih => exact ih (queue_drain_eq_nil drained hqueue)

theorem acquire_eq_none_of_invalid (hinvalid : pool.valid = false) (stage : Nat) :
    pool.acquire stage = (none, pool) := by
  unfold acquire
  rw [if_neg (by simp [hinvalid])]

theorem valid_drainFrom (pool : Pool) (stages : List Nat) :
    (pool.drainFrom stages).2.valid = pool.valid := by
  induction stages generalizing pool with
  | nil => rfl
  | cons drained more ih => exact ih (pool.drain drained).2

theorem valid_teardown (pool : Pool) : pool.teardown.2.valid = false :=
  valid_drainFrom pool.invalidate (List.range pool.stages.length)

theorem acquire_teardown (pool : Pool) (stage : Nat) :
    pool.teardown.2.acquire stage = (none, pool.teardown.2) :=
  acquire_eq_none_of_invalid (valid_teardown pool) stage

theorem queue_teardown_eq_nil (hqueue : pool.queue stage = []) :
    pool.teardown.2.queue stage = [] := by
  have hdrained : (pool.invalidate.drainFrom (List.range pool.stages.length)).2.queue stage = [] :=
    queue_drainFrom_eq_nil hqueue
  exact hdrained

/-! ### Waiting while others act at one go -/

/-- What a wait comes to when something is done while it lasts. -/
theorem acquireDuring_of_acquire (hvalid : pool.valid = true) (hstage : stage < pool.stages.length)
    (hnone : (pool.acquire stage).1 = none) (meanwhile : Pool → Pool) :
    pool.acquireDuring stage meanwhile =
      match (meanwhile pool).pop? stage with
      | some (buffer, rest) => (some buffer, rest)
      | none => (none, meanwhile pool) := by
  unfold acquireDuring
  cases hacquire : pool.acquire stage with
  | mk answer rest =>
      rw [hacquire] at hnone
      subst hnone
      obtain rfl := acquire_eq_none hacquire
      cases hpop : (meanwhile rest).pop? stage <;>
        simp only [hvalid, hstage, and_self, if_true, hpop]

end TunerRelay.Pool
