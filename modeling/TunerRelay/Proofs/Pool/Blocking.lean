import TunerRelay.Proofs.Pool.Vigil

/-!
# A wait ends as if it had begun later

Whoever waits for a buffer while others release some, or while the pool is torn down, gets and leaves
what an acquisition would that came after them. Only a call that finds the first stage empty, and tries
for a new buffer when the whole teardown is over, is given one all the same.
-/

namespace TunerRelay.Pool

namespace Vigil

variable {pool : Pool} {stage : Nat} {calls : List Call} {vigil : Vigil}

/-! ### Others release buffers -/

/-- How far a call has come. Until it is over the pool is as the releases have made it; the answer is
what an acquisition gets then, and releases that come later find what that leaves. -/
inductive Served (pool : Pool) (stage : Nat) (vigil : Vigil) : Prop where
  | underWay (htask : vigil.waiter.task.Acquires stage) (hanswers : vigil.waiter.answers = [])
    (hlater : vigil.later = []) (hpool : vigil.pool = pool.after vigil.meanwhile)
  | ended (answer : Option Buffer) (rest : Pool) (htask : vigil.waiter.task = .idle)
    (hanswers : vigil.waiter.answers = [answer])
    (hacquire : (pool.after vigil.meanwhile).acquire stage = (answer, rest))
    (hpool : vigil.pool = rest.after vigil.later)

theorem Served.congr {next : Vigil} (hserved : Served pool stage vigil)
    (hwaiter : next.waiter = vigil.waiter) (hpool : next.pool = vigil.pool)
    (hmeanwhile : next.meanwhile = vigil.meanwhile) (hlater : next.later = vigil.later) :
    Served pool stage next := by
  cases hserved with
  | underWay htask hanswers hnone hkept =>
      exact .underWay (hwaiter ▸ htask) (hwaiter ▸ hanswers) (hlater.trans hnone)
        (hpool.trans (hmeanwhile ▸ hkept))
  | ended answer rest hidle hanswers hacquire hkept =>
      exact .ended answer rest (hwaiter ▸ hidle) (hwaiter ▸ hanswers) (hmeanwhile ▸ hacquire)
        (hpool.trans (hlater ▸ hkept))

/-- How often a release is still to take effect. -/
def owed (call : Call) (helpers : List Helper) : Nat :=
  (helpers.map fun helper => helper.thread.task.pending.count call).sum

/-- A release of somebody else takes effect before the call is over or after it. -/
theorem Served.land (hserved : Served pool stage vigil) {origin : Nat} {buffer : Buffer}
    (hvalid : vigil.pool.valid = true) (horigin : origin < vigil.pool.stages.length)
    (helpers : List Helper) :
    Served pool stage
      (note { vigil with pool := vigil.pool.handOn origin buffer, helpers }
        [.release origin buffer]) := by
  have hafter : vigil.pool.handOn origin buffer = vigil.pool.after [.release origin buffer] :=
    (run_release hvalid horigin).symm
  cases hserved with
  | underWay htask hanswers hlater hpool =>
      simp only [note, answer?, hanswers, List.head?_nil, Option.isNone_none, if_true]
      refine .underWay htask hanswers hlater ?_
      rw [hafter, hpool, ← after_append]
  | ended answer rest hidle hanswers hacquire hpool =>
      simp only [note, answer?, hanswers, List.head?_cons, Option.isNone_some, Bool.false_eq_true,
        if_false]
      refine .ended answer rest hidle hanswers hacquire ?_
      rw [hafter, hpool, ← after_append]

/-- What holds while others release: each release is either still to take effect or has done so, and
a sleeper either has nothing to take or is about to be woken. -/
structure Relieved (pool : Pool) (stage : Nat) (calls : List Call) (vigil : Vigil) : Prop where
  served : Served pool stage vigil
  returns : ∀ helper ∈ vigil.helpers, helper.thread.task.Returns pool.stages.length
  counts : ∀ call,
    (vigil.meanwhile ++ vigil.later).count call + owed call vigil.helpers = calls.count call
  waits : vigil.asleep = true → vigil.waiter.task = .waiting stage
  woken : vigil.asleep = true →
    vigil.pool.queue stage = [] ∨ ∃ helper ∈ vigil.helpers, helper.ringing = some stage

/-- What one step of somebody who releases comes to. -/
inductive Helps (vigil : Vigil) (number : Nat) : Vigil → Prop where
  | rest : Helps vigil number vigil
  | ring (helper : Helper) (target : Nat) (hhelper : vigil.helpers[number]? = some helper)
    (hringing : helper.ringing = some target) :
    Helps vigil number
      { vigil with
        asleep := vigil.asleep && vigil.waiter.task != .waiting target
        helpers := vigil.helpers.set number { helper with ringing := none } }
  | look (helper : Helper) (origin : Nat) (buffer : Buffer)
    (hhelper : vigil.helpers[number]? = some helper) (hringing : helper.ringing = none)
    (htask : helper.thread.task = .returning origin buffer) :
    Helps vigil number
      { vigil with
        helpers := vigil.helpers.set number { thread := helper.thread.goTo (.queueing origin buffer) } }
  | land (helper : Helper) (origin : Nat) (buffer : Buffer)
    (hhelper : vigil.helpers[number]? = some helper) (hringing : helper.ringing = none)
    (htask : helper.thread.task = .queueing origin buffer) (horigin : origin < vigil.pool.stages.length) :
    Helps vigil number
      (note
        { vigil with
          pool := vigil.pool.handOn origin buffer
          helpers := vigil.helpers.set number
            { thread := helper.thread.goTo .idle, ringing := some (vigil.pool.nextStage origin) } }
        [.release origin buffer])

theorem helps_help (hvalid : vigil.pool.valid = true)
    (hreturns : ∀ helper ∈ vigil.helpers, helper.thread.task.Returns vigil.pool.stages.length)
    (number : Nat) : vigil.Helps number (vigil.help number) := by
  cases hhelper : vigil.helpers[number]? with
  | none =>
      simp only [help, hhelper]
      exact .rest
  | some helper =>
      have htask := hreturns helper (List.mem_of_getElem? hhelper)
      cases hringing : helper.ringing with
      | some target =>
          simp only [help, hhelper, hringing]
          exact .ring helper target hhelper hringing
      | none =>
          simp only [help, hhelper, hringing]
          obtain ⟨⟨task, held, answers⟩, ringing⟩ := helper
          cases hringing
          cases htask with
          | returning origin buffer horigin =>
              simp only [Thread.step, hvalid, horigin, and_self, if_true, Task.lands, note_nil]
              exact .look _ origin buffer hhelper rfl rfl
          | queueing origin buffer horigin => exact .land _ origin buffer hhelper rfl rfl horigin
          | idle =>
              obtain ⟨hlt, hself⟩ := List.getElem?_eq_some_iff.mp hhelper
              simp only [Thread.step, Task.lands, note_nil, Task.fills?]
              rw [← hself, List.set_getElem_self]
              exact .rest

theorem owed_set (call : Call) {number : Nat} {helper : Helper} (new : Helper)
    (hhelper : vigil.helpers[number]? = some helper) :
    owed call (vigil.helpers.set number new) + helper.thread.task.pending.count call =
      owed call vigil.helpers + new.thread.task.pending.count call :=
  Lists.sum_map_set (fun helper : Helper => helper.thread.task.pending.count call) new hhelper

theorem owed_set_of_pending (call : Call) {number : Nat} {helper : Helper} (new : Helper)
    (hhelper : vigil.helpers[number]? = some helper)
    (hpending : new.thread.task.pending = helper.thread.task.pending) :
    owed call (vigil.helpers.set number new) = owed call vigil.helpers := by
  have howed := owed_set call new hhelper
  rw [hpending] at howed
  exact Nat.add_right_cancel howed

section Released

variable (hvalid : pool.valid = true) (hstage : stage < pool.stages.length)
  (hfull : pool.Exhausts stage) (hcalls : ∀ call ∈ calls, call.Releases pool.stages.length)

namespace Relieved

/-- What has taken effect is some of what is released. -/
theorem subperm (hrelieved : vigil.Relieved pool stage calls) :
    (vigil.meanwhile ++ vigil.later).Subperm calls := by
  rw [List.subperm_ext_iff]
  intro call _
  have hcount := hrelieved.counts call
  omega

theorem attends (hrelieved : vigil.Relieved pool stage calls) : vigil.Attends stage := by
  refine ⟨?_, hrelieved.waits⟩
  cases hrelieved.served with
  | underWay htask hanswers => exact .inl ⟨htask, hanswers⟩
  | ended answer _ hidle hanswers => exact .inr ⟨hidle, answer, hanswers⟩

include hcalls

theorem releases (hrelieved : vigil.Relieved pool stage calls) :
    ∀ call ∈ vigil.meanwhile ++ vigil.later, call.Releases pool.stages.length :=
  fun call hmem => hcalls call (hrelieved.subperm.subset hmem)

include hvalid

theorem fed (hrelieved : vigil.Relieved pool stage calls) :
    Fed pool vigil.meanwhile (pool.after vigil.meanwhile) :=
  fed_after hvalid fun call hmem =>
    hrelieved.releases hcalls call (List.mem_append_left _ hmem)

/-- What is in the stage has arrived there since the call began. -/
theorem queue_eq (hrelieved : vigil.Relieved pool stage calls) (hempty : pool.queue stage = []) :
    (pool.after vigil.meanwhile).queue stage =
      vigil.meanwhile.flatMap (Call.arriving pool.stages.length stage) := by
  rw [(hrelieved.fed hvalid hcalls).queue, hempty, List.nil_append]

/-- Once a buffer has arrived and nobody is still to wake the waiter, it is awake. -/
theorem awake (hrelieved : vigil.Relieved pool stage calls) (hempty : pool.queue stage = [])
    (hdone : ∀ helper ∈ vigil.helpers, helper.IsDone)
    (harrived : vigil.meanwhile.flatMap (Call.arriving pool.stages.length stage) ≠ []) :
    vigil.asleep = false := by
  refine Bool.eq_false_iff.mpr fun hasleep => ?_
  rcases hrelieved.woken hasleep with hqueue | ⟨helper, hmem, hringing⟩
  · cases hrelieved.served with
    | underWay _ _ _ hpool =>
        rw [hpool, hrelieved.queue_eq hvalid hcalls hempty] at hqueue
        exact harrived hqueue
    | ended _ _ hidle =>
        rw [hrelieved.waits hasleep] at hidle
        cases hidle
  · rw [(hdone helper hmem).2] at hringing
    cases hringing

include hstage

theorem works (hrelieved : vigil.Relieved pool stage calls) :
    vigil.pool.valid = true ∧ vigil.pool.stages.length = pool.stages.length := by
  have hfed := hrelieved.fed hvalid hcalls
  cases hrelieved.served with
  | underWay _ _ _ hpool => exact hpool ▸ ⟨hfed.valid, hfed.length⟩
  | ended answer rest _ _ hacquire hpool =>
      have hgives := gives_acquire hfed.valid (hfed.length ▸ hstage)
      rw [hacquire] at hgives
      obtain ⟨hrest, hlength⟩ := hgives.stages_length
      have hlater := fed_after (hrest.trans hfed.valid) fun call hmem =>
        (hlength.trans hfed.length) ▸ hrelieved.releases hcalls call (List.mem_append_right _ hmem)
      rw [hpool]
      exact ⟨hlater.valid, hlater.length.trans (hlength.trans hfed.length)⟩

theorem help (hrelieved : vigil.Relieved pool stage calls) (number : Nat) :
    (vigil.help number).Relieved pool stage calls := by
  obtain ⟨hworks, hlength⟩ := hrelieved.works hvalid hstage hcalls
  have hhelps := helps_help hworks (hlength ▸ hrelieved.returns) number
  generalize vigil.help number = next at hhelps ⊢
  have hreturns (new : Helper) (hnew : new.thread.task.Returns pool.stages.length) :
      ∀ helper ∈ vigil.helpers.set number new, helper.thread.task.Returns pool.stages.length :=
    fun helper hmem => (List.mem_or_eq_of_mem_set hmem).elim (hrelieved.returns helper)
      fun heq => heq ▸ hnew
  cases hhelps with
  | rest => exact hrelieved
  | ring helper target hhelper hringing =>
      refine ⟨hrelieved.served.congr rfl rfl rfl rfl, ?_, ?_, ?_, ?_⟩
      · exact hreturns _ (hrelieved.returns helper (List.mem_of_getElem? hhelper))
      · intro call
        rw [owed_set_of_pending call { helper with ringing := none } hhelper rfl]
        exact hrelieved.counts call
      · intro hset
        exact hrelieved.waits (Bool.and_eq_true_iff.mp hset).1
      · intro hset
        obtain ⟨hasleep, hother⟩ := Bool.and_eq_true_iff.mp hset
        refine (hrelieved.woken hasleep).imp_right ?_
        refine Lists.exists_mem_set _ hhelper fun htarget => ?_
        rw [hringing, Option.some_inj] at htarget
        simp [hrelieved.waits hasleep, htarget] at hother
  | look helper origin buffer hhelper hringing htask =>
      have htasks := hrelieved.returns helper (List.mem_of_getElem? hhelper)
      rw [htask] at htasks
      cases htasks with
      | returning _ _ horigin =>
          refine ⟨hrelieved.served.congr rfl rfl rfl rfl, ?_, ?_, hrelieved.waits, ?_⟩
          · exact hreturns _ (.queueing origin buffer horigin)
          · intro call
            have howed := owed_set_of_pending call
              { thread := helper.thread.goTo (.queueing origin buffer) } hhelper (htask ▸ rfl)
            rw [howed]
            exact hrelieved.counts call
          · intro hasleep
            refine (hrelieved.woken hasleep).imp_right ?_
            exact Lists.exists_mem_set _ hhelper (by simp [hringing])
  | land helper origin buffer hhelper hringing htask horigin =>
      refine ⟨hrelieved.served.land hworks horigin _, ?_, ?_, ?_, ?_⟩
      · rw [helpers_note]
        exact hreturns _ .idle
      · intro call
        have hcount := hrelieved.counts call
        have howed := owed_set call
          { thread := helper.thread.goTo .idle, ringing := some (vigil.pool.nextStage origin) } hhelper
        rw [htask] at howed
        rw [helpers_note, count_note]
        simp only [Thread.goTo, Task.pending, List.count_nil] at hcount howed ⊢
        omega
      · rw [waiter_note, asleep_note]
        exact hrelieved.waits
      · rw [asleep_note, helpers_note, pool_note]
        intro hasleep
        rcases hrelieved.woken hasleep with hqueue | hringer
        · by_cases htarget : vigil.pool.nextStage origin = stage
          · exact .inr ⟨_, List.mem_set (List.getElem?_eq_some_iff.mp hhelper).1 _,
              congrArg some htarget⟩
          · refine .inl ?_
            change (vigil.pool.handOn origin buffer).queue stage = []
            rw [handOn, queue_push _ (nextStage_lt horigin), hqueue, if_neg htarget]
            rfl
        · exact .inr (Lists.exists_mem_set _ hhelper (by simp [hringing]) hringer)

include hfull

theorem proceed (hrelieved : vigil.Relieved pool stage calls) (patienceEnded : Bool) :
    (vigil.proceed patienceEnded).Relieved pool stage calls := by
  cases hasleep : vigil.asleep with
  | true =>
      rw [proceed_of_asleep hasleep]
      exact hrelieved
  | false =>
      cases hserved : hrelieved.served with
      | ended _ _ hidle =>
          rw [proceed_of_idle hidle hasleep]
          exact hrelieved
      | underWay htask hanswers hlater hpool =>
          have hfed := hrelieved.fed hvalid hcalls
          have hstage' : stage < (pool.after vigil.meanwhile).stages.length := hfed.length ▸ hstage
          have hacquire := acquire_of_exhausts hfed.valid hstage' (hfed.exhausts hfull)
          have hproceeds := proceeds_proceed hasleep htask patienceEnded
          generalize vigil.proceed patienceEnded = next at hproceeds ⊢
          have hawake {claim : Prop} (hset : vigil.asleep = true) : claim :=
            absurd hset (Bool.eq_false_iff.mp hasleep)
          cases hproceeds with
          | on task hnext =>
              exact ⟨.underWay hnext hanswers hlater hpool, hrelieved.returns, hrelieved.counts,
                hawake, hawake⟩
          | stay hwaiting _ _ hqueue =>
              exact ⟨.underWay htask hanswers hlater hpool, hrelieved.returns, hrelieved.counts,
                fun _ => hwaiting, fun _ => .inl hqueue⟩
          | pop buffer rest hpop =>
              rw [hpool] at hpop
              rw [hpop] at hacquire
              refine ⟨.ended (some buffer) rest rfl ?_ hacquire ?_, hrelieved.returns,
                hrelieved.counts, hawake, hawake⟩
              · simp only [Thread.gain, hanswers]
              · rw [hlater]
                rfl
          | make larger _ hfirst hreserve =>
              rw [hpool, reserve?_eq_none (hfed.exhausts hfull hfirst)] at hreserve
              cases hreserve
          | fail hvain =>
              rw [hpool] at hvain
              rw [pop?_eq_none_iff.mpr (hvain hfed.valid hstage')] at hacquire
              refine ⟨.ended none _ rfl ?_ hacquire ?_, hrelieved.returns,
                hrelieved.counts, hawake, hawake⟩
              · simp only [Thread.fail, hanswers]
              · rw [hlater]
                exact hpool

theorem move (hrelieved : vigil.Relieved pool stage calls) {move : Move}
    (hmove : move ≠ .tearDown) : (vigil.move move).Relieved pool stage calls := by
  cases move with
  | proceed patienceEnded => exact hrelieved.proceed hvalid hstage hfull hcalls patienceEnded
  | rouse =>
      exact ⟨hrelieved.served.congr rfl rfl rfl rfl, hrelieved.returns, hrelieved.counts,
        fun hset => absurd hset Bool.false_ne_true, fun hset => absurd hset Bool.false_ne_true⟩
  | help number => exact hrelieved.help hvalid hstage hcalls number
  | tearDown => exact absurd rfl hmove

theorem run (hrelieved : vigil.Relieved pool stage calls) {moves : List Move}
    (hmoves : .tearDown ∉ moves) : (vigil.run moves).Relieved pool stage calls := by
  induction moves generalizing vigil with
  | nil => exact hrelieved
  | cons move more ih =>
      rw [List.mem_cons, not_or] at hmoves
      exact ih (hrelieved.move hvalid hstage hfull hcalls (Ne.symm hmoves.1)) hmoves.2

/-- The answer is the first buffer that arrived. Releases since then make no difference to who gets
it. -/
theorem answer (hrelieved : vigil.Relieved pool stage calls) (hempty : pool.queue stage = [])
    {answer : Option Buffer} (hanswer : vigil.answer? = some answer) :
    answer = (vigil.meanwhile.flatMap (Call.arriving pool.stages.length stage)).head? ∧
      (∃ rest, (pool.after vigil.meanwhile).acquire stage = (answer, rest) ∧
        vigil.pool = rest.after vigil.later) ∧
      (answer ≠ none →
        (pool.after (vigil.meanwhile ++ vigil.later)).acquire stage = (answer, vigil.pool)) := by
  have hfed := hrelieved.fed hvalid hcalls
  have hstage' : stage < (pool.after vigil.meanwhile).stages.length := hfed.length ▸ hstage
  cases hrelieved.served with
  | underWay _ hanswers => simp [answer?, hanswers] at hanswer
  | ended given rest _ hanswers hacquire hpool =>
      obtain rfl : given = answer := by simpa [answer?, hanswers] using hanswer
      refine ⟨?_, ⟨rest, hacquire, hpool⟩, fun hsome => ?_⟩
      · rw [← hrelieved.queue_eq hvalid hcalls hempty,
          ← acquire_fst_of_exhausts hfed.valid hstage' (hfed.exhausts hfull), hacquire]
      · obtain ⟨buffer, rfl⟩ := Option.ne_none_iff_exists'.mp hsome
        rw [after_append, hpool]
        refine acquire_after hfed.valid hstage' (hfed.exhausts hfull) (fun call hmem => ?_) hacquire
        rw [hfed.length]
        exact hrelieved.releases hcalls call (List.mem_append_right _ hmem)

/-- No buffer that has arrived is missed. -/
theorem answered (hrelieved : vigil.Relieved pool stage calls) (hempty : pool.queue stage = [])
    (hdone : ∀ helper ∈ vigil.helpers, helper.IsDone)
    (harrived : vigil.meanwhile.flatMap (Call.arriving pool.stages.length stage) ≠ [])
    {more : List Move} (hmore : .tearDown ∉ more) (hmany : 4 ≤ more.countP Move.isProceed) :
    ∃ buffer, (vigil.run more).answer? = some (some buffer) := by
  let Holds (vigil : Vigil) : Prop := vigil.Relieved pool stage calls ∧
    (∀ helper ∈ vigil.helpers, helper.IsDone) ∧
    vigil.meanwhile.flatMap (Call.arriving pool.stages.length stage) ≠ []
  have hkeeps : ∀ vigil move, Holds vigil → move ≠ .tearDown → Holds (vigil.move move) := by
    rintro vigil move ⟨hrelieved, hdone, harrived⟩ hmove
    refine ⟨hrelieved.move hvalid hstage hfull hcalls hmove, ?_⟩
    cases move with
    | proceed patienceEnded =>
        change (∀ helper ∈ (vigil.proceed patienceEnded).helpers, helper.IsDone) ∧
          (vigil.proceed patienceEnded).meanwhile.flatMap _ ≠ []
        rw [helpers_proceed, meanwhile_proceed]
        exact ⟨hdone, harrived⟩
    | rouse => exact ⟨hdone, harrived⟩
    | help number =>
        rw [show vigil.move (.help number) = vigil from help_of_done hdone number]
        exact ⟨hdone, harrived⟩
    | tearDown => exact absurd rfl hmove
  obtain ⟨⟨hrun, -, hkept⟩, answer, hanswer⟩ :=
    answered_run Holds (· ≠ .tearDown) hkeeps (fun _ hholds => hholds.1.attends)
      (fun _ hholds => hholds.1.awake hvalid hcalls hempty hholds.2.1 hholds.2.2)
      (fun move hmem hmove => hmore (hmove ▸ hmem)) ⟨hrelieved, hdone, harrived⟩
      (Nat.le_trans (Task.distance_le _) hmany)
  rw [hanswer, (hrun.answer hvalid hstage hfull hcalls hempty hanswer).1]
  obtain ⟨buffer, others, harriving⟩ := List.exists_cons_of_ne_nil hkept
  exact ⟨buffer, by rw [harriving, List.head?_cons]⟩

end Relieved

/-- When the releases are over, all have taken effect. -/
theorem Relieved.perm (hrelieved : vigil.Relieved pool stage calls)
    (hdone : ∀ helper ∈ vigil.helpers, helper.IsDone) :
    (vigil.meanwhile ++ vigil.later).Perm calls := by
  rw [List.perm_iff_count]
  intro call
  have hcount := hrelieved.counts call
  have howed : owed call vigil.helpers = 0 := by
    refine List.sum_eq_zero fun weight hweight => ?_
    obtain ⟨helper, hhelper, rfl⟩ := List.mem_map.mp hweight
    rw [(hdone helper hhelper).1]
    rfl
  omega

theorem relieved_start (releases : List (Nat × Buffer))
    (hknown : ∀ release ∈ releases, release.1 < pool.stages.length) :
    (start pool stage releases).Relieved pool stage
      (releases.map fun release => .release release.1 release.2) := by
  refine ⟨.underWay .asking rfl rfl rfl, ?_, ?_, fun hset => absurd hset Bool.false_ne_true,
    fun hset => absurd hset Bool.false_ne_true⟩
  · intro helper hhelper
    obtain ⟨release, hrelease, rfl⟩ := List.mem_map.mp hhelper
    exact .returning _ _ (hknown release hrelease)
  · intro call
    simp only [start, List.append_nil, List.count_nil, Nat.zero_add]
    clear hknown
    induction releases with
    | nil => rfl
    | cons release more ih =>
        rw [List.map_cons, List.map_cons, List.count_cons, ← ih]
        simp [owed, Helper.ofRelease, Task.pending, List.count_singleton]
        omega

end Released

/-! ### Another tears the pool down -/

/-- How far the teardown has come of a pool that nobody else changes. -/
inductive Fading (pool : Pool) (stage : Nat) : Teardown → Pool → Prop where
  | ahead : Fading pool stage .ahead pool
  | emptying (rest : List Nat) (freed : Nat) (now : Pool) (hinvalid : now.valid = false)
    (hqueue : now.queue stage = []) (hfull : now.Exhausts stage)
    (hsettles : (now.drainFrom rest).2.settle (freed + (now.drainFrom rest).1) = pool.teardown) :
    Fading pool stage (.emptying rest freed) now
  | settled (freed outstanding : Nat) : Fading pool stage (.settled freed outstanding) pool.teardown.2

namespace Fading

variable {teardown : Teardown} {now : Pool}

theorem step (hfading : Fading pool stage teardown now) (hempty : pool.queue stage = [])
    (hfull : pool.Exhausts stage) :
    Fading pool stage (teardown.step now).1 (teardown.step now).2 := by
  cases hfading with
  | ahead =>
      refine .emptying _ 0 _ rfl hempty hfull ?_
      rw [Nat.zero_add]
      rfl
  | emptying rest freed _ hinvalid hqueue hkept hsettles =>
      cases rest with
      | nil =>
          have hlast : now.settle freed = pool.teardown := hsettles
          simp only [Teardown.step, hlast]
          exact .settled freed _
      | cons drained rest =>
          refine .emptying rest _ _ hinvalid (queue_drain_eq_nil drained hqueue) hkept ?_
          rw [Nat.add_assoc]
          exact hsettles
  | settled freed outstanding => exact .settled freed outstanding

theorem queue_eq_nil (hfading : Fading pool stage teardown now) (hempty : pool.queue stage = []) :
    now.queue stage = [] := by
  cases hfading with
  | ahead => exact hempty
  | emptying _ _ _ _ hqueue => exact hqueue
  | settled => exact queue_teardown_eq_nil hempty

theorem eq_ahead_of_valid (hfading : Fading pool stage teardown now) (hvalid : now.valid = true) :
    teardown = .ahead := by
  cases hfading with
  | ahead => rfl
  | emptying _ _ _ hinvalid => simp [hvalid] at hinvalid
  | settled => simp [valid_teardown] at hvalid

theorem eq_teardown_of_settled (hfading : Fading pool stage teardown now)
    (hsettled : ∃ freed outstanding, teardown = .settled freed outstanding) :
    now = pool.teardown.2 := by
  obtain ⟨freed, outstanding, rfl⟩ := hsettled
  cases hfading
  rfl

/-- New buffers are there again when the counter has been exchanged. -/
theorem settled_of_reserve? {larger : Pool} (hfading : Fading pool stage teardown now)
    (hfull : pool.Exhausts stage) (hfirst : stage = 0) (hreserve : now.reserve? = some larger) :
    (∃ freed outstanding, teardown = .settled freed outstanding) ∧ now = pool.teardown.2 := by
  cases hfading with
  | ahead =>
      rw [reserve?_eq_none (hfull hfirst)] at hreserve
      cases hreserve
  | emptying _ _ _ _ _ hkept =>
      rw [reserve?_eq_none (hkept hfirst)] at hreserve
      cases hreserve
  | settled freed outstanding => exact ⟨⟨freed, outstanding, rfl⟩, rfl⟩

/-- A stage that is still to be emptied is emptied in the end. -/
theorem empties?_step (hfading : Fading pool stage teardown now) (hstage : stage < pool.stages.length)
    (hcoming : teardown = .ahead ∨ ∃ rest freed, teardown = .emptying rest freed ∧ stage ∈ rest) :
    (∃ rest freed, (teardown.step now).1 = .emptying rest freed ∧ stage ∈ rest) ∨
      teardown.empties? = some stage := by
  cases hfading with
  | ahead => exact .inl ⟨_, 0, rfl, List.mem_range.mpr hstage⟩
  | emptying =>
      rcases hcoming with hahead | ⟨rest, freed, heq, hmem⟩
      · cases hahead
      · cases heq
        cases hmem with
        | head => exact .inr rfl
        | tail _ hmem => exact .inl ⟨_, _, rfl, hmem⟩
  | settled =>
      rcases hcoming with hahead | ⟨_, _, heq, -⟩
      · cases hahead
      · cases heq

end Fading

theorem empties?_eq_none_of_settled {teardown : Teardown} {now : Pool} {freed outstanding : Nat}
    (hsettled : (teardown.step now).1 = .settled freed outstanding) :
    teardown.empties? = none := by
  cases teardown with
  | ahead | settled => rfl
  | emptying rest freed =>
      cases rest with
      | nil => rfl
      | cons => cases hsettled

/-- The teardown has exchanged the counter. -/
def Settled (vigil : Vigil) : Prop :=
  ∃ freed outstanding, vigil.teardown = .settled freed outstanding

/-- The call has obtained nothing, and the pool is as the teardown has made it. -/
def Denied (pool : Pool) (stage : Nat) (vigil : Vigil) : Prop :=
  Fading pool stage vigil.teardown vigil.pool ∧ ∀ answer, vigil.answer? = some answer → answer = none

/-- The call came to reserve a new buffer when the teardown was over, and never waited. -/
structure Strays (pool : Pool) (stage : Nat) (vigil : Vigil) : Prop where
  waited : vigil.waited = false
  first : stage = 0
  settled : vigil.Settled
  answer : ∃ buffer, vigil.answer? = some (some buffer)
  pool : pool.teardown.2.reserve? = some vigil.pool

theorem Strays.congr {next : Vigil} (hstrays : vigil.Strays pool stage)
    (hwaited : next.waited = vigil.waited) (hteardown : next.teardown = vigil.teardown)
    (hanswer : next.answer? = vigil.answer?) (hpool : next.pool = vigil.pool) :
    next.Strays pool stage where
  waited := hwaited.trans hstrays.waited
  first := hstrays.first
  settled := hstrays.settled.imp fun _ => Exists.imp fun _ => hteardown.trans
  answer := hstrays.answer.imp fun _ => hanswer.trans
  pool := hpool ▸ hstrays.pool

/-- What holds while another tears the pool down: a sleeper is still to be woken. -/
structure Torn (pool : Pool) (stage : Nat) (vigil : Vigil) : Prop where
  alone : vigil.helpers = []
  attends : vigil.Attends stage
  outcome : vigil.Denied pool stage ∨ vigil.Strays pool stage
  came : vigil.waited = true → vigil.waiter.task = .waiting stage ∨ vigil.waiter.task = .idle
  woken : vigil.asleep = true → vigil.teardown = .ahead ∨
    (∃ rest freed, vigil.teardown = .emptying rest freed ∧ stage ∈ rest) ∨
    vigil.ringing = some stage
  quiet : vigil.Settled → vigil.ringing = none

theorem answer?_of_answers {answers : List (Option Buffer)} (hanswers : vigil.waiter.answers = answers) :
    vigil.answer? = answers.head? := congrArg List.head? hanswers

namespace Torn

theorem fading (htorn : vigil.Torn pool stage) (hnone : vigil.answer? = none) :
    Fading pool stage vigil.teardown vigil.pool := by
  rcases htorn.outcome with ⟨hfading, -⟩ | hstrays
  · exact hfading
  · obtain ⟨buffer, hanswer⟩ := hstrays.answer
    rw [hnone] at hanswer
    cases hanswer

theorem proceed (htorn : vigil.Torn pool stage) (hempty : pool.queue stage = [])
    (hfull : pool.Exhausts stage) (patienceEnded : Bool) :
    (vigil.proceed patienceEnded).Torn pool stage := by
  have hattends := htorn.attends.proceed patienceEnded
  cases hasleep : vigil.asleep with
  | true =>
      rw [proceed_of_asleep hasleep]
      exact htorn
  | false =>
      rcases htorn.attends.standing with ⟨htask, hanswers⟩ | ⟨hidle, -⟩
      · have hproceeds := proceeds_proceed hasleep htask patienceEnded
        generalize vigil.proceed patienceEnded = next at hproceeds hattends ⊢
        have hnone : vigil.answer? = none := answer?_of_answers hanswers
        have hfading := htorn.fading hnone
        have hawake {claim : Prop} (hset : vigil.asleep = true) : claim :=
          absurd hset (Bool.eq_false_iff.mp hasleep)
        have hunanswered : ∀ answer, vigil.answer? = some answer → answer = none :=
          fun answer hanswer => by
            rw [hnone] at hanswer
            cases hanswer
        cases hproceeds with
        | on task hnext hcloser =>
            refine ⟨htorn.alone, hattends, .inl ⟨hfading, hunanswered⟩, fun hcame => .inl ?_,
              hawake, htorn.quiet⟩
            rcases Bool.or_eq_true_iff.mp hcame with hwaited | hwaits
            · rcases htorn.came hwaited with hwaiting | hidle
              · rw [hwaiting] at hcloser
                exact absurd hcloser (Nat.not_lt.mpr hnext.distance_pos)
              · rw [hidle] at htask
                cases htask
            · exact hnext.eq_waiting hwaits
        | stay hwaiting _ hvalid =>
            exact ⟨htorn.alone, hattends, .inl ⟨hfading, hunanswered⟩, fun _ => .inl hwaiting,
              fun _ => .inl (hfading.eq_ahead_of_valid hvalid), htorn.quiet⟩
        | pop buffer rest hpop =>
            rw [pop?_eq_none_iff.mpr (hfading.queue_eq_nil hempty)] at hpop
            cases hpop
        | make larger hreserving hfirst hreserve =>
            obtain ⟨hsettled, hpool⟩ := hfading.settled_of_reserve? hfull hfirst hreserve
            have hwaited : vigil.waited = false := Bool.eq_false_iff.mpr fun hcame => by
              rcases htorn.came hcame with htask' | htask' <;>
                rw [hreserving] at htask' <;> cases htask'
            exact ⟨htorn.alone, hattends,
              .inr ⟨hwaited, hfirst, hsettled, ⟨.ofKind larger.kind, rfl⟩, hpool ▸ hreserve⟩,
              fun _ => .inr rfl, hawake, htorn.quiet⟩
        | fail =>
            refine ⟨htorn.alone, hattends, .inl ⟨hfading, fun answer hanswer => ?_⟩,
              fun _ => .inr rfl, hawake, htorn.quiet⟩
            exact (Option.some.inj hanswer).symm
      · rw [proceed_of_idle hidle hasleep]
        exact htorn

theorem tearDown (htorn : vigil.Torn pool stage) (hstage : stage < pool.stages.length)
    (hempty : pool.queue stage = []) (hfull : pool.Exhausts stage) :
    vigil.tearDown.Torn pool stage := by
  have hattends := htorn.attends.move .tearDown
  change vigil.tearDown.Attends stage at hattends
  unfold Vigil.tearDown at hattends ⊢
  cases hringing : vigil.ringing with
  | some target =>
      simp only [hringing] at hattends ⊢
      refine ⟨htorn.alone, hattends, ?_, htorn.came, fun hset => ?_, fun _ => rfl⟩
      · exact htorn.outcome.imp id fun hstrays => hstrays.congr rfl rfl rfl rfl
      · obtain ⟨hasleep, hother⟩ := Bool.and_eq_true_iff.mp hset
        rcases htorn.woken hasleep with hahead | hcoming | hrings
        · exact .inl hahead
        · exact .inr (.inl hcoming)
        · rw [hringing, Option.some_inj] at hrings
          simp [htorn.attends.waits hasleep, hrings] at hother
  | none =>
      simp only [hringing] at hattends ⊢
      refine ⟨htorn.alone, hattends, ?_, htorn.came, fun hasleep => .inr ?_, ?_⟩
      · rcases htorn.outcome with ⟨hfading, hnone⟩ | hstrays
        · exact .inl ⟨hfading.step hempty hfull, hnone⟩
        · obtain ⟨freed, outstanding, hsettled⟩ := hstrays.settled
          refine .inr ⟨hstrays.waited, hstrays.first, ⟨freed, outstanding, ?_⟩, hstrays.answer, ?_⟩
          · simp only [hsettled, Teardown.step]
          · simp only [hsettled, Teardown.step]
            exact hstrays.pool
      · have hcoming : vigil.teardown = .ahead ∨
            ∃ rest freed, vigil.teardown = .emptying rest freed ∧ stage ∈ rest := by
          rcases htorn.woken hasleep with hahead | hcoming | hrings
          · exact .inl hahead
          · exact .inr hcoming
          · rw [hringing] at hrings
            cases hrings
        rcases htorn.outcome with ⟨hfading, -⟩ | hstrays
        · exact hfading.empties?_step hstage hcoming
        · obtain ⟨freed, outstanding, hsettled⟩ := hstrays.settled
          simp [hsettled] at hcoming
      · rintro ⟨freed, outstanding, hsettled⟩
        exact empties?_eq_none_of_settled hsettled

theorem move (htorn : vigil.Torn pool stage) (hstage : stage < pool.stages.length)
    (hempty : pool.queue stage = []) (hfull : pool.Exhausts stage) (move : Move) :
    (vigil.move move).Torn pool stage := by
  cases move with
  | proceed patienceEnded => exact htorn.proceed hempty hfull patienceEnded
  | rouse =>
      refine ⟨htorn.alone, htorn.attends.move .rouse, ?_, htorn.came,
        fun hset => absurd hset Bool.false_ne_true, htorn.quiet⟩
      exact htorn.outcome.imp id fun hstrays => hstrays.congr rfl rfl rfl rfl
  | help number =>
      have hnobody : ∀ helper ∈ vigil.helpers, helper.IsDone := by simp [htorn.alone]
      rw [show vigil.move (.help number) = vigil from help_of_done hnobody number]
      exact htorn
  | tearDown => exact htorn.tearDown hstage hempty hfull

theorem run (htorn : vigil.Torn pool stage) (hstage : stage < pool.stages.length)
    (hempty : pool.queue stage = []) (hfull : pool.Exhausts stage) (moves : List Move) :
    (vigil.run moves).Torn pool stage := by
  induction moves generalizing vigil with
  | nil => exact htorn
  | cons move more ih => exact ih (htorn.move hstage hempty hfull move)

theorem settled_move (htorn : vigil.Torn pool stage) (hsettled : vigil.Settled) (move : Move) :
    (vigil.move move).Settled := by
  cases move with
  | proceed patienceEnded =>
      obtain ⟨freed, outstanding, hteardown⟩ := hsettled
      exact ⟨freed, outstanding, (teardown_proceed patienceEnded).trans hteardown⟩
  | rouse => exact hsettled
  | help number =>
      have hnobody : ∀ helper ∈ vigil.helpers, helper.IsDone := by simp [htorn.alone]
      rw [show vigil.move (.help number) = vigil from help_of_done hnobody number]
      exact hsettled
  | tearDown =>
      obtain ⟨freed, outstanding, hteardown⟩ := hsettled
      refine ⟨freed, outstanding, ?_⟩
      change vigil.tearDown.teardown = _
      simp only [Vigil.tearDown, htorn.quiet ⟨freed, outstanding, hteardown⟩, hteardown,
        Teardown.step]

/-- Nobody sleeps on when the teardown is over. -/
theorem awake (htorn : vigil.Torn pool stage) (hsettled : vigil.Settled) :
    vigil.asleep = false := by
  refine Bool.eq_false_iff.mpr fun hasleep => ?_
  have hquiet := htorn.quiet hsettled
  obtain ⟨freed, outstanding, hteardown⟩ := hsettled
  have hwoken := htorn.woken hasleep
  simp [hteardown, hquiet] at hwoken

theorem answered (htorn : vigil.Torn pool stage) (hstage : stage < pool.stages.length)
    (hempty : pool.queue stage = []) (hfull : pool.Exhausts stage) (hsettled : vigil.Settled)
    {more : List Move} (hmany : 4 ≤ more.countP Move.isProceed) :
    ∃ answer, (vigil.run more).answer? = some answer :=
  (answered_run (fun vigil => vigil.Torn pool stage ∧ vigil.Settled) (fun _ => True)
    (fun _ move hholds _ =>
      ⟨hholds.1.move hstage hempty hfull move, hholds.1.settled_move hholds.2 move⟩)
    (fun _ hholds => hholds.1.attends) (fun _ hholds => hholds.1.awake hholds.2)
    (fun _ _ => trivial) ⟨htorn, hsettled⟩ (Nat.le_trans (Task.distance_le _) hmany)).2

theorem start : (Vigil.start pool stage []).Torn pool stage where
  alone := rfl
  attends := attends_start pool stage []
  outcome := .inl ⟨.ahead, fun _ hanswer => by cases hanswer⟩
  came := fun hcame => absurd hcame Bool.false_ne_true
  woken := fun hset => absurd hset Bool.false_ne_true
  quiet := fun ⟨_, _, hsettled⟩ => by cases hsettled

end Torn

end Vigil

/-! ### Waiting -/

open Vigil

/-- **A wait ends as if it had begun later.** Take a working pool and a stage from which nothing can be
had at once. Whoever waits there while others release buffers gets the first that arrives in the
stage, if one does, and leaves what an acquisition leaves that is made after those releases; when
all happens at one go, and just so when the releases are cut into their steps and these fall anywhere
between the steps of the wait. Releases that take effect after the answer may as well be put before
it, if a buffer was given. No buffer that arrives is missed, whether or not the waiter slept: once
the releases are over, four steps of its own at most are left to it. When the pool is torn down,
whoever has come to wait gets nothing and leaves what the teardown leaves. A call in the first stage
that has yet to try for a new buffer when the teardown is over never waits, and may obtain one. When
its patience has ended a wait ends, whatever others do. -/
theorem blocked_acquire_comes_after {pool : Pool} {stage : Nat} (hvalid : pool.valid = true)
    (hstage : stage < pool.stages.length) (hnone : (pool.acquire stage).1 = none) :
    let arriving := List.flatMap (Call.arriving pool.stages.length stage)
    (∀ releases : List (Nat × Buffer), (∀ release ∈ releases, release.1 < pool.stages.length) →
      let calls := releases.map fun release => Call.release release.1 release.2
      (pool.acquireDuring stage (·.after calls) = (pool.after calls).acquire stage ∧
        ((pool.after calls).acquire stage).1 = (arriving calls).head?) ∧
      ∀ moves, .tearDown ∉ moves →
        let vigil := (start pool stage releases).run moves
        let isDone := ∀ helper ∈ vigil.helpers, helper.IsDone
        (vigil.meanwhile ++ vigil.later).Subperm calls ∧
        (isDone → (vigil.meanwhile ++ vigil.later).Perm calls) ∧
        (∀ answer, vigil.answer? = some answer →
          answer = (arriving vigil.meanwhile).head? ∧
          (∃ rest, (pool.after vigil.meanwhile).acquire stage = (answer, rest) ∧
            vigil.pool = rest.after vigil.later) ∧
          (answer ≠ none →
            (pool.after (vigil.meanwhile ++ vigil.later)).acquire stage = (answer, vigil.pool))) ∧
        (isDone → arriving vigil.meanwhile ≠ [] → ∀ more, .tearDown ∉ more →
          4 ≤ more.countP Move.isProceed →
          ∃ buffer, (vigil.run more).answer? = some (some buffer))) ∧
    (pool.acquireDuring stage (·.teardown.2) = pool.teardown.2.acquire stage ∧
      pool.teardown.2.acquire stage = (none, pool.teardown.2) ∧
      ∀ moves,
        let vigil := (start pool stage []).run moves
        ((∀ answer, vigil.answer? = some answer → answer = none) ∧
            (vigil.Settled → vigil.pool = pool.teardown.2) ∨
          stage = 0 ∧ vigil.waited = false ∧ vigil.Settled ∧
            (∃ buffer, vigil.answer? = some (some buffer)) ∧
            pool.teardown.2.reserve? = some vigil.pool) ∧
        (vigil.Settled → ∀ more, 4 ≤ more.countP Move.isProceed →
          ∃ answer, (vigil.run more).answer? = some answer)) ∧
    ∀ releases moves more, .proceed false ∉ more → 4 ≤ more.countP Move.isProceed →
      ∃ answer, (((start pool stage releases).run moves).run (.rouse :: more)).answer? =
        some answer := by
  obtain ⟨hempty, hfull⟩ := exhausts_of_acquire hvalid hstage hnone
  refine ⟨fun releases hknown => ?_, ⟨?_, acquire_teardown pool stage, fun moves => ?_⟩, ?_⟩
  · have hcalls : ∀ call ∈ releases.map fun release => Call.release release.1 release.2,
        call.Releases pool.stages.length := by
      intro call hcall
      obtain ⟨release, hrelease, rfl⟩ := List.mem_map.mp hcall
      exact hknown release hrelease
    have hfed := fed_after hvalid hcalls
    have hstage' : stage < (pool.after _).stages.length := hfed.length ▸ hstage
    refine ⟨⟨?_, ?_⟩, fun moves hmoves => ?_⟩
    · rw [acquireDuring_of_acquire hvalid hstage hnone,
        acquire_of_exhausts hfed.valid hstage' (hfed.exhausts hfull)]
    · rw [acquire_fst_of_exhausts hfed.valid hstage' (hfed.exhausts hfull), hfed.queue, hempty,
        List.nil_append]
    · have hrelieved := (relieved_start releases hknown).run hvalid hstage hfull hcalls hmoves
      exact ⟨hrelieved.subperm, hrelieved.perm,
        fun answer => hrelieved.answer hvalid hstage hfull hcalls hempty,
        fun hdone harrived more hmore =>
          hrelieved.answered hvalid hstage hfull hcalls hempty hdone harrived hmore⟩
  · rw [acquireDuring_of_acquire hvalid hstage hnone,
      pop?_eq_none_iff.mpr (queue_teardown_eq_nil hempty), acquire_teardown]
  · have htorn := Torn.start.run hstage hempty hfull moves
    refine ⟨?_, fun hsettled more => htorn.answered hstage hempty hfull hsettled⟩
    rcases htorn.outcome with ⟨hfading, hdenied⟩ | hstrays
    · exact .inl ⟨hdenied, hfading.eq_teardown_of_settled⟩
    · exact .inr ⟨hstrays.first, hstrays.waited, hstrays.settled, hstrays.answer, hstrays.pool⟩
  · intro releases moves more hpatience hmany
    exact ((attends_start pool stage releases).run moves).answered_of_patience hpatience hmany

/-- The only buffer of a pool comes back to the first stage while somebody sleeps there. -/
def wakingMoves : List Vigil.Move :=
  [.proceed false, .proceed false, .proceed false, .proceed false, .help 0, .help 0, .help 0]

theorem blocked_acquire_comes_after_woken :
    let pool := (((ofLimit 1 .ushort).configure 2).acquire 0).2
    let buffer := ((Buffer.ofKind .ushort).fill [1, 2, 3]).2
    let vigil := (start pool 0 [(1, buffer)]).run wakingMoves
    pool.valid = true ∧ 0 < pool.stages.length ∧ (pool.acquire 0).1 = none ∧
    ((start pool 0 [(1, buffer)]).run (wakingMoves.take 4)).asleep = true ∧
    (pool.acquireDuring 0 (·.after [.release 1 buffer])).1 =
      some { buffer with valid := 0, byteLength := 0 } ∧
    (∃ given, (vigil.run (List.replicate 4 (.proceed false))).answer? = some (some given)) ∧
    (pool.acquireDuring 0 (·.teardown.2)).1 = none := by
  intro pool buffer vigil
  have hnone : (pool.acquire 0).1 = none := by decide
  obtain ⟨hreleased, ⟨htorn, hnothing, -⟩, -⟩ :=
    @blocked_acquire_comes_after pool 0 rfl (by decide) hnone
  obtain ⟨⟨hsame, hfirst⟩, hruns⟩ := hreleased [(1, buffer)] (by decide)
  obtain ⟨-, -, -, hmissed⟩ := hruns wakingMoves (by decide)
  refine ⟨rfl, by decide, hnone, by decide, ?_, ?_, ?_⟩
  · exact (congrArg Prod.fst hsame).trans (hfirst.trans (by decide))
  · exact hmissed (by decide) (by decide) _ (by decide) (by decide)
  · rw [htorn, hnothing]

/-- A call has found the first stage empty. Before it tries for a new buffer the pool is torn down. -/
def tornMoves : List Vigil.Move :=
  List.replicate 2 (.proceed false) ++ List.replicate 6 .tearDown

/-- The call is given a buffer of the pool that is gone, and one that comes after the teardown is
not. -/
theorem torn_pool_gives_buffer :
    let pool := (((ofLimit 1 .ushort).configure 2).acquire 0).2
    let torn := (start pool 0 []).run tornMoves
    let vigil := torn.move (.proceed false)
    (pool.valid = true ∧ 0 < pool.stages.length ∧ (pool.acquire 0).1 = none) ∧
    (torn.Settled ∧ torn.pool = pool.teardown.2 ∧ torn.answer? = none) ∧
    (vigil.answer? = some (some (.ofKind .ushort)) ∧ vigil.pool.elements = 1) ∧
    pool.teardown.2.acquire 0 = (none, pool.teardown.2) ∧ pool.teardown.2.elements = 0 :=
  ⟨⟨rfl, by decide, rfl⟩, ⟨⟨0, 1, rfl⟩, rfl, rfl⟩, ⟨rfl, rfl⟩, rfl, rfl⟩

end TunerRelay.Pool
