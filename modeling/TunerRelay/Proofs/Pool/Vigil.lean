import TunerRelay.Proofs.Pool.Replenishing
import TunerRelay.Proofs.Pool.Sharing

/-!
# Waiting for a buffer

One thread acquires and is ready to wait, while others release buffers or one tears the pool down.
Who waits looks at its stage under the lock and falls asleep without anything between the two; whoever
queues a buffer in a stage or empties it gives the lock back first and wakes the waiters of the stage
in a step of its own. A waiter may also wake for no reason, and its patience may end.
-/

namespace TunerRelay.Pool

def Task.waits : Task → Bool
  | .waiting _ => true
  | _ => false

/-- The release that the next step makes take effect, if any. -/
def Task.lands : Task → List Call
  | .queueing origin buffer => [.release origin buffer]
  | _ => []

/-- The stage in which the next step queues a buffer, if any. -/
def Task.fills? (pool : Pool) : Task → Option Nat
  | .queueing origin _ => some (pool.nextStage origin)
  | _ => none

/-- The stage that the next step empties, if any. -/
def Teardown.empties? : Teardown → Option Nat
  | .emptying (stage :: _) _ => some stage
  | _ => none

/-- A thread that releases a buffer. -/
structure Helper where
  thread : Thread
  /-- The stage whose waiters it is about to wake. -/
  ringing : Option Nat := none
deriving DecidableEq, Repr

def Helper.ofRelease (origin : Nat) (buffer : Buffer) : Helper :=
  { thread := { task := .returning origin buffer } }

def Helper.IsDone (helper : Helper) : Prop := helper.thread.task = .idle ∧ helper.ringing = none

instance (helper : Helper) : Decidable helper.IsDone := inferInstanceAs (Decidable (_ ∧ _))

structure Vigil where
  pool : Pool
  waiter : Thread
  asleep : Bool := false
  /-- Whether the waiter has come to wait. -/
  waited : Bool := false
  helpers : List Helper := []
  teardown : Teardown := .ahead
  /-- The stage whose waiters the teardown is about to wake. -/
  ringing : Option Nat := none
  /-- The releases that have taken effect before the waiter had its answer, and those since. -/
  meanwhile : List Call := []
  later : List Call := []
deriving DecidableEq, Repr

inductive Vigil.Move where
  /-- The waiter takes its next step, unless it sleeps. -/
  | proceed (patienceEnded : Bool)
  /-- The waiter wakes with nobody waking it. -/
  | rouse
  | help (number : Nat)
  | tearDown
deriving DecidableEq, Repr

namespace Vigil

/-- A call that acquires from a stage and may wait, and others that are about to release. -/
def start (pool : Pool) (stage : Nat) (releases : List (Nat × Buffer)) : Vigil where
  pool := pool
  waiter := { task := .asking stage true }
  helpers := releases.map fun release => .ofRelease release.1 release.2

/-- What the call came to, once it is over. -/
def answer? (vigil : Vigil) : Option (Option Buffer) := vigil.waiter.answers.head?

/-- Wakes who waits at a stage. -/
def ring (vigil : Vigil) (stage : Nat) : Vigil :=
  { vigil with asleep := vigil.asleep && vigil.waiter.task != .waiting stage }

/-- Who still waits after it has looked at its stage falls asleep. -/
def proceed (vigil : Vigil) (patienceEnded : Bool) : Vigil :=
  if vigil.asleep then vigil
  else
    let (waiter, pool) := vigil.waiter.step patienceEnded vigil.pool
    { vigil with
      pool
      waiter
      asleep := vigil.waiter.task.waits && waiter.task.waits
      waited := vigil.waited || waiter.task.waits }

def note (vigil : Vigil) (calls : List Call) : Vigil :=
  if vigil.answer?.isNone then { vigil with meanwhile := vigil.meanwhile ++ calls }
  else { vigil with later := vigil.later ++ calls }

def help (vigil : Vigil) (number : Nat) : Vigil :=
  match vigil.helpers[number]? with
  | none => vigil
  | some helper =>
    match helper.ringing with
    | some stage =>
      let helpers := vigil.helpers.set number { helper with ringing := none }
      { vigil with helpers }.ring stage
    | none =>
      let (thread, pool) := helper.thread.step false vigil.pool
      let ringing := helper.thread.task.fills? vigil.pool
      let helpers := vigil.helpers.set number { thread, ringing }
      { vigil with pool, helpers }.note helper.thread.task.lands

def tearDown (vigil : Vigil) : Vigil :=
  match vigil.ringing with
  | some stage => { vigil with ringing := none }.ring stage
  | none =>
    let (teardown, pool) := vigil.teardown.step vigil.pool
    { vigil with pool, teardown, ringing := vigil.teardown.empties? }

def move (vigil : Vigil) : Move → Vigil
  | .proceed patienceEnded => vigil.proceed patienceEnded
  | .rouse => { vigil with asleep := false }
  | .help number => vigil.help number
  | .tearDown => vigil.tearDown

def run (vigil : Vigil) (moves : List Move) : Vigil := moves.foldl move vigil

end Vigil

def Vigil.Move.isProceed : Vigil.Move → Bool
  | .proceed _ => true
  | _ => false

/-! ### One step of who acquires -/

/-- The most steps that a call which acquires takes without falling asleep. -/
def Task.distance : Task → Nat
  | .asking _ _ => 4
  | .taking _ _ => 3
  | .reserving _ => 2
  | .waiting _ => 1
  | _ => 0

theorem Task.distance_le (task : Task) : task.distance ≤ 4 := by
  unfold distance
  split <;> decide

/-- Where a call that acquires from a stage and may wait can stand. -/
inductive Task.Acquires (stage : Nat) : Task → Prop where
  | asking : Acquires stage (.asking stage true)
  | taking : Acquires stage (.taking stage true)
  | reserving (hfirst : stage = 0) : Acquires stage (.reserving true)
  | waiting : Acquires stage (.waiting stage)

theorem Task.Acquires.distance_pos {stage : Nat} {task : Task} (htask : task.Acquires stage) :
    0 < task.distance := by
  cases htask <;> simp [distance]

theorem Task.Acquires.eq_waiting {stage : Nat} {task : Task} (htask : task.Acquires stage)
    (hwaits : task.waits = true) : task = .waiting stage := by
  cases htask <;> first | rfl | cases hwaits

/-- What one step of such a call comes to. -/
inductive Thread.Advances (thread : Thread) (patienceEnded : Bool) (pool : Pool) (stage : Nat) :
    Thread × Pool → Prop where
  | on (task : Task) (htask : task.Acquires stage)
    (hcloser : task.distance < thread.task.distance) :
    Advances thread patienceEnded pool stage (thread.goTo task, pool)
  | stay (htask : thread.task = .waiting stage) (hpatience : patienceEnded = false)
    (hvalid : pool.valid = true) (hqueue : pool.queue stage = []) :
    Advances thread patienceEnded pool stage (thread, pool)
  | pop (buffer : Buffer) (rest : Pool) (hpop : pool.pop? stage = some (buffer, rest)) :
    Advances thread patienceEnded pool stage (thread.gain buffer, rest)
  | make (larger : Pool) (htask : thread.task = .reserving true) (hfirst : stage = 0)
    (hreserve : pool.reserve? = some larger) :
    Advances thread patienceEnded pool stage (thread.gain (.ofKind larger.kind), larger)
  | fail (hvain : pool.valid = true → stage < pool.stages.length → pool.queue stage = []) :
    Advances thread patienceEnded pool stage (thread.fail, pool)

theorem Thread.advances_step {thread : Thread} {stage : Nat} (htask : thread.task.Acquires stage)
    (patienceEnded : Bool) (pool : Pool) :
    thread.Advances patienceEnded pool stage (thread.step patienceEnded pool) := by
  obtain ⟨task, held, answers⟩ := thread
  cases htask with
  | asking =>
      by_cases hknown : pool.valid ∧ stage < pool.stages.length
      · simp only [step, hknown, and_self, if_true]
        exact .on _ .taking (by simp [Task.distance])
      · simp only [step, hknown, if_false]
        exact .fail fun hvalid hstage => absurd ⟨hvalid, hstage⟩ hknown
  | taking =>
      cases hpop : pool.pop? stage with
      | some popped =>
          simp only [step, hpop]
          exact .pop _ _ hpop
      | none =>
          by_cases hfirst : stage = 0
          · subst hfirst
            simp only [step, hpop, if_true]
            exact .on _ (.reserving rfl) (by simp [Task.distance])
          · simp only [step, hpop, hfirst, if_false, if_true]
            exact .on _ .waiting (by simp [Task.distance])
  | reserving hfirst =>
      subst hfirst
      cases hreserve : pool.reserve? with
      | some larger =>
          simp only [step, hreserve]
          exact .make _ rfl rfl hreserve
      | none =>
          simp only [step, hreserve, if_true]
          exact .on _ .waiting (by simp [Task.distance])
  | waiting =>
      cases hpop : pool.pop? stage with
      | some popped =>
          simp only [step, hpop]
          exact .pop _ _ hpop
      | none =>
          have hqueue := pop?_eq_none_iff.mp hpop
          by_cases hstays : pool.valid ∧ !patienceEnded
          · simp only [step, hpop, hstays, and_self, if_true]
            exact .stay rfl (by simpa using hstays.2) hstays.1 hqueue
          · simp only [step, hpop, hstays, if_false]
            exact .fail fun _ _ => hqueue

/-! ### One step of who releases -/

/-- Who releases is about to look at the pool, or about to queue the buffer, or done. -/
inductive Task.Returns (length : Nat) : Task → Prop where
  | returning (origin : Nat) (buffer : Buffer) (horigin : origin < length) :
    Returns length (.returning origin buffer)
  | queueing (origin : Nat) (buffer : Buffer) (horigin : origin < length) :
    Returns length (.queueing origin buffer)
  | idle : Returns length .idle

/-- The release that is still to take effect, if any. -/
def Task.pending : Task → List Call
  | .returning origin buffer | .queueing origin buffer => [.release origin buffer]
  | _ => []

namespace Vigil

variable {stage : Nat} {vigil : Vigil}

/-! ### One call that acquires -/

/-- The call is under way, or over with one answer; it sleeps only while it waits at its stage. -/
structure Attends (stage : Nat) (vigil : Vigil) : Prop where
  standing : (vigil.waiter.task.Acquires stage ∧ vigil.waiter.answers = []) ∨
    vigil.waiter.task = .idle ∧ ∃ answer, vigil.waiter.answers = [answer]
  waits : vigil.asleep = true → vigil.waiter.task = .waiting stage

theorem proceed_of_asleep (hasleep : vigil.asleep = true) (patienceEnded : Bool) :
    vigil.proceed patienceEnded = vigil :=
  if_pos hasleep

theorem proceed_of_awake (hawake : vigil.asleep = false) (patienceEnded : Bool) :
    vigil.proceed patienceEnded =
      { vigil with
        pool := (vigil.waiter.step patienceEnded vigil.pool).2
        waiter := (vigil.waiter.step patienceEnded vigil.pool).1
        asleep := vigil.waiter.task.waits &&
          (vigil.waiter.step patienceEnded vigil.pool).1.task.waits
        waited := vigil.waited || (vigil.waiter.step patienceEnded vigil.pool).1.task.waits } := by
  simp only [proceed, hawake, Bool.false_eq_true, if_false]

theorem proceed_of_idle (hidle : vigil.waiter.task = .idle) (hawake : vigil.asleep = false)
    (patienceEnded : Bool) : vigil.proceed patienceEnded = vigil := by
  have hstep : vigil.waiter.step patienceEnded vigil.pool = (vigil.waiter, vigil.pool) := by
    simp only [Thread.step, hidle]
  have hwaits : vigil.waiter.task.waits = false := by
    rw [hidle]
    rfl
  rw [proceed_of_awake hawake, hstep]
  simp only [hwaits, Bool.and_false, Bool.or_false]
  cases vigil
  cases hawake
  rfl

/-- The next step of who is awake and not done. -/
inductive Proceeds (stage : Nat) (patienceEnded : Bool) (vigil : Vigil) : Vigil → Prop where
  | on (task : Task) (htask : task.Acquires stage)
    (hcloser : task.distance < vigil.waiter.task.distance) :
    Proceeds stage patienceEnded vigil
      { vigil with waiter := vigil.waiter.goTo task, waited := vigil.waited || task.waits }
  | stay (htask : vigil.waiter.task = .waiting stage) (hpatience : patienceEnded = false)
    (hvalid : vigil.pool.valid = true) (hqueue : vigil.pool.queue stage = []) :
    Proceeds stage patienceEnded vigil { vigil with asleep := true, waited := true }
  | pop (buffer : Buffer) (rest : Pool) (hpop : vigil.pool.pop? stage = some (buffer, rest)) :
    Proceeds stage patienceEnded vigil
      { vigil with pool := rest, waiter := vigil.waiter.gain buffer }
  | make (larger : Pool) (htask : vigil.waiter.task = .reserving true) (hfirst : stage = 0)
    (hreserve : vigil.pool.reserve? = some larger) :
    Proceeds stage patienceEnded vigil
      { vigil with pool := larger, waiter := vigil.waiter.gain (.ofKind larger.kind) }
  | fail (hvain : vigil.pool.valid = true → stage < vigil.pool.stages.length →
      vigil.pool.queue stage = []) :
    Proceeds stage patienceEnded vigil { vigil with waiter := vigil.waiter.fail }

theorem proceeds_proceed (hawake : vigil.asleep = false)
    (htask : vigil.waiter.task.Acquires stage) (patienceEnded : Bool) :
    vigil.Proceeds stage patienceEnded (vigil.proceed patienceEnded) := by
  rw [proceed_of_awake hawake]
  have hadvances := Thread.advances_step htask patienceEnded vigil.pool
  generalize vigil.waiter.step patienceEnded vigil.pool = next at hadvances
  obtain ⟨pool, waiter, asleep, waited⟩ := vigil
  cases hawake
  cases hadvances with
  | on task hnext hcloser =>
      have hpasses : waiter.task.waits = true → task.waits = true → False := fun hwaits _ => by
        rw [htask.eq_waiting hwaits] at hcloser
        exact absurd hcloser (Nat.not_lt.mpr hnext.distance_pos)
      have hasleep : (waiter.task.waits && (waiter.goTo task).task.waits) = false := by
        rw [Bool.and_eq_false_iff]
        simpa [Thread.goTo, imp_iff_not_or] using hpasses
      simp only [hasleep]
      exact .on task hnext hcloser
  | stay hwaiting hpatience hvalid hqueue =>
      have hwaits : waiter.task.waits = true := by
        rw [show waiter.task = .waiting stage from hwaiting]
        rfl
      simp only [hwaits, Bool.and_self, Bool.or_true]
      exact .stay hwaiting hpatience hvalid hqueue
  | pop buffer rest hpop =>
      simp only [Thread.gain, Task.waits, Bool.and_false, Bool.or_false]
      exact .pop buffer rest hpop
  | make larger hreserving hfirst hreserve =>
      simp only [Thread.gain, Task.waits, Bool.and_false, Bool.or_false]
      exact .make larger hreserving hfirst hreserve
  | fail hvain =>
      simp only [Thread.fail, Task.waits, Bool.and_false, Bool.or_false]
      exact .fail hvain

theorem Attends.proceed (hattends : vigil.Attends stage) (patienceEnded : Bool) :
    (vigil.proceed patienceEnded).Attends stage := by
  cases hasleep : vigil.asleep with
  | true =>
      rw [proceed_of_asleep hasleep]
      exact hattends
  | false =>
      rcases hattends.standing with ⟨htask, hanswers⟩ | ⟨hidle, -⟩
      · have hawake : ¬ vigil.asleep = true := Bool.eq_false_iff.mp hasleep
        have hproceeds := proceeds_proceed hasleep htask patienceEnded
        generalize vigil.proceed patienceEnded = next at hproceeds ⊢
        cases hproceeds with
        | on task hnext => exact ⟨.inl ⟨hnext, hanswers⟩, (absurd · hawake)⟩
        | stay hwaiting => exact ⟨.inl ⟨htask, hanswers⟩, fun _ => hwaiting⟩
        | pop buffer rest =>
            refine ⟨.inr ⟨rfl, some buffer, ?_⟩, (absurd · hawake)⟩
            simp only [Thread.gain, hanswers]
        | make larger =>
            refine ⟨.inr ⟨rfl, some (.ofKind larger.kind), ?_⟩, (absurd · hawake)⟩
            simp only [Thread.gain, hanswers]
        | fail =>
            refine ⟨.inr ⟨rfl, none, ?_⟩, (absurd · hawake)⟩
            simp only [Thread.fail, hanswers]
      · rw [proceed_of_idle hidle hasleep]
        exact hattends

/-! ### Steps of others -/

section Note

variable (noted : List Call)

@[simp]
theorem waiter_note : (vigil.note noted).waiter = vigil.waiter := by
  unfold note
  split <;> rfl

@[simp]
theorem asleep_note : (vigil.note noted).asleep = vigil.asleep := by
  unfold note
  split <;> rfl

@[simp]
theorem helpers_note : (vigil.note noted).helpers = vigil.helpers := by
  unfold note
  split <;> rfl

@[simp]
theorem pool_note : (vigil.note noted).pool = vigil.pool := by
  unfold note
  split <;> rfl

@[simp]
theorem note_nil (vigil : Vigil) : vigil.note [] = vigil := by
  unfold note
  split <;> simp only [List.append_nil]

theorem count_note (call : Call) :
    ((vigil.note noted).meanwhile ++ (vigil.note noted).later).count call =
      (vigil.meanwhile ++ vigil.later).count call + noted.count call := by
  unfold note
  split
  · simp only [List.count_append]
    omega
  · simp only [List.count_append]
    omega

end Note

/-- No one else moves the waiter, except that it may wake. -/
theorem waiter_help (number : Nat) : (vigil.help number).waiter = vigil.waiter ∧
    ((vigil.help number).asleep = true → vigil.asleep = true) := by
  unfold help
  split
  · exact ⟨rfl, id⟩
  · split
    · refine ⟨rfl, fun hset => ?_⟩
      exact (Bool.and_eq_true_iff.mp hset).1
    · rw [waiter_note, asleep_note]
      exact ⟨rfl, id⟩

theorem waiter_tearDown : vigil.tearDown.waiter = vigil.waiter ∧
    (vigil.tearDown.asleep = true → vigil.asleep = true) := by
  unfold tearDown
  split
  · refine ⟨rfl, fun hset => ?_⟩
    exact (Bool.and_eq_true_iff.mp hset).1
  · exact ⟨rfl, id⟩

theorem waiter_move (vigil : Vigil) {move : Move} (hmove : move.isProceed = false) :
    (vigil.move move).waiter = vigil.waiter ∧
      ((vigil.move move).asleep = true → vigil.asleep = true) := by
  cases move with
  | proceed => cases hmove
  | rouse => exact ⟨rfl, fun hset => by cases hset⟩
  | help number => exact waiter_help number
  | tearDown => exact waiter_tearDown

theorem Attends.move (hattends : vigil.Attends stage) (move : Move) :
    (vigil.move move).Attends stage := by
  cases hproceed : move.isProceed with
  | true =>
      cases move with
      | proceed patienceEnded => exact hattends.proceed patienceEnded
      | rouse | help | tearDown => cases hproceed
  | false =>
      obtain ⟨hwaiter, hasleep⟩ := waiter_move vigil hproceed
      refine ⟨hwaiter ▸ hattends.standing, fun hset => ?_⟩
      rw [hwaiter]
      exact hattends.waits (hasleep hset)

theorem helpers_proceed (patienceEnded : Bool) :
    (vigil.proceed patienceEnded).helpers = vigil.helpers := by
  unfold proceed
  split <;> rfl

theorem meanwhile_proceed (patienceEnded : Bool) :
    (vigil.proceed patienceEnded).meanwhile = vigil.meanwhile := by
  unfold proceed
  split <;> rfl

theorem teardown_proceed (patienceEnded : Bool) :
    (vigil.proceed patienceEnded).teardown = vigil.teardown := by
  unfold proceed
  split <;> rfl

theorem help_of_done (hdone : ∀ helper ∈ vigil.helpers, helper.IsDone) (number : Nat) :
    vigil.help number = vigil := by
  cases hhelper : vigil.helpers[number]? with
  | none => simp only [help, hhelper]
  | some helper =>
      obtain ⟨hidle, hringing⟩ := hdone helper (List.mem_of_getElem? hhelper)
      obtain ⟨hlt, hself⟩ := List.getElem?_eq_some_iff.mp hhelper
      obtain ⟨thread, ringing⟩ := helper
      cases hringing
      simp only at hidle
      simp only [help, hhelper, Thread.step, hidle, Task.lands, Task.fills?, note_nil]
      rw [← hself, List.set_getElem_self]

/-! ### How soon a call ends -/

/-- Whoever is awake after a step of its own is closer to the end. -/
theorem Attends.distance_move (hattends : vigil.Attends stage) (move : Move)
    (hawake : (vigil.move move).asleep = false) :
    (vigil.move move).waiter.task.distance ≤
      vigil.waiter.task.distance - if move.isProceed then 1 else 0 := by
  cases hproceed : move.isProceed with
  | false => simp [(waiter_move vigil hproceed).1]
  | true =>
      cases move with
      | rouse | help | tearDown => cases hproceed
      | proceed patienceEnded =>
          cases hasleep : vigil.asleep with
          | true =>
              rw [show vigil.move (.proceed patienceEnded) = vigil from
                proceed_of_asleep hasleep patienceEnded, hasleep] at hawake
              cases hawake
          | false =>
              change (vigil.proceed patienceEnded).asleep = false at hawake
              change (vigil.proceed patienceEnded).waiter.task.distance ≤ _
              rcases hattends.standing with ⟨htask, -⟩ | ⟨hidle, -⟩
              · have hproceeds := proceeds_proceed hasleep htask patienceEnded
                generalize vigil.proceed patienceEnded = next at hproceeds hawake ⊢
                cases hproceeds with
                | on task _ hcloser => exact Nat.le_sub_one_of_lt hcloser
                | stay => cases hawake
                | pop | make | fail => exact Nat.zero_le _
              · rw [proceed_of_idle hidle hasleep, hidle]
                exact Nat.zero_le _

/-- A call that no move lets sleep ends within its steps. -/
theorem answered_run (Holds : Vigil → Prop) (Allowed : Move → Prop)
    (hkeeps : ∀ vigil move, Holds vigil → Allowed move → Holds (vigil.move move))
    (hattends : ∀ vigil, Holds vigil → vigil.Attends stage)
    (hawake : ∀ vigil, Holds vigil → vigil.asleep = false) {moves : List Move}
    (hallowed : ∀ move ∈ moves, Allowed move) (hholds : Holds vigil)
    (hmany : vigil.waiter.task.distance ≤ moves.countP Move.isProceed) :
    Holds (vigil.run moves) ∧ ∃ answer, (vigil.run moves).answer? = some answer := by
  induction moves generalizing vigil with
  | nil =>
      refine ⟨hholds, ?_⟩
      rcases (hattends vigil hholds).standing with ⟨htask, -⟩ | ⟨-, answer, hanswers⟩
      · exact absurd htask.distance_pos (Nat.not_lt.mpr hmany)
      · exact ⟨answer, congrArg List.head? hanswers⟩
  | cons move more ih =>
      have hnext := hkeeps vigil move hholds (hallowed move List.mem_cons_self)
      refine ih (fun other hother => hallowed other (List.mem_cons_of_mem _ hother)) hnext ?_
      have hcloser := (hattends vigil hholds).distance_move move (hawake _ hnext)
      rw [List.countP_cons] at hmany
      omega

theorem attends_start (pool : Pool) (stage : Nat) (releases : List (Nat × Buffer)) :
    (start pool stage releases).Attends stage :=
  ⟨.inl ⟨.asking, rfl⟩, fun hset => by cases hset⟩

theorem Attends.run (hattends : vigil.Attends stage) (moves : List Move) :
    (vigil.run moves).Attends stage := by
  induction moves generalizing vigil with
  | nil => exact hattends
  | cons move more ih => exact ih (hattends.move move)

theorem Attends.awake_proceed (hattends : vigil.Attends stage) (hawake : vigil.asleep = false) :
    (vigil.proceed true).asleep = false := by
  rcases hattends.standing with ⟨htask, -⟩ | ⟨hidle, -⟩
  · have hproceeds := proceeds_proceed hawake htask true
    generalize vigil.proceed true = next at hproceeds ⊢
    cases hproceeds with
    | stay _ hpatience => cases hpatience
    | on | pop | make | fail => exact hawake
  · rw [proceed_of_idle hidle hawake, hawake]

/-- When its patience has ended a call ends, whatever others do. -/
theorem Attends.answered_of_patience (hattends : vigil.Attends stage) {moves : List Move}
    (hpatience : .proceed false ∉ moves) (hmany : 4 ≤ moves.countP Move.isProceed) :
    ∃ answer, ((vigil.move .rouse).run moves).answer? = some answer := by
  refine (answered_run (fun vigil => vigil.Attends stage ∧ vigil.asleep = false)
    (· ≠ .proceed false) ?_ (fun _ => And.left) (fun _ => And.right)
    (fun move hmem hmove => hpatience (hmove ▸ hmem)) ⟨hattends.move .rouse, rfl⟩
    (Nat.le_trans (Task.distance_le _) hmany)).2
  rintro vigil move ⟨hattends, hawake⟩ hmove
  refine ⟨hattends.move move, ?_⟩
  cases move with
  | proceed patienceEnded =>
      cases patienceEnded with
      | false => exact absurd rfl hmove
      | true => exact hattends.awake_proceed hawake
  | rouse | help | tearDown =>
      exact Bool.eq_false_iff.mpr fun hset =>
        Bool.eq_false_iff.mp hawake ((waiter_move vigil rfl).2 hset)

end Vigil

end TunerRelay.Pool
