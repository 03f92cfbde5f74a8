import TunerRelay.Proofs.Relay.Moves

/-!
# The readers of supervisors

A supervisor starts one reader at most, which is known by the number of the supervisor. Nothing but
its own steps moves it on.
-/

namespace TunerRelay.Relay

variable {ω : Type} [Audience ω]

/-! ### When a supervisor gets its reader -/

/-- Whether the supervisor may still have to start its reader. -/
def Supervisor.Place.isUnstaffed : Supervisor.Place → Bool
  | .starting | .seeking | .waiting | .accepting | .registering _ | .splitting | .entering
  | .spawning => true
  | _ => false

/-- A supervisor starts its reader once. -/
def Supervisor.Staffed (supervisor : Supervisor) : Prop :=
  supervisor.reader.isSome = true → supervisor.place.isUnstaffed = false

theorem Supervisor.Steps.reader_eq_or {supervisor later : Supervisor} {server next : Server}
    (hsteps : supervisor.Steps server later next) :
    later.reader = supervisor.reader ∨
      supervisor.place = .spawning ∧ later.reader = some {} ∧ later.place = .idle := by
  cases hsteps with
  | staff hplace => exact Or.inr ⟨hplace, rfl, rfl⟩
  | _ => exact Or.inl rfl

theorem Supervisor.Steps.reader_of_staffed {supervisor later : Supervisor} {server next : Server}
    (hsteps : supervisor.Steps server later next) (hstaffed : supervisor.Staffed) :
    later.reader = supervisor.reader ∨ supervisor.reader = none ∧ later.reader = some {} := by
  rcases hsteps.reader_eq_or with hsame | ⟨hspawning, hnew, -⟩
  · exact Or.inl hsame
  · refine Or.inr ⟨?_, hnew⟩
    cases hreader : supervisor.reader with
    | none => rfl
    | some reader =>
        have hstarted := hstaffed (by rw [hreader]; rfl)
        rw [hspawning] at hstarted
        cases hstarted

theorem Supervisor.Place.Leads.isUnstaffed_eq_false {session : Option Nat} {server next : Server}
    {place later : Place} (hleads : place.Leads session server later next)
    (hstaffed : place.isUnstaffed = false) : later.isUnstaffed = false := by
  cases hleads with
  | seek | expect | retry | accept | split | enter => cases hstaffed
  | _ => rfl

theorem Supervisor.Steps.isUnstaffed_eq_false {supervisor later : Supervisor}
    {server next : Server} (hsteps : supervisor.Steps server later next)
    (hstaffed : supervisor.place.isUnstaffed = false) : later.place.isUnstaffed = false := by
  cases hsteps with
  | note hplace | register hplace =>
      rw [hplace] at hstaffed
      cases hstaffed
  | walk hleads => exact hleads.isUnstaffed_eq_false hstaffed
  | _ => rfl

theorem Worker.staffed_step {supervisor : Supervisor} (worker : Worker) (signal : Signal)
    (hub : Hub ω) (hstaffed : supervisor.Staffed) :
    (worker.step signal supervisor hub).1.Staffed := by
  cases worker with
  | supervisor number =>
      intro hreader
      simp only [Worker.step] at hreader ⊢
      have hsteps := supervisor.steps signal hub
      rcases hsteps.reader_eq_or with hsame | ⟨-, -, hidle⟩
      · rw [hsame] at hreader
        exact hsteps.isUnstaffed_eq_false (hstaffed hreader)
      · rw [hidle]
        rfl
  | reader number =>
      simp only [Worker.step, Supervisor.stepReader]
      split
      · rename_i hreader _
        intro _
        exact hstaffed (by rw [hreader]; rfl)
      · exact hstaffed

/-- A worker leaves the reader alone, or starts it, or is the reader. -/
theorem Worker.reader_step {supervisor : Supervisor} (worker : Worker) (signal : Signal)
    (hub : Hub ω) (hstaffed : supervisor.Staffed) :
    (worker.step signal supervisor hub).1.reader = supervisor.reader ∨
      supervisor.reader = none ∧ (worker.step signal supervisor hub).1.reader = some {} ∨
      ∃ number observer reader, worker = .reader number ∧ supervisor.reader = some reader ∧
        supervisor.observer = some observer ∧
        (worker.step signal supervisor hub).1.reader =
          some (reader.step observer signal hub).1 ∧
        (worker.step signal supervisor hub).2 = (reader.step observer signal hub).2 := by
  cases worker with
  | supervisor number =>
      exact ((supervisor.steps signal hub).reader_of_staffed hstaffed).imp id Or.inl
  | reader number =>
      simp only [Worker.step, Supervisor.stepReader]
      split
      · rename_i reader observer hreader hobserver
        exact Or.inr (Or.inr ⟨number, observer, reader, rfl, hreader, hobserver, rfl, rfl⟩)
      · exact Or.inl rfl

namespace Traffic

/-- No supervisor that has a reader is going to start another one. -/
def Staffed (traffic : Traffic ω) : Prop :=
  ∀ supervisor ∈ traffic.supervisors, supervisor.Staffed

theorem staffed_run (world : ω) (moves : List Move) : ((atRest world).run moves).Staffed :=
  run_induction Staffed (fun _ hsupervisor => absurd hsupervisor List.not_mem_nil)
    (fun _ move hstaffed => forall_supervisors_move (fun hreader => nomatch hreader)
      (fun worker signal _ => Worker.staffed_step worker signal _) move hstaffed) moves

/-! ### The reader of a supervisor -/

def reader? (traffic : Traffic ω) (number : Nat) : Option Reader :=
  traffic.supervisors[number]?.bind Supervisor.reader

def observer? (traffic : Traffic ω) (number : Nat) : Option Nat :=
  traffic.supervisors[number]?.bind Supervisor.observer

/-- A reader is started once, and then nothing but its own steps moves it on. -/
theorem reader?_move {traffic : Traffic ω} (move : Move) (number : Nat)
    (hstaffed : traffic.Staffed) :
    (traffic.move move).reader? number = traffic.reader? number ∨
      traffic.reader? number = none ∧ (traffic.move move).reader? number = some {} ∨
      ∃ signal observer reader, move = .work (.reader number) signal ∧
        traffic.reader? number = some reader ∧ traffic.observer? number = some observer ∧
        (traffic.move move).reader? number =
          some (reader.step observer signal traffic.relay.hub).1 ∧
        (traffic.move move).relay.hub = (reader.step observer signal traffic.relay.hub).2 := by
  cases move with
  | begin operation => exact Or.inl rfl
  | resume other signal =>
      cases hcall : traffic.calls[other]? with
      | none =>
          rw [move_resume_of_none signal hcall]
          exact Or.inl rfl
      | some call =>
          unfold reader?
          rw [supervisors_resume signal hcall]
          rcases Call.supervisors_step call signal traffic.relay with hsame | ⟨hmore, -⟩
          · rw [hsame]
            exact Or.inl rfl
          · left
            rw [hmore]
            by_cases hlt : number < traffic.relay.supervisors.length
            · rw [List.getElem?_append_left hlt]
              rfl
            · have hnone : traffic.supervisors[number]? = none :=
                List.getElem?_eq_none (Nat.le_of_not_lt hlt)
              rw [hnone, List.getElem?_append_right (Nat.le_of_not_lt hlt)]
              cases number - traffic.relay.supervisors.length <;> rfl
  | work worker signal =>
      cases hworker : traffic.supervisors[worker.number]? with
      | none =>
          rw [move_work_of_none signal hworker]
          exact Or.inl rfl
      | some acting =>
          have hsupervisors := supervisors_work signal hworker
          by_cases hnumber : worker.number = number
          · subst hnumber
            have hlt := (List.getElem?_eq_some_iff.mp hworker).1
            unfold reader? observer?
            rw [hsupervisors, List.getElem?_set_self hlt, hworker]
            simp only [Option.bind_some]
            refine (worker.reader_step signal traffic.relay.hub
              (hstaffed acting (List.mem_of_getElem? hworker))).imp id (Or.imp id ?_)
            rintro ⟨number, observer, reader, rfl, hreader, hobserver, hnext, hhub⟩
            refine ⟨signal, observer, reader, rfl, hreader, hobserver, hnext, ?_⟩
            rw [move_work signal hworker]
            exact hhub
          · left
            unfold reader?
            rw [hsupervisors, List.getElem?_set_ne hnumber]

end Traffic

end TunerRelay.Relay
