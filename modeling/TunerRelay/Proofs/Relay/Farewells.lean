import TunerRelay.Proofs.Relay.Reports

/-!
# Who is told of the end

Whoever has asked to be served is told once, by the call itself if it is refused and by the
supervisor that the call starts if not. The supervisor finds its observer in the server when it
begins. So the account is right as long as the server is not closed before a supervisor has begun
that was asked for: only a closed server can be given another observer.
-/

namespace TunerRelay.Relay

variable {ω : Type} [Audience ω]

/-! ### The account -/

def Operation.observer? : Operation → Option Nat
  | .serve observer => some observer
  | _ => none

/-- Whether the supervisor is to tell this observer, while the server has that one. -/
def Supervisor.owes (observer : Nat) (slot : Option Nat) (supervisor : Supervisor) : Bool :=
  match supervisor.standing with
  | .ahead => slot == some observer
  | .due => supervisor.observer == some observer
  | .settled => false

/-- Whether the call may have to tell this observer itself. -/
def Call.owes (observer : Nat) (call : Call) : Bool := call.waits == some observer

section

variable {supervisor later : Supervisor} {slot : Option Nat} {told next : List Nat}

theorem Supervisor.Reports.subset (hreports : supervisor.Reports slot told later next) :
    told ⊆ next := by
  cases hreports with
  | tell => exact List.subset_append_left _ _
  | note | quit | hold => exact List.Subset.refl told

theorem Supervisor.Reports.standing_eq (hreports : supervisor.Reports slot told later next)
    (hahead : later.standing = .ahead) : supervisor.standing = .ahead := by
  cases hreports with
  | note _ hdue => cases hahead.symm.trans hdue
  | tell _ _ _ _ hsettled | quit _ _ _ hsettled => cases hahead.symm.trans hsettled
  | hold _ hstanding => exact hstanding.symm.trans hahead

theorem Supervisor.Reports.mem_told (hreports : supervisor.Reports slot told later next)
    (hbefore : supervisor.standing = .settled →
      ∀ observer, supervisor.observer = some observer → observer ∈ told)
    (hsettled : later.standing = .settled) {observer : Nat}
    (hobserver : later.observer = some observer) : observer ∈ next := by
  cases hreports with
  | note _ hdue => cases hsettled.symm.trans hdue
  | tell other _ _ hkept =>
      cases hobserver.symm.trans hkept
      exact List.mem_append_right _ (List.mem_singleton_self observer)
  | quit _ _ hkept => cases hobserver.symm.trans hkept
  | hold hkept hstanding =>
      exact hbefore (hstanding.symm.trans hsettled) observer (hkept.symm.trans hobserver)

/-- A supervisor that begins gets to know the server's observer, and keeps to it. -/
theorem Supervisor.Reports.knows (hreports : supervisor.Reports slot told later next)
    {observer : Nat}
    (hknown : if supervisor.standing = .ahead then slot = some observer
      else supervisor.observer = some observer) :
    if later.standing = .ahead then slot = some observer
    else later.observer = some observer := by
  cases hreports with
  | note hahead hdue hslot => simpa [hahead, hdue, hslot] using hknown
  | tell other hdue hobserver hkept hsettled =>
      simpa [hdue, hsettled, hobserver, hkept] using hknown
  | quit hdue hnone => simp [hdue, hnone] at hknown
  | hold hkept hstanding => rwa [hkept, hstanding]

theorem Supervisor.Reports.owes (hreports : supervisor.Reports slot told later next)
    (observer : Nat) :
    next.count observer + (if later.owes observer slot then 1 else 0) =
      told.count observer + (if supervisor.owes observer slot then 1 else 0) := by
  cases hreports with
  | note hahead hdue hslot => simp only [Supervisor.owes, hahead, hdue, hslot]
  | tell other hdue hobserver hkept hsettled =>
      simp [Supervisor.owes, hdue, hsettled, hobserver, List.count_append, List.count_singleton]
  | quit hdue hnone hkept hsettled => simp [Supervisor.owes, hdue, hsettled, hnone]
  | hold hkept hstanding =>
      have howes : later.owes observer slot = supervisor.owes observer slot := by
        unfold Supervisor.owes
        rw [hkept, hstanding]
      rw [howes]

end

omit [Audience ω] in
theorem Call.Reports.subset {call next : Call} {relay later : Relay ω}
    (hreports : Reports relay call next later) : relay.hub.farewells ⊆ later.hub.farewells := by
  cases hreports with
  | excuse _ _ _ _ htold =>
      rw [htold]
      exact List.subset_append_left _ _
  | engage _ _ _ _ _ htold | launch _ _ _ htold | pass _ _ _ _ htold =>
      rw [htold]
      exact List.Subset.refl _

omit [Audience ω] in
/-- The server gets another observer only where a socket is open. -/
theorem Call.Reports.slot_eq_or {call next : Call} {relay later : Relay ω}
    (hreports : Reports relay call next later) :
    later.server.observer = relay.server.observer ∨ relay.server.phase = .socketOpen := by
  cases hreports with
  | engage _ hopen => exact .inr hopen
  | launch _ hslot | excuse _ _ hslot | pass _ _ hslot => exact .inl hslot

/-- A call for an observer comes to keep a supervisor's number only by starting it. -/
theorem Call.IsFor.keeping_step {observer number : Nat} {told : List Nat} {call : Call}
    {relay : Relay ω} {signal : Signal} (hfor : call.IsFor observer told)
    (hkeeping : (call.step signal relay).1 = .keeping number) :
    call = .launching observer ∧ number = relay.supervisors.length ∧
      (call.step signal relay).2.supervisors = relay.supervisors ++ [({} : Supervisor)] ∧
      (call.step signal relay).2.server = relay.server := by
  cases call with
  | engaging other =>
      by_cases hphase : relay.server.phase = .socketOpen
      · rw [step_engaging signal other hphase] at hkeeping
        cases hkeeping
      · rw [step_engaging_of_ne signal other hphase] at hkeeping
        cases hkeeping
  | launching other =>
      cases hfor
      cases signal <;> cases hkeeping <;> exact ⟨rfl, rfl, rfl, rfl⟩
  | keeping | clearing | excusing | returned => cases hkeeping
  | _ => exact hfor.elim

namespace Traffic

def farewells (traffic : Traffic ω) : List Nat := traffic.relay.hub.farewells

/-- What was asked of a relay, call by call. -/
def asked (moves : List Move) : List Operation :=
  moves.filterMap fun
    | .begin operation => some operation
    | _ => none

/-- On whose behalf the relay was asked to serve. -/
def observers (moves : List Move) : List Nat := (asked moves).filterMap Operation.observer?

/-- A supervisor has been asked for and has not begun. -/
def Pending (traffic : Traffic ω) : Prop :=
  (∃ call ∈ traffic.calls, call.isLaunching = true) ∨
    ∃ supervisor ∈ traffic.supervisors, supervisor.standing = .ahead

/-- The server was closed before a supervisor had begun that was asked for. -/
def Overtaken (traffic : Traffic ω) : Prop :=
  traffic.server.phase = .uninitialized ∧ traffic.Pending

/-- No supervisor is overtaken at any time. -/
def Punctual (traffic : Traffic ω) (moves : List Move) : Prop :=
  ∀ before, before <+: moves → ¬ (traffic.run before).Overtaken

/-- How often this observer is still to be told. -/
def due (observer : Nat) (traffic : Traffic ω) : Nat :=
  traffic.calls.countP (Call.owes observer) +
    traffic.supervisors.countP (Supervisor.owes observer traffic.server.observer)

/-- The books of a relay after these moves. -/
structure Accounted (moves : List Move) (traffic : Traffic ω) : Prop where
  crew : traffic.Pending → traffic.server.phase.crew = 1
  slot : ∀ observer, .launching observer ∈ traffic.calls →
    traffic.server.observer = some observer
  account : ∀ observer,
    traffic.farewells.count observer + traffic.due observer = (observers moves).count observer
  length_eq : traffic.calls.length = (asked moves).length
  calls : ∀ number observer : Nat, (asked moves)[number]? = some (.serve observer) →
    ∃ call, traffic.calls[number]? = some call ∧ call.IsFor observer traffic.farewells
  told : ∀ supervisor ∈ traffic.supervisors, supervisor.standing = .settled →
    ∀ observer, supervisor.observer = some observer → observer ∈ traffic.farewells

variable {traffic : Traffic ω} {moves : List Move}

theorem asked_begin (operation : Operation) :
    asked (moves ++ [.begin operation]) = asked moves ++ [operation] := by
  simp [asked]

theorem asked_resume (number : Nat) (signal : Signal) :
    asked (moves ++ [.resume number signal]) = asked moves := by
  simp [asked]

theorem asked_work (worker : Worker) (signal : Signal) :
    asked (moves ++ [.work worker signal]) = asked moves := by
  simp [asked]

omit [Audience ω] in
theorem Accounted.not_pending_of_open (haccounted : traffic.Accounted moves)
    (hopen : traffic.server.phase = .socketOpen) : ¬ traffic.Pending := by
  intro hpending
  have hcrew := haccounted.crew hpending
  rw [hopen] at hcrew
  cases hcrew

omit [Audience ω] in
theorem accounted_atRest (world : ω) : (atRest world).Accounted [] where
  crew := by
    rintro (⟨call, hmem, -⟩ | ⟨supervisor, hmem, -⟩)
    · cases hmem
    · cases hmem
  slot := by
    rintro observer ⟨⟩
  account := fun _ => rfl
  length_eq := rfl
  calls := by
    rintro number observer ⟨⟩
  told := by
    rintro supervisor ⟨⟩

omit [Audience ω] in
theorem waits_ofOperation (operation : Operation) :
    (Call.ofOperation operation).waits = operation.observer? ∧
      (Call.ofOperation operation).isLaunching = false := by
  cases operation <;> exact ⟨rfl, rfl⟩

omit [Audience ω] in
theorem Accounted.begin (haccounted : traffic.Accounted moves) (operation : Operation) :
    ({ traffic with calls := traffic.calls ++ [.ofOperation operation] } : Traffic ω).Accounted
      (moves ++ [.begin operation]) := by
  obtain ⟨hwaits, hidle⟩ := waits_ofOperation operation
  constructor
  · rintro (⟨call, hmem, hlaunching⟩ | hahead)
    · rcases List.mem_append.mp hmem with hold | hnew
      · exact haccounted.crew (.inl ⟨call, hold, hlaunching⟩)
      · rw [List.mem_singleton.mp hnew, hidle] at hlaunching
        cases hlaunching
    · exact haccounted.crew (.inr hahead)
  · intro observer hmem
    rcases List.mem_append.mp hmem with hold | hnew
    · exact haccounted.slot observer hold
    · rw [← List.mem_singleton.mp hnew] at hidle
      cases hidle
  · intro observer
    have haccount := haccounted.account observer
    simp only [due, farewells, server, supervisors, observers, asked_begin,
      List.filterMap_append, List.count_append, List.countP_append, List.countP_singleton,
      Call.owes, hwaits] at haccount ⊢
    have hcount : ([operation].filterMap Operation.observer?).count observer =
        if operation.observer? == some observer then 1 else 0 := by
      cases operation with
      | serve other => simp [Operation.observer?, List.count_singleton]
      | _ => rfl
    rw [hcount]
    omega
  · simp [asked_begin, haccounted.length_eq]
  · intro number observer hserve
    rw [asked_begin] at hserve
    by_cases hlt : number < (asked moves).length
    · rw [List.getElem?_append_left hlt] at hserve
      obtain ⟨call, hcall, hfor⟩ := haccounted.calls number observer hserve
      refine ⟨call, ?_, hfor⟩
      rw [List.getElem?_append_left (haccounted.length_eq ▸ hlt)]
      exact hcall
    · obtain ⟨hbound, hlast⟩ := List.getElem?_eq_some_iff.mp hserve
      have hnumber : number = traffic.calls.length := by
        rw [List.length_append, List.length_singleton] at hbound
        rw [haccounted.length_eq]
        omega
      subst hnumber
      rw [haccounted.length_eq, List.getElem?_concat_length] at hserve
      cases hserve
      exact ⟨.engaging observer, List.getElem?_concat_length, rfl⟩
  · exact haccounted.told

/-! ### Moves of workers and calls -/

/-- Nobody who was told is forgotten. -/
theorem farewells_subset (traffic : Traffic ω) (move : Move) :
    traffic.farewells ⊆ (traffic.move move).farewells := by
  cases move with
  | begin operation => exact List.Subset.refl _
  | resume number signal =>
      cases hcall : traffic.calls[number]? with
      | none => rw [move_resume_of_none signal hcall]; exact List.Subset.refl _
      | some call =>
          rw [move_resume signal hcall]
          exact (call.reports_step signal traffic.relay).subset
  | work worker signal =>
      cases hworker : traffic.supervisors[worker.number]? with
      | none => rw [move_work_of_none signal hworker]; exact List.Subset.refl _
      | some acting =>
          rw [move_work signal hworker]
          exact (worker.reports_step signal acting traffic.relay.hub).subset

/-- A call that there was not before the move has just begun. -/
theorem calls_move_of_none {number : Nat} {call : Call} {move : Move}
    (hnone : traffic.calls[number]? = none)
    (hcall : (traffic.move move).calls[number]? = some call) :
    ∃ operation, move = .begin operation ∧ call = .ofOperation operation := by
  rw [List.getElem?_eq_none_iff] at hnone
  cases move with
  | begin operation =>
      refine ⟨operation, rfl, ?_⟩
      have hmem := hcall
      simp only [Traffic.move, List.getElem?_append_right hnone] at hmem
      exact List.mem_singleton.mp (List.mem_of_getElem? hmem)
  | resume other signal =>
      have hlt := (List.getElem?_eq_some_iff.mp hcall).1
      cases hresumed : traffic.calls[other]? with
      | none =>
          rw [move_resume_of_none signal hresumed] at hlt
          omega
      | some resumed =>
          rw [calls_resume signal hresumed, List.length_set] at hlt
          omega
  | work worker signal =>
      have hlt := (List.getElem?_eq_some_iff.mp hcall).1
      rw [calls_work] at hlt
      omega

/-- Where nobody begins a call, the calls that were made before are still for their observers. -/
theorem Accounted.calls_move {move : Move} (haccounted : traffic.Accounted moves)
    (hasked : asked (moves ++ [move]) = asked moves) :
    ∀ number observer : Nat, (asked (moves ++ [move]))[number]? = some (.serve observer) →
      ∃ call, (traffic.move move).calls[number]? = some call ∧
        call.IsFor observer (traffic.move move).farewells := by
  rw [hasked]
  intro number observer hserve
  obtain ⟨call, hcall, hfor⟩ := haccounted.calls number observer hserve
  rcases call_move move hcall with hsame | ⟨signal, rfl, hstepped⟩
  · exact ⟨call, hsame, hfor.mono (farewells_subset traffic move)⟩
  · refine ⟨_, hstepped, ?_⟩
    rw [farewells, move_resume signal hcall]
    exact hfor.step signal

omit [Audience ω] in
/-- The books are about what was asked. -/
theorem Accounted.of_asked {more : List Move} (haccounted : traffic.Accounted moves)
    (hasked : asked more = asked moves) : traffic.Accounted more where
  crew := haccounted.crew
  slot := haccounted.slot
  account := by
    unfold observers
    rw [hasked]
    exact haccounted.account
  length_eq := hasked ▸ haccounted.length_eq
  calls := hasked ▸ haccounted.calls
  told := haccounted.told

theorem Accounted.work (haccounted : traffic.Accounted moves) (worker : Worker) (signal : Signal)
    (hpunctual : ¬ (traffic.move (.work worker signal)).Overtaken) :
    (traffic.move (.work worker signal)).Accounted (moves ++ [.work worker signal]) := by
  suffices hbooks : (traffic.move (.work worker signal)).Accounted moves from
    hbooks.of_asked (asked_work worker signal)
  have hcalls := haccounted.calls_move (asked_work worker signal)
  cases hworker : traffic.supervisors[worker.number]? with
  | none =>
      rw [move_work_of_none signal hworker]
      exact haccounted
  | some acting =>
      have hmem := List.mem_of_getElem? hworker
      have hserver := server_work signal hworker
      have hsupervisors := supervisors_work signal hworker
      have hslot : (traffic.move (.work worker signal)).server.observer =
          traffic.server.observer := by
        rw [hserver]
        exact worker.observer_step signal acting traffic.relay.hub
      have hreports : acting.Reports traffic.server.observer traffic.farewells
          (worker.step signal acting traffic.relay.hub).1
          (traffic.move (.work worker signal)).farewells := by
        rw [move_work signal hworker]
        exact worker.reports_step signal acting traffic.relay.hub
      constructor
      · intro hpending
        have hbefore : traffic.Pending := by
          refine hpending.imp id ?_
          rintro ⟨supervisor, hsupervisor, hahead⟩
          rw [hsupervisors] at hsupervisor
          rcases List.mem_or_eq_of_mem_set hsupervisor with hold | rfl
          · exact ⟨supervisor, hold, hahead⟩
          · exact ⟨acting, hmem, hreports.standing_eq hahead⟩
        have hwork := worker.work_step signal acting traffic.relay.hub
        rw [← hserver] at hwork
        refine (hwork.crew_eq_one_or (haccounted.crew hbefore)).resolve_right ?_
        exact fun hrest => hpunctual ⟨hrest, hpending⟩
      · intro observer hlaunching
        rw [hslot]
        exact haccounted.slot observer hlaunching
      · intro observer
        have haccount := haccounted.account observer
        have howes := hreports.owes observer
        have hcount := Lists.countP_set (Supervisor.owes observer traffic.server.observer)
          (worker.step signal acting traffic.relay.hub).1 hworker
        unfold due at haccount ⊢
        rw [hslot, hsupervisors, calls_work]
        omega
      · exact haccounted.length_eq
      · rwa [asked_work] at hcalls
      · intro supervisor hsupervisor hsettled observer hobserver
        rw [hsupervisors] at hsupervisor
        rcases List.mem_or_eq_of_mem_set hsupervisor with hold | rfl
        · exact hreports.subset (haccounted.told supervisor hold hsettled observer hobserver)
        · exact hreports.mem_told (haccounted.told acting hmem) hsettled hobserver

omit [Audience ω] in
/-- While the server has the observer of whoever is pending, no debt depends on it otherwise. -/
theorem countP_owes_of_not_pending (hidle : ¬ traffic.Pending) (observer : Nat)
    (slot : Option Nat) :
    traffic.supervisors.countP (Supervisor.owes observer slot) =
      traffic.supervisors.countP (Supervisor.owes observer traffic.server.observer) := by
  refine List.countP_congr fun supervisor hmem => ?_
  have hbegun : supervisor.standing ≠ .ahead := fun hahead =>
    hidle (.inr ⟨supervisor, hmem, hahead⟩)
  unfold Supervisor.owes
  cases hstanding : supervisor.standing with
  | ahead => exact absurd hstanding hbegun
  | due | settled => rfl

section Resumed

variable {number : Nat} {call next : Call} {later : Relay ω}

/-- A call that starts nothing takes the place of a call that may have. -/
theorem mem_of_isLaunching {calls : List Call} {other : Call} (hidle : next.isLaunching = false)
    (hmem : other ∈ calls.set number next) (hlaunching : other.isLaunching = true) :
    other ∈ calls := by
  rcases List.mem_or_eq_of_mem_set hmem with hold | rfl
  · exact hold
  · cases hlaunching.symm.trans hidle

omit [Audience ω] in
/-- Somebody comes to be pending only when the server agrees to serve. -/
theorem Pending.of_reports (hcall : traffic.calls[number]? = some call)
    (hreports : Call.Reports traffic.relay call next later)
    (hpending : ({ relay := later, calls := traffic.calls.set number next } : Traffic ω).Pending) :
    traffic.Pending ∨ later.server.phase = .asyncStarted := by
  have hmem := List.mem_of_getElem? hcall
  cases hreports with
  | engage observer hopen hstarted => exact .inr hstarted
  | launch observer => exact .inl (.inl ⟨_, hmem, rfl⟩)
  | excuse observer fault hslot hsupervisors =>
      left
      refine hpending.imp ?_ (by simp only [supervisors, hsupervisors]; exact id)
      rintro ⟨other, hother, hlaunching⟩
      exact ⟨other, mem_of_isLaunching rfl hother hlaunching, hlaunching⟩
  | pass hwaits hidle hslot hsupervisors =>
      left
      refine hpending.imp ?_ (by simp only [supervisors, hsupervisors]; exact id)
      rintro ⟨other, hother, hlaunching⟩
      exact ⟨other, mem_of_isLaunching hidle hother hlaunching, hlaunching⟩

omit [Audience ω] in
theorem Accounted.slot_of_reports (haccounted : traffic.Accounted moves)
    (hcall : traffic.calls[number]? = some call)
    (hreports : Call.Reports traffic.relay call next later) (observer : Nat)
    (hlaunching : .launching observer ∈ traffic.calls.set number next) :
    later.server.observer = some observer := by
  cases hreports with
  | engage other hopen hstarted hslot =>
      rcases List.mem_or_eq_of_mem_set hlaunching with hold | hnew
      · exact absurd (.inl ⟨_, hold, rfl⟩) (haccounted.not_pending_of_open hopen)
      · cases hnew
        exact hslot
  | launch other hslot | excuse other fault hslot =>
      exact hslot.trans (haccounted.slot observer (mem_of_isLaunching rfl hlaunching rfl))
  | pass hwaits hidle hslot =>
      exact hslot.trans (haccounted.slot observer (mem_of_isLaunching hidle hlaunching rfl))

omit [Audience ω] in
theorem Accounted.account_of_reports (haccounted : traffic.Accounted moves)
    (hcall : traffic.calls[number]? = some call)
    (hreports : Call.Reports traffic.relay call next later) (observer : Nat) :
    later.hub.farewells.count observer +
        ({ relay := later, calls := traffic.calls.set number next } : Traffic ω).due observer =
      (observers moves).count observer := by
  have haccount := haccounted.account observer
  have hcount := Lists.countP_set (Call.owes observer) next hcall
  unfold due farewells at *
  simp only [supervisors, server] at haccount ⊢
  cases hreports with
  | engage other hopen hstarted hslot hsupervisors htold =>
      -- Nobody is pending, so the new observer changes what no supervisor owes.
      have howes := countP_owes_of_not_pending (haccounted.not_pending_of_open hopen) observer
        later.server.observer
      simp only [supervisors, server] at howes
      have hsame : (Call.engaging other).owes observer = (Call.launching other).owes observer := rfl
      rw [hsame] at hcount
      rw [htold, hsupervisors, howes]
      omega
  | launch other hslot hsupervisors htold =>
      -- What the call owes, the supervisor that it starts owes from now on.
      have hown := haccounted.slot other (List.mem_of_getElem? hcall)
      have hnew : ({} : Supervisor).owes observer traffic.relay.server.observer =
          (Call.launching other).owes observer := by
        rw [show traffic.relay.server.observer = some other from hown]
        rfl
      have hdone : (Call.keeping traffic.relay.supervisors.length).owes observer = false := rfl
      rw [hdone] at hcount
      rw [htold, hsupervisors, hslot, List.countP_append, List.countP_singleton, hnew]
      simp only [Bool.false_eq_true, if_false] at hcount
      omega
  | excuse other fault hslot hsupervisors htold =>
      have hdone : (Call.returned (.serving (.error fault))).owes observer = false := rfl
      have hown : (Call.excusing other fault).owes observer = (other == observer) := rfl
      rw [hdone, hown] at hcount
      rw [htold, hsupervisors, hslot, List.count_append, List.count_singleton]
      simp only [Bool.false_eq_true, if_false] at hcount
      omega
  | pass hwaits hidle hslot hsupervisors htold =>
      have hsame : next.owes observer = call.owes observer := by
        unfold Call.owes
        rw [hwaits]
      rw [hsame] at hcount
      rw [htold, hsupervisors, hslot]
      omega

end Resumed

theorem Accounted.resume (haccounted : traffic.Accounted moves) (number : Nat) (signal : Signal)
    (hpunctual : ¬ (traffic.move (.resume number signal)).Overtaken) :
    (traffic.move (.resume number signal)).Accounted (moves ++ [.resume number signal]) := by
  suffices hbooks : (traffic.move (.resume number signal)).Accounted moves from
    hbooks.of_asked (asked_resume number signal)
  have hcalls := haccounted.calls_move (asked_resume number signal)
  rw [asked_resume] at hcalls
  cases hcall : traffic.calls[number]? with
  | none =>
      rw [move_resume_of_none signal hcall]
      exact haccounted
  | some call =>
      have hreports := call.reports_step signal traffic.relay
      rw [move_resume signal hcall] at hcalls hpunctual ⊢
      refine ⟨?_, haccounted.slot_of_reports hcall hreports,
        haccounted.account_of_reports hcall hreports, ?_, hcalls, ?_⟩
      · intro hpending
        rcases Pending.of_reports hcall hreports hpending with hbefore | hstarted
        · have hcrew := haccounted.crew hbefore
          rcases call.turn_step signal traffic.relay with hturn | ⟨observer, -, -, hstarted⟩
          · rcases hturn.crew_le_or with hle | hrest
            · exact Nat.le_antisymm (Server.Phase.crew_le_one _) (hcrew ▸ hle)
            · exact absurd ⟨hrest, hpending⟩ hpunctual
          · exact congrArg Server.Phase.crew hstarted
        · exact congrArg Server.Phase.crew hstarted
      · exact (List.length_set ..).trans haccounted.length_eq
      · intro supervisor hsupervisor hsettled observer hobserver
        have hold : supervisor ∈ traffic.supervisors := by
          change supervisor ∈ (call.step signal traffic.relay).2.supervisors at hsupervisor
          rcases call.supervisors_step signal traffic.relay with hsame | ⟨hmore, -⟩
          · rwa [hsame] at hsupervisor
          · rw [hmore, List.mem_append, List.mem_singleton] at hsupervisor
            refine hsupervisor.resolve_right ?_
            rintro rfl
            cases hsettled
        exact hreports.subset (haccounted.told supervisor hold hsettled observer hobserver)

theorem accounted_run (world : ω) (moves : List Move) (hpunctual : (atRest world).Punctual moves) :
    ((atRest world).run moves).Accounted moves := by
  induction moves using List.reverseRecOn with
  | nil => exact accounted_atRest world
  | append_singleton moves move ih =>
      have haccounted := ih fun before hbefore =>
        hpunctual before (hbefore.trans (List.prefix_append moves [move]))
      have hnext := hpunctual _ (List.prefix_refl _)
      rw [run_concat] at hnext ⊢
      cases move with
      | begin operation => exact haccounted.begin operation
      | resume number signal => exact haccounted.resume number signal hnext
      | work worker signal => exact haccounted.work worker signal hnext

/-! ### Who supervises for whom -/

/-- The supervisor of this number serves for this observer, or will once it has begun. -/
def Supervises (traffic : Traffic ω) (number observer : Nat) : Prop :=
  ∃ supervisor, traffic.supervisors[number]? = some supervisor ∧
    if supervisor.standing = .ahead then traffic.server.observer = some observer
    else supervisor.observer = some observer

/-- The call of this number started the supervisor of that number. -/
def Spawned (traffic : Traffic ω) (moves : List Move) (call supervisor : Nat) : Prop :=
  ∃ between, between <+: moves ∧ (traffic.run between).calls[call]? = some (.keeping supervisor)

theorem Supervises.move {number observer : Nat} (move : Move)
    (haccounted : traffic.Accounted moves) (hsupervises : traffic.Supervises number observer) :
    (traffic.move move).Supervises number observer := by
  obtain ⟨supervisor, hsupervisor, hknown⟩ := hsupervises
  obtain ⟨hlt, -⟩ := List.getElem?_eq_some_iff.mp hsupervisor
  cases move with
  | begin operation => exact ⟨supervisor, hsupervisor, hknown⟩
  | resume other signal =>
      cases hcall : traffic.calls[other]? with
      | none =>
          rw [move_resume_of_none signal hcall]
          exact ⟨supervisor, hsupervisor, hknown⟩
      | some call =>
          refine ⟨supervisor, ?_, ?_⟩
          · rw [supervisors_resume signal hcall]
            rcases call.supervisors_step signal traffic.relay with hsame | ⟨hmore, -⟩
            · rw [hsame]
              exact hsupervisor
            · rw [hmore]
              exact (List.getElem?_append_left hlt).trans hsupervisor
          · rw [server_resume signal hcall]
            rcases (call.reports_step signal traffic.relay).slot_eq_or with hslot | hopen
            · rw [hslot]
              exact hknown
            · have hbegun : supervisor.standing ≠ .ahead := fun hahead =>
                haccounted.not_pending_of_open hopen
                  (.inr ⟨supervisor, List.mem_of_getElem? hsupervisor, hahead⟩)
              rw [if_neg hbegun] at hknown ⊢
              exact hknown
  | work worker signal =>
      cases hworker : traffic.supervisors[worker.number]? with
      | none =>
          rw [move_work_of_none signal hworker]
          exact ⟨supervisor, hsupervisor, hknown⟩
      | some acting =>
          have hslot : (traffic.move (.work worker signal)).server.observer =
              traffic.server.observer := by
            rw [server_work signal hworker]
            exact worker.observer_step signal acting traffic.relay.hub
          unfold Supervises
          rw [hslot, supervisors_work signal hworker]
          by_cases hacting : worker.number = number
          · rw [hacting, hsupervisor] at hworker
            cases hworker
            rw [hacting, List.getElem?_set_self hlt]
            exact ⟨_, rfl, (worker.reports_step signal supervisor traffic.relay.hub).knows hknown⟩
          · rw [List.getElem?_set_ne hacting]
            exact ⟨supervisor, hsupervisor, hknown⟩

theorem supervises_run (world : ω) {before : List Move} (after : List Move) {number observer : Nat}
    (hpunctual : (atRest world).Punctual (before ++ after))
    (hsupervises : ((atRest world).run before).Supervises number observer) :
    ((atRest world).run (before ++ after)).Supervises number observer := by
  induction after using List.reverseRecOn with
  | nil => rwa [List.append_nil]
  | append_singleton after move ih =>
      rw [← List.append_assoc] at hpunctual ⊢
      have hearlier : (atRest world).Punctual (before ++ after) := fun start hstart =>
        hpunctual start (hstart.trans (List.prefix_append _ [move]))
      rw [run_concat]
      exact (ih hearlier).move move (accounted_run world _ hearlier)

/-- The call that starts a supervisor starts it for its own observer. -/
theorem supervises_of_keeping (world : ω) (moves : List Move) {call number observer : Nat}
    (hpunctual : (atRest world).Punctual moves)
    (hserve : (asked moves)[call]? = some (.serve observer))
    (hkeeping : ((atRest world).run moves).calls[call]? = some (.keeping number)) :
    ((atRest world).run moves).Supervises number observer := by
  induction moves using List.reverseRecOn with
  | nil => cases hserve
  | append_singleton moves move ih =>
      have hearlier : (atRest world).Punctual moves := fun start hstart =>
        hpunctual start (hstart.trans (List.prefix_append moves [move]))
      have haccounted := accounted_run world moves hearlier
      rw [run_concat] at hkeeping ⊢
      cases hlater : ((atRest world).run moves).calls[call]? with
      | none =>
          obtain ⟨operation, rfl, hnew⟩ := calls_move_of_none hlater hkeeping
          cases operation <;> cases hnew
      | some earlier =>
          have hlt := (List.getElem?_eq_some_iff.mp hlater).1
          have hbefore : (asked moves)[call]? = some (.serve observer) := by
            rw [asked, List.filterMap_append, List.getElem?_append_left] at hserve
            · exact hserve
            · exact haccounted.length_eq ▸ hlt
          rcases call_move move hlater with hsame | ⟨signal, rfl, hstepped⟩
          · rw [hsame] at hkeeping
            exact (ih hearlier hbefore (hlater.trans hkeeping)).move move haccounted
          · obtain ⟨known, hknown, hfor⟩ := haccounted.calls call observer hbefore
            obtain rfl := Option.some.inj (hlater.symm.trans hknown)
            obtain ⟨rfl, rfl, hmore, hserver⟩ :=
              hfor.keeping_step (Option.some.inj (hstepped.symm.trans hkeeping))
            refine ⟨{}, ?_, ?_⟩
            · rw [supervisors_resume signal hlater, hmore]
              exact List.getElem?_concat_length
            · rw [server_resume signal hlater, hserver]
              exact haccounted.slot observer (List.mem_of_getElem? hlater)

theorem Spawned.supervises (world : ω) {moves : List Move} {call number observer : Nat}
    (hspawned : (atRest world).Spawned moves call number)
    (hpunctual : (atRest world).Punctual moves)
    (hserve : (asked moves)[call]? = some (.serve observer)) :
    ((atRest world).run moves).Supervises number observer := by
  obtain ⟨between, ⟨after, rfl⟩, hkeeping⟩ := hspawned
  have hearlier : (atRest world).Punctual between := fun start hstart =>
    hpunctual start (hstart.trans (List.prefix_append between after))
  refine supervises_run world after hpunctual
    (supervises_of_keeping world between hearlier ?_ hkeeping)
  rw [asked, List.filterMap_append, List.getElem?_append_left] at hserve
  · exact hserve
  · have hlt := (List.getElem?_eq_some_iff.mp hkeeping).1
    exact (accounted_run world between hearlier).length_eq ▸ hlt

end Traffic

end TunerRelay.Relay
