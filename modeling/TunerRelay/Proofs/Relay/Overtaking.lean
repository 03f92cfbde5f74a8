import TunerRelay.Proofs.Relay.Farewells
import TunerRelay.Proofs.Relay.Intrusion

/-!
# Supervisors that are overtaken

A supervisor that is overtaken begins in a server that may have been given another observer by then.
It serves on behalf of that one and tells it of the end, and so does whoever was asked to serve it;
nobody tells the observer that the supervisor was started for.
-/

namespace TunerRelay.Relay.Traffic

variable {ω : Type} [Audience ω]

/-! ### Told once -/

/-- Whoever asked to be served has been told at most once, and has been told if it was refused or if
the supervisor that was started for it has ended. -/
structure ToldOnce (traffic : Traffic ω) (moves : List Move) : Prop where
  at_most : ∀ observer ∈ observers moves, (traffic.run moves).farewells.count observer ≤ 1
  refused : ∀ (call observer : Nat) (fault : Server.Fault),
    (asked moves)[call]? = some (.serve observer) →
    (traffic.run moves).calls[call]? = some (.returned (.serving (.error fault))) →
    (traffic.run moves).farewells.count observer = 1
  ended : ∀ (call observer number : Nat) (supervisor : Supervisor),
    (asked moves)[call]? = some (.serve observer) → traffic.Spawned moves call number →
    (traffic.run moves).supervisors[number]? = some supervisor → supervisor.isEnded = true →
    (traffic.run moves).farewells.count observer = 1

theorem toldOnce_of_punctual (world : ω) {moves : List Move} (hdistinct : (observers moves).Nodup)
    (hpunctual : (atRest world).Punctual moves) : (atRest world).ToldOnce moves := by
  have haccounted := accounted_run world moves hpunctual
  have hatMost : ∀ observer, ((atRest world).run moves).farewells.count observer ≤ 1 := by
    intro observer
    have haccount := haccounted.account observer
    have honce := List.nodup_iff_count_le_one.mp hdistinct observer
    omega
  have hexactly : ∀ {observer}, observer ∈ ((atRest world).run moves).farewells →
      ((atRest world).run moves).farewells.count observer = 1 := fun {observer} hmem =>
    Nat.le_antisymm (hatMost observer) (List.count_pos_iff.mpr hmem)
  refine ⟨fun observer _ => hatMost observer, ?_, ?_⟩
  · intro call observer fault hserve hreturned
    obtain ⟨known, hknown, hfor⟩ := haccounted.calls call observer hserve
    obtain rfl := Option.some.inj (hreturned.symm.trans hknown)
    exact hexactly hfor
  · intro call observer number supervisor hserve hspawned hsupervisor hended
    obtain ⟨known, hknown, hobserver⟩ := hspawned.supervises world hpunctual hserve
    obtain rfl := Option.some.inj (hsupervisor.symm.trans hknown)
    have hplace : supervisor.place = .ended := beq_iff_eq.mp hended
    have hsettled : supervisor.standing = .settled := by
      rw [Supervisor.standing, hplace]
      rfl
    rw [hsettled, if_neg Standing.noConfusion] at hobserver
    exact hexactly
      (haccounted.told supervisor (List.mem_of_getElem? hsupervisor) hsettled observer hobserver)

/-! ### Told twice -/

theorem observers_append (first second : List Move) :
    observers (first ++ second) = observers first ++ observers second := by
  simp [observers, asked]

theorem observers_eq_nil {moves : List Move} (hnone : ∀ observer, .begin (.serve observer) ∉ moves) :
    observers moves = [] := by
  induction moves with
  | nil => rfl
  | cons move rest ih =>
      have hrest := ih fun observer hmem => hnone observer (List.mem_cons_of_mem _ hmem)
      rw [← List.singleton_append, observers_append, hrest, List.append_nil]
      cases move with
      | begin operation =>
          cases operation with
          | serve observer => exact absurd List.mem_cons_self (hnone observer)
          | _ => rfl
      | resume | work => rfl

/-- A call that is about to start a supervisor and cannot closes the server and tells its
observer. -/
theorem farewells_of_launching {traffic : Traffic ω} {calls : List Call} {observer : Nat}
    (hcalls : traffic.calls = calls ++ [.launching observer]) :
    let later := traffic.run
      [.resume calls.length (.failure ""), .resume calls.length .nothing,
        .resume calls.length .nothing]
    later.farewells = traffic.farewells ++ [observer] ∧
      later.server = traffic.server.cleanUp ∧ later.supervisors = traffic.supervisors := by
  obtain ⟨relay, known⟩ := traffic
  obtain rfl : known = calls ++ [.launching observer] := hcalls
  simp only [run_cons, run_nil, move_resume_last, Call.step]
  exact ⟨Hub.farewells_dismiss _ observer, Hub.server_dismiss _ observer, rfl⟩

theorem move_supervisor {traffic : Traffic ω} {number : Nat} {supervisor : Supervisor}
    (signal : Signal) (hsupervisor : traffic.supervisors[number]? = some supervisor) :
    (traffic.move (.work (.supervisor number) signal)).relay.hub =
        (supervisor.step signal traffic.relay.hub).2 ∧
      (traffic.move (.work (.supervisor number) signal)).supervisors[number]? =
        some (supervisor.step signal traffic.relay.hub).1 ∧
      (traffic.move (.work (.supervisor number) signal)).calls = traffic.calls := by
  have hworker : traffic.supervisors[(Worker.supervisor number).number]? = some supervisor :=
    hsupervisor
  rw [move_work signal hworker]
  refine ⟨rfl, ?_, rfl⟩
  exact List.getElem?_set_self (List.getElem?_eq_some_iff.mp hsupervisor).1

/-- A supervisor that finds no listener ends, and tells its observer. -/
theorem farewells_of_seeking {traffic : Traffic ω} {number observer : Nat} {supervisor : Supervisor}
    (hsupervisor : traffic.supervisors[number]? = some supervisor)
    (hplace : supervisor.place = .seeking) (hobserver : supervisor.observer = some observer)
    (hlistener : traffic.server.listener = none) :
    (traffic.run (List.replicate 3 (.work (.supervisor number) .nothing))).farewells =
      traffic.farewells ++ [observer] := by
  have hseek : supervisor.step .nothing traffic.relay.hub =
      (supervisor.goTo .closing, traffic.relay.hub) := by
    have hnone : traffic.relay.hub.server.listener = none := hlistener
    simp [Supervisor.step, hplace, hnone]
  obtain ⟨hhub, hfirst, -⟩ := move_supervisor .nothing hsupervisor
  obtain ⟨hclosed, hsecond, -⟩ := move_supervisor .nothing hfirst
  obtain ⟨htold, -, -⟩ := move_supervisor .nothing hsecond
  simp only [List.replicate, run_cons, run_nil, farewells]
  rw [htold, hclosed, hhub, hseek]
  simp [Supervisor.step, Supervisor.goTo, Supervisor.notify, hobserver, Hub.recordFarewell,
    Hub.cleanUp, Hub.withServer]

/-- A supervisor that has not begun although the server is at rest can be given an observer that is
told twice. -/
theorem exists_telling_twice {traffic : Traffic ω} {number : Nat} {supervisor : Supervisor}
    (hrest : traffic.server.phase = .uninitialized)
    (hsupervisor : traffic.supervisors[number]? = some supervisor)
    (hahead : supervisor.standing = .ahead) (observer : Nat) :
    ∃ moves, observers moves = [observer] ∧
      2 ≤ (traffic.run moves).farewells.count observer := by
  obtain ⟨opening, server, hnone, -, hopen, -, hrun⟩ := exists_opening hrest
  let calls := traffic.calls ++ [.returned (.opened (.ok ()))]
  let engaged := { server with phase := .asyncStarted, observer := some observer }
  have hplace : supervisor.place = .starting := by
    cases hplace : supervisor.place <;> simp [Supervisor.standing, hplace,
      Supervisor.Place.standing] at hahead ⊢
  -- A socket is opened, and the server agrees to serve another observer.
  have hengaged : traffic.run (opening ++ [.begin (.serve observer), .resume calls.length .nothing]) =
      { relay := traffic.relay.withServer engaged, calls := calls ++ [.launching observer] } := by
    have hphase : (traffic.relay.withServer server).server.phase = .socketOpen := hopen
    have hbegin : ({ relay := traffic.relay.withServer server, calls } : Traffic ω).move
        (.begin (.serve observer)) =
          { relay := traffic.relay.withServer server, calls := calls ++ [.engaging observer] } := rfl
    rw [run_append, hrun, run_cons, run_cons, run_nil, hbegin, move_resume_last,
      Call.step_engaging .nothing observer hphase]
    rfl
  -- The supervisor begins now, and then no thread is to be had for the one just asked for.
  let late : Traffic ω :=
    { relay := traffic.relay.withServer engaged, calls := calls ++ [.launching observer] }
  have hlate : late.supervisors[number]? = some supervisor := hsupervisor
  obtain ⟨hhub, hnoted, hcalls⟩ := move_supervisor .nothing hlate
  have hstep : supervisor.step .nothing late.relay.hub =
      (supervisor.note late.relay.hub.server, late.relay.hub) := by
    simp [Supervisor.step, hplace]
  rw [hstep] at hhub hnoted
  obtain ⟨hexcused, hclosed, hkept⟩ := farewells_of_launching hcalls
  rw [← hkept] at hnoted
  have hlistener : (late.move (.work (.supervisor number) .nothing)).server.cleanUp.listener =
      none := by
    rw [Traffic.server, Relay.server, hhub]
    simp [Server.cleanUp, late, engaged, Relay.withServer, Relay.withHub, Hub.withServer]
  have htold := farewells_of_seeking hnoted rfl rfl (hclosed ▸ hlistener)
  let engaging : List Move := [.begin (.serve observer), .resume calls.length .nothing]
  let refused : List Move :=
    [.resume calls.length (.failure ""), .resume calls.length .nothing,
      .resume calls.length .nothing]
  let ending : List Move := List.replicate 3 (.work (.supervisor number) .nothing)
  refine ⟨opening ++ engaging ++ .work (.supervisor number) .nothing :: (refused ++ ending), ?_, ?_⟩
  · rw [observers_append, observers_append, observers_eq_nil hnone]
    rfl
  · rw [run_append, hengaged, run_cons, run_append, htold, hexcused]
    simp only [List.count_append, List.count_singleton_self]
    omega

theorem Overtaken.exists_telling_twice {traffic : Traffic ω} (hovertaken : traffic.Overtaken)
    (observer : Nat) :
    ∃ moves, observers moves = [observer] ∧
      2 ≤ (traffic.run moves).farewells.count observer := by
  obtain ⟨hrest, ⟨call, hmem, hlaunching⟩ | ⟨supervisor, hmem, hahead⟩⟩ := hovertaken
  · obtain ⟨number, hcall⟩ := List.getElem?_of_mem hmem
    cases call with
    | launching other =>
        have hrestNext : (traffic.move (.resume number .nothing)).server.phase =
            .uninitialized := by
          rw [server_resume .nothing hcall]
          exact hrest
        have hnew : (traffic.move (.resume number .nothing)).supervisors[
            traffic.supervisors.length]? = some {} := by
          rw [supervisors_resume .nothing hcall]
          exact List.getElem?_concat_length
        obtain ⟨moves, hobservers, htwice⟩ :=
          Traffic.exists_telling_twice hrestNext hnew rfl observer
        exact ⟨.resume number .nothing :: moves, hobservers, htwice⟩
    | _ => cases hlaunching
  · obtain ⟨number, hsupervisor⟩ := List.getElem?_of_mem hmem
    exact Traffic.exists_telling_twice hrest hsupervisor hahead observer

/-- A move that overtakes a supervisor asks for none. -/
theorem observers_of_overtaken {traffic : Traffic ω} {move : Move}
    (hpunctual : ¬ traffic.Overtaken) (hovertaken : (traffic.move move).Overtaken) :
    observers [move] = [] := by
  cases move with
  | begin operation =>
      refine absurd ⟨hovertaken.1, hovertaken.2.imp ?_ id⟩ hpunctual
      rintro ⟨call, hmem, hlaunching⟩
      rcases List.mem_append.mp hmem with hold | hnew
      · exact ⟨call, hold, hlaunching⟩
      · rw [List.mem_singleton.mp hnew, (waits_ofOperation operation).2] at hlaunching
        cases hlaunching
  | resume | work => rfl

/-- **Everybody is told once as long as no supervisor is overtaken, and no longer.** Whoever asked
to be served on behalf of an observer of its own has it told at most once, and told if the call is
refused or the supervisor that it starts has ended, unless the server is closed at some time before
a supervisor has begun that was asked for. From the first time on that it is closed so, the run can
go on to one in which an observer is told twice. -/
theorem told_once_until_overtaken (world : ω) (moves : List Move)
    (hdistinct : (observers moves).Nodup) (hpunctual : (atRest world).Punctual moves) :
    (atRest world).ToldOnce moves ∧
      ∀ move, (((atRest world).run moves).move move).Overtaken →
        ∃ more, (observers (moves ++ move :: more)).Nodup ∧
          ¬ (atRest world).ToldOnce (moves ++ move :: more) := by
  refine ⟨toldOnce_of_punctual world hdistinct hpunctual, ?_⟩
  intro move hovertaken
  have hnone := observers_of_overtaken (hpunctual moves (List.prefix_refl moves)) hovertaken
  obtain ⟨observer, hfresh⟩ := Infinite.exists_notMem_finset (observers moves).toFinset
  rw [List.mem_toFinset] at hfresh
  obtain ⟨more, hmore, htwice⟩ := hovertaken.exists_telling_twice observer
  have hobservers : observers (moves ++ move :: more) = observers moves ++ [observer] := by
    rw [observers_append, ← List.singleton_append, observers_append, hnone, hmore,
      List.nil_append]
  refine ⟨more, ?_, ?_⟩
  · rw [hobservers]
    exact List.nodup_append.mpr ⟨hdistinct, List.nodup_singleton observer, by
      rintro other hother _ hlast rfl
      exact hfresh (List.mem_singleton.mp hlast ▸ hother)⟩
  · intro htold
    have honce := htold.at_most observer (by simp [hobservers])
    rw [run_append, run_cons] at honce
    omega

/-! ### Runs in which it matters -/

omit [Audience ω] in
theorem overtaken_iff (traffic : Traffic ω) :
    traffic.Overtaken ↔ traffic.server.phase = .uninitialized ∧
      (traffic.calls.any Call.isLaunching = true ∨
        traffic.supervisors.any (fun supervisor => supervisor.standing == .ahead) = true) := by
  simp [Overtaken, Pending]

instance (traffic : Traffic ω) : Decidable traffic.Overtaken :=
  decidable_of_iff _ traffic.overtaken_iff.symm

instance (traffic : Traffic ω) (moves : List Move) : Decidable (traffic.Punctual moves) :=
  decidable_of_iff (∀ before ∈ moves.inits, ¬ (traffic.run before).Overtaken) (by
    simp [Punctual])

/-- A socket is opened and two calls ask to be served; the second is about to be refused before the
supervisor of the first has begun. -/
def hastyMoves : List Move := askedMoves ++ [.begin (.serve 1)]

theorem told_once_until_overtaken_hasty :
    ((observers hastyMoves).Nodup ∧ (atRest ()).Punctual hastyMoves) ∧
      (atRest ()).ToldOnce hastyMoves ∧
      ∃ more, (observers (hastyMoves ++ .resume 2 .nothing :: more)).Nodup ∧
        ¬ (atRest ()).ToldOnce (hastyMoves ++ .resume 2 .nothing :: more) := by
  have hdistinct : (observers hastyMoves).Nodup := by decide
  have hpunctual : (atRest ()).Punctual hastyMoves := by decide +kernel
  obtain ⟨htold, hbroken⟩ := told_once_until_overtaken () hastyMoves hdistinct hpunctual
  exact ⟨⟨hdistinct, hpunctual⟩, htold, hbroken (.resume 2 .nothing) (by decide +kernel)⟩

/-- After the refusal a second socket is opened and a third call is served. Both supervisors begin
only now, and end without a client. -/
def overtakenMoves : List Move :=
  hastyMoves ++ List.replicate 2 (.resume 2 .nothing) ++ openingMoves 3 ++ servingMoves 4 2 ++
    workMoves (.supervisor 0)
      [.nothing, .nothing, .nothing, .failure "", .nothing, .nothing, .nothing] ++
    List.replicate 5 (.work (.supervisor 1) .nothing)

/-- The observer of the first call is never told, although the supervisor that was started for it
has ended; the one of the third call is told twice. -/
theorem third_observer_told_twice :
    (observers overtakenMoves = [0, 1, 2] ∧
      ((atRest ()).run overtakenMoves).supervisors.map Supervisor.isEnded = [true, true] ∧
      ((atRest ()).run overtakenMoves).farewells = [1, 2, 2]) ∧
    ¬ (atRest ()).ToldOnce overtakenMoves := by
  have hrun : observers overtakenMoves = [0, 1, 2] ∧
      ((atRest ()).run overtakenMoves).supervisors.map Supervisor.isEnded = [true, true] ∧
      ((atRest ()).run overtakenMoves).farewells = [1, 2, 2] := by decide +kernel
  refine ⟨hrun, fun htold => ?_⟩
  have honce := htold.at_most 2 (by simp [hrun.1])
  rw [hrun.2.2] at honce
  simp at honce

end TunerRelay.Relay.Traffic
