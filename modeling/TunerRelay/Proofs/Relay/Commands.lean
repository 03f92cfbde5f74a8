import TunerRelay.Adapter.Basic
import TunerRelay.Proofs.Relay.Counting
import TunerRelay.Proofs.Relay.Stranding

/-!
# Commands of a client

A relay hands on the commands of a client as they stand in the bytes that the client sends, however
these arrive and whatever else is going on. It counts each of them once. Only a reader that sees its
session left, and then another one served, drops the piece of a record that it has and begins anew in
the middle of the stream.
-/

namespace TunerRelay

namespace Server

/-- From stopping there is no way back to serving but through a new session. -/
theorem Quiet.phase_ne_serving {server next : Server} (hquiet : Quiet server next)
    (hstopping : server.phase = .stopping) : next.phase ≠ .serving := by
  cases hquiet with
  | stay | countSent =>
      intro hserving
      cases hstopping.symm.trans hserving
  | listen endpoint hphase | engage observer hphase | register connection hphase | serve hphase =>
      cases hstopping.symm.trans hphase
  | halt => exact nofun
  | close =>
      rw [phase_cleanUp]
      exact nofun

end Server

namespace Relay

open TunerRelay.Wire (Record)

variable {ω : Type} [Audience ω]

namespace Traffic

theorem sound_run {world : ω} (moves : List Move) {number : Nat} {reader : Reader}
    (hreader : ((atRest world).run moves).reader? number = some reader) : reader.Sound := by
  induction moves using List.reverseRecOn generalizing reader with
  | nil => cases hreader
  | append_singleton moves move ih =>
      rw [run_concat] at hreader
      rcases reader?_move move number (staffed_run world moves) with
        hsame | ⟨-, hnew⟩ | ⟨signal, observer, earlier, -, hearlier, -, hstep, -⟩
      · exact ih (hsame.symm.trans hreader)
      · rw [hnew] at hreader
        cases hreader
        exact Reader.sound_start
      · rw [hstep] at hreader
        cases hreader
        exact (ih hearlier).step observer signal _

/-! ### Sessions that are not served again -/

/-- Once the client of the reader is no longer served, nobody is until the reader has ended. -/
def Steadfast (traffic : Traffic ω) (number : Nat) (moves : List Move) : Prop :=
  ∀ first second reader, first <+: second → second <+: moves →
    ((traffic.run first).reader? number).isSome = true →
    (traffic.run first).server.phase ≠ .serving →
    (traffic.run second).reader? number = some reader → reader.isEnded = false →
    (traffic.run second).server.phase ≠ .serving

theorem Steadfast.of_concat {traffic : Traffic ω} {number : Nat} {moves : List Move} {move : Move}
    (hsteadfast : traffic.Steadfast number (moves ++ [move])) : traffic.Steadfast number moves :=
  fun first second reader hfirst hsecond =>
    hsteadfast first second reader hfirst (hsecond.trans (List.prefix_append moves [move]))

/-- While the client is served the reader has lost nothing, and in any case its records are the
first of the stream. -/
theorem aligned_run {world : ω} (moves : List Move) {number : Nat} {reader : Reader}
    (hsteadfast : (atRest world).Steadfast number moves)
    (hreader : ((atRest world).run moves).reader? number = some reader) :
    reader.Aligned ∧
      (((atRest world).run moves).server.phase = .serving → reader.isEnded = false →
        reader.Exact) := by
  induction moves using List.reverseRecOn generalizing reader with
  | nil => cases hreader
  | append_singleton moves move ih =>
      have hback := fun later => hsteadfast moves (moves ++ [move]) later
        (List.prefix_append moves [move]) (List.prefix_refl _)
      rw [run_concat] at hback hreader ⊢
      rcases reader?_move move number (staffed_run world moves) with
        hsame | ⟨-, hnew⟩ | ⟨signal, observer, earlier, -, hearlier, -, hstep, hhub⟩
      · have hstill := hsame.symm.trans hreader
        obtain ⟨haligned, hexact⟩ := ih hsteadfast.of_concat hstill
        refine ⟨haligned, fun hserving hrunning => hexact ?_ hrunning⟩
        by_contra hleft
        exact hback reader (by rw [hstill]; rfl) hleft hreader hrunning hserving
      · rw [hnew] at hreader
        cases hreader
        exact ⟨Reader.exact_start.aligned, fun _ _ => Reader.exact_start⟩
      · have hnext : (((atRest world).run moves).move move).relay.hub.isServing = true ↔
            (((atRest world).run moves).move move).server.phase = .serving := Hub.isServing_iff
        rw [hhub] at hnext
        rw [hstep] at hreader
        cases hreader
        obtain ⟨haligned, hexact⟩ := ih hsteadfast.of_concat hearlier
        have hrunning : (earlier.step observer signal
            ((atRest world).run moves).relay.hub).1.isEnded = false → earlier.isEnded = false := by
          intro hrunning
          by_contra hended
          rw [Bool.not_eq_false] at hended
          rw [Reader.isEnded_step observer signal _ hended, hended] at hrunning
          cases hrunning
        have hkept : (earlier.step observer signal
              ((atRest world).run moves).relay.hub).2.isServing = true →
            (earlier.step observer signal
              ((atRest world).run moves).relay.hub).1.isEnded = false →
            (earlier.step observer signal ((atRest world).run moves).relay.hub).1.Exact := by
          intro hserves hgoing
          have hserving : ((atRest world).run moves).server.phase = .serving := by
            by_contra hleft
            exact hback _ (by rw [hearlier]; rfl) hleft hstep hgoing (hnext.mp hserves)
          exact (hexact hserving (hrunning hgoing)).step observer signal
            (Hub.isServing_iff.mpr hserving) hserves
        refine ⟨?_, fun hserving => hkept (hnext.mpr hserving)⟩
        by_cases hdecides : (∃ record, earlier.place = .judging record) ∧
            ((atRest world).run moves).relay.hub.isServing = true
        · obtain ⟨⟨record, hplace⟩, hserves⟩ := hdecides
          refine (hkept ?_ ?_).aligned
          · simpa [Reader.step, hplace] using hserves
          · simp [Reader.step, hplace, hserves, Reader.goTo, Reader.isEnded]
        · refine haligned.step observer signal fun hjudging => ?_
          exact Bool.eq_false_iff.mpr fun hserves => hdecides ⟨hjudging, hserves⟩

theorem isSome_reader?_run {world : ω} {number : Nat} (first second : List Move)
    (hreader : (((atRest world).run first).reader? number).isSome = true) :
    (((atRest world).run (first ++ second)).reader? number).isSome = true := by
  induction second using List.reverseRecOn with
  | nil =>
      rw [List.append_nil]
      exact hreader
  | append_singleton second move ih =>
      rw [← List.append_assoc, run_concat]
      rcases reader?_move move number (staffed_run world (first ++ second)) with
        hsame | ⟨-, hnew⟩ | ⟨_, _, _, -, -, -, hstep, -⟩
      · rw [hsame]
        exact ih
      · rw [hnew]
        rfl
      · rw [hstep]
        rfl

/-- Once its client is not served any more, the reader hands on what it had decided on and no
more. -/
theorem records_after {world : ω} {number : Nat} (first second : List Move)
    {earlier reader : Reader} (hsteadfast : (atRest world).Steadfast number (first ++ second))
    (hearlier : ((atRest world).run first).reader? number = some earlier)
    (hleft : ((atRest world).run first).server.phase ≠ .serving)
    (hreader : ((atRest world).run (first ++ second)).reader? number = some reader) :
    reader.records ++ reader.place.committed = earlier.records ++ earlier.place.committed := by
  induction second using List.reverseRecOn generalizing reader with
  | nil =>
      rw [List.append_nil, hearlier] at hreader
      cases hreader
      rfl
  | append_singleton second move ih =>
      rw [← List.append_assoc] at hsteadfast hreader
      rw [run_concat] at hreader
      rcases reader?_move move number (staffed_run world (first ++ second)) with
        hsame | ⟨hnone, -⟩ | ⟨signal, observer, before, -, hbefore, -, hstep, -⟩
      · exact ih hsteadfast.of_concat (hsame.symm.trans hreader)
      · have hsome := isSome_reader?_run first second (by rw [hearlier]; rfl)
        rw [hnone] at hsome
        cases hsome
      · rw [hstep] at hreader
        cases hreader
        rw [Reader.records_step observer signal]
        · exact ih hsteadfast.of_concat hbefore
        · rintro ⟨record, hplace⟩
          have hnot := hsteadfast first (first ++ second) before (List.prefix_append first second)
            (List.prefix_append _ [move]) (by rw [hearlier]; rfl) hleft hbefore
            (by simp [Reader.isEnded, hplace])
          exact Bool.eq_false_iff.mpr fun hserving => hnot (Hub.isServing_iff.mp hserving)

theorem phase_move_of_stopping {traffic : Traffic ω} (move : Move)
    (hstopping : traffic.server.phase = .stopping) :
    (traffic.move move).server.phase ≠ .serving := by
  cases move with
  | begin operation =>
      change traffic.server.phase ≠ .serving
      rw [hstopping]
      exact nofun
  | resume number signal =>
      cases hcall : traffic.calls[number]? with
      | none =>
          rw [move_resume_of_none signal hcall, hstopping]
          exact nofun
      | some call =>
          rw [server_resume signal hcall]
          have hphase : traffic.relay.server.phase = .stopping := hstopping
          rcases Call.turn_step call signal traffic.relay with hturn | ⟨-, -, hopen, -⟩
          · rw [hphase] at hturn
            intro hserving
            rw [hserving] at hturn
            cases hturn
          · cases hphase.symm.trans hopen
  | work worker signal =>
      cases hworker : traffic.supervisors[worker.number]? with
      | none =>
          rw [move_work_of_none signal hworker, hstopping]
          exact nofun
      | some acting =>
          rw [server_work signal hworker]
          have hphase : traffic.relay.hub.server.phase = .stopping := hstopping
          have hserved := (Worker.work_step worker signal acting traffic.relay.hub).quiet_or
          rcases hserved with hquiet | hsame
          · exact hquiet.phase_ne_serving hphase
          · rw [hsame, hphase]
            exact nofun

omit [Audience ω] in
/-- While a reader goes on, its session is served or stopping. -/
theorem isServed_of_reader {traffic : Traffic ω} {number : Nat} {reader : Reader}
    (hcrewed : traffic.Crewed) (htended : traffic.Tended)
    (hreader : traffic.reader? number = some reader) (hrunning : reader.isEnded = false) :
    traffic.server.phase.IsServed := by
  obtain ⟨supervisor, hsupervisor, hown⟩ := Option.bind_eq_some_iff.mp hreader
  have hmem := List.mem_of_getElem? hsupervisor
  refine hcrewed.served supervisor hmem (Or.inr ?_)
  refine ((htended supervisor hmem).resolve_left ?_).1
  simp [Supervisor.readerIsEnded, hown, hrunning]

/-- In a run that strands no supervisor, no client is served while the reader of another is left. -/
theorem steadfast_of_careful {world : ω} {moves : List Move} (number : Nat)
    (hdisciplined : (atRest world).Disciplined moves) (hcareful : (atRest world).Careful moves) :
    (atRest world).Steadfast number moves := by
  rintro first second reader ⟨rest, rfl⟩ ⟨more, rfl⟩ hstarted hleft hreader hrunning
  induction rest using List.reverseRecOn generalizing reader more with
  | nil =>
      rw [List.append_nil]
      exact hleft
  | append_singleton rest move ih =>
      rw [← List.append_assoc] at hreader ⊢
      rw [run_concat] at hreader ⊢
      -- The reader was going on before the move, too.
      have hbefore : ∃ earlier, ((atRest world).run (first ++ rest)).reader? number = some earlier ∧
          earlier.isEnded = false := by
        have hsome := isSome_reader?_run first rest hstarted
        rcases reader?_move move number (staffed_run world (first ++ rest)) with
          hsame | ⟨hnone, -⟩ | ⟨signal, observer, earlier, -, hearlier, -, hstep, -⟩
        · exact ⟨reader, hsame.symm.trans hreader, hrunning⟩
        · rw [hnone] at hsome
          cases hsome
        · refine ⟨earlier, hearlier, ?_⟩
          by_contra hended
          rw [Bool.not_eq_false] at hended
          rw [hstep, Reader.isEnded_step observer signal _ hended] at hreader
          cases hreader
          rw [hended] at hrunning
          cases hrunning
      obtain ⟨earlier, hearlier, hgoing⟩ := hbefore
      have hmoves : first ++ (rest ++ [move]) ++ more = first ++ rest ++ ([move] ++ more) := by
        simp only [List.append_assoc]
      rw [hmoves] at hdisciplined hcareful
      have hleftBefore := ih earlier ([move] ++ more) hdisciplined hcareful hearlier hgoing
      have hcrewed := (crewed_run (first ++ rest) (crewed_atRest world) (tended_atRest world)
        ((throughout_append _ _).mp hdisciplined).1 ((throughout_append _ _).mp hcareful).1).1
      have hserved := isServed_of_reader hcrewed
        (tended_run (first ++ rest) (tended_atRest world)) hearlier hgoing
      exact phase_move_of_stopping move (hserved.resolve_left hleftBefore)

end Traffic

end Relay

/-- The command to exit makes every adapter ask for a stop. -/
theorem Adapters.stops_of_exit {σ : Type} [Device.Tuner σ] (adapters : Adapters σ) (adapter : Nat)
    {record : Wire.Record} (hopcode : record.opcode = 0x7e) :
    (Relay.Audience.hear adapter record adapters).1 = true := by
  have hcommand : record.command? = some .exit := by
    unfold Wire.Record.command?
    rw [hopcode]
    rfl
  change (adapters.react record).1 = true
  simp only [react, Adapter.Reaction.ofRecord, hcommand, Adapter.Reaction.ofCommand]

namespace Relay

open TunerRelay.Wire (Record)

variable {ω : Type} [Audience ω]

theorem Hub.phase_hear_of_stop {hub : Hub ω} {observer : Nat} {record : Record}
    (hstops : (Audience.hear observer record hub.world).1 = true) :
    (hub.hear observer record).server.phase ≠ .serving := by
  unfold Hub.hear
  simp only [hstops, if_true]
  change hub.server.stop.phase ≠ .serving
  unfold Server.stop
  split
  · rename_i hrest
    rw [hrest]
    exact nofun
  · split
    · rw [Server.phase_cleanUp]
      exact nofun
    · exact nofun

namespace Traffic

/-- After a command that makes the server stop no further one is handed on. -/
theorem records_after_stop {world : ω} {number : Nat} (first second : List Move) (signal : Signal)
    {observer : Nat} {record : Record} {earlier reader : Reader}
    (hsteadfast : (atRest world).Steadfast number
      (first ++ [.work (.reader number) signal] ++ second))
    (hearlier : ((atRest world).run first).reader? number = some earlier)
    (hobserver : ((atRest world).run first).observer? number = some observer)
    (hacting : earlier.place = .acting record)
    (hstops : (Audience.hear observer record ((atRest world).run first).relay.hub.world).1 = true)
    (hreader : ((atRest world).run (first ++ [.work (.reader number) signal] ++ second)).reader?
      number = some reader) :
    reader.records ++ reader.place.committed = earlier.records := by
  have hlast : ((atRest world).run (first ++ [.work (.reader number) signal])).reader? number =
      some (earlier.goTo .idle) ∧
        ((atRest world).run (first ++ [.work (.reader number) signal])).server.phase ≠
          .serving := by
    rw [run_concat]
    obtain ⟨supervisor, hsupervisor, hown⟩ := Option.bind_eq_some_iff.mp hearlier
    have hserved : supervisor.observer = some observer := by
      simpa [observer?, hsupervisor] using hobserver
    have hworker : ((atRest world).run first).supervisors[(Worker.reader number).number]? =
      some supervisor := hsupervisor
    have hstep : (Worker.reader number).step signal supervisor
        ((atRest world).run first).relay.hub =
          ({ supervisor with reader := some (earlier.goTo .idle) },
            ((atRest world).run first).relay.hub.hear observer record) := by
      simp [Worker.step, Supervisor.stepReader, hown, hserved, Reader.step, hacting]
    constructor
    · unfold reader?
      rw [supervisors_work signal hworker, hstep]
      simp only [Worker.number]
      rw [List.getElem?_set_self (List.getElem?_eq_some_iff.mp hsupervisor).1]
      rfl
    · rw [server_work signal hworker, hstep]
      exact Hub.phase_hear_of_stop hstops
  have hafter := records_after _ second hsteadfast hlast.1 hlast.2 hreader
  rw [hafter]
  exact List.append_nil _

end Traffic

/-- The reader has made all it can of the bytes that it got. -/
def Reader.IsExhausted (reader : Reader) : Prop :=
  (∃ piece, reader.place = .receiving piece) ∨ reader.place = .halting

theorem Reader.IsExhausted.isEnded_eq_false {reader : Reader} (hexhausted : reader.IsExhausted) :
    reader.isEnded = false := by
  rcases hexhausted with ⟨piece, hplace⟩ | hplace <;> simp [isEnded, hplace]

theorem Reader.Exact.eq_readAll {reader : Reader} (hexact : reader.Exact)
    (hexhausted : reader.IsExhausted) :
    reader.records = Record.readAll reader.received ∧
      reader.records.length = reader.received.length / Record.size := by
  obtain ⟨rest, hreceived, hkeeps⟩ := hexact
  have hrest : rest.length < Record.size := by
    rcases hexhausted with ⟨piece, hplace⟩ | hplace
    · rw [hplace] at hkeeps
      rw [hkeeps.1]
      exact hkeeps.2
    · rw [hplace] at hkeeps
      exact hkeeps
  obtain ⟨hall, hlength⟩ := Record.readAll_eq_of_rest hreceived hrest
  exact ⟨hall.symm, hlength⟩

namespace Traffic

/-- **A client's commands are handed on as they stand in its bytes.** Whatever pieces the bytes
arrive in, and whatever callers and other workers do meanwhile, every record that is handed on stands
in the stream, in order, and is counted once. In a session that is not served again once it was left,
as none is in a run that strands no supervisor, the records are the first of the stream: all of its
whole records, if the client is served until the stream ends. Once the client is not served any more,
at most the record is handed on that had been decided on before. -/
theorem records_handed_on {world : ω} {moves : List Move} {number : Nat} {reader : Reader}
    (hreader : ((atRest world).run moves).reader? number = some reader) :
    Record.Among reader.records reader.received ∧
    ((atRest world).run moves).server.counters.commands =
      UInt64.ofNat (((atRest world).run moves).countedElsewhere number + reader.counted) ∧
    (∀ first, first <+: moves → ((atRest world).run first).reader? number = none →
      ((atRest world).run first).countedElsewhere number =
        ((atRest world).run moves).countedElsewhere number →
      ((atRest world).run moves).server.counters.commands =
        ((atRest world).run first).server.counters.commands + UInt64.ofNat reader.counted) ∧
    ((atRest world).Disciplined moves → (atRest world).Careful moves →
      (atRest world).Steadfast number moves) ∧
    ((atRest world).Steadfast number moves →
      (∀ stream, reader.received <+: stream →
        reader.records = (Record.readAll stream).take reader.records.length ∧
          Record.size * reader.records.length ≤ reader.received.length) ∧
      (((atRest world).run moves).server.phase = .serving → reader.IsExhausted →
        reader.records = Record.readAll reader.received ∧
          reader.records.length = reader.received.length / Record.size ∧
          ∀ (moves' : List Move) (number' : Nat) (reader' : Reader),
            ((atRest world).run moves').reader? number' = some reader' →
            (atRest world).Steadfast number' moves' →
            ((atRest world).run moves').server.phase = .serving → reader'.IsExhausted →
            reader'.received = reader.received → reader'.records = reader.records) ∧
      (∀ first earlier, first <+: moves →
        ((atRest world).run first).reader? number = some earlier →
        ((atRest world).run first).server.phase ≠ .serving →
        reader.records ++ reader.place.committed = earlier.records ++ earlier.place.committed) ∧
      ∀ first signal earlier observer record,
        first ++ [.work (.reader number) signal] <+: moves →
        ((atRest world).run first).reader? number = some earlier →
        ((atRest world).run first).observer? number = some observer →
        earlier.place = .acting record →
        (Audience.hear observer record ((atRest world).run first).relay.hub.world).1 = true →
        reader.records ++ reader.place.committed = earlier.records) ∧
    ∀ (σ : Type) [Device.Tuner σ] (adapters : Adapters σ) (adapter : Nat) (record : Record),
      record.opcode = 0x7e → (Audience.hear adapter record adapters).1 = true := by
  have hcount : ∀ number' moves', ((atRest world).run moves').server.counters.commands =
      UInt64.ofNat (((atRest world).run moves').countedElsewhere number' +
        ((((atRest world).run moves').reader? number').map Reader.counted).getD 0) := by
    intro number' moves'
    rw [← counted_eq_add]
    exact commands_run world moves'
  refine ⟨?_, ?_, ?_, steadfast_of_careful number, ?_, ?_⟩
  · obtain ⟨front, hreceived, hamong⟩ := sound_run moves hreader
    rw [hreceived]
    exact hamong.append _
  · rw [hcount number moves, hreader]
    rfl
  · intro first _ hnone hsame
    rw [hcount number moves, hcount number first, hreader, hnone, hsame, ← UInt64.ofNat_add]
    rfl
  · intro hsteadfast
    obtain ⟨haligned, hexact⟩ := aligned_run moves hsteadfast hreader
    have hbegins : Record.allBytes reader.records <+: reader.received := by
      unfold Reader.Aligned at haligned
      rw [Record.allBytes_append] at haligned
      exact (List.prefix_append _ _).trans haligned
    refine ⟨?_, ?_, ?_, ?_⟩
    · intro stream hstream
      refine ⟨Record.eq_take_readAll (hbegins.trans hstream), ?_⟩
      rw [← Record.length_allBytes]
      exact hbegins.length_le
    · intro hserving hexhausted
      have hall := (hexact hserving hexhausted.isEnded_eq_false).eq_readAll hexhausted
      refine ⟨hall.1, hall.2, ?_⟩
      intro moves' number' reader' hreader' hsteadfast' hserving' hexhausted' hreceived
      have hexact' := (aligned_run moves' hsteadfast' hreader').2 hserving'
        hexhausted'.isEnded_eq_false
      rw [(hexact'.eq_readAll hexhausted').1, hall.1, hreceived]
    · rintro first earlier ⟨second, rfl⟩ hearlier hleft
      exact records_after first second hsteadfast hearlier hleft hreader
    · rintro first signal earlier observer record ⟨second, rfl⟩ hearlier hobserver hacting hstops
      exact records_after_stop first second signal hsteadfast hearlier hobserver hacting hstops
        hreader
  · intro σ _ adapters adapter record hopcode
    exact adapters.stops_of_exit adapter hopcode

/-- Seven bytes arrive in three pieces, with a time-out in between. -/
def readerSignals : List Signal :=
  [.nothing, .nothing, .received [0x01, 0], .nothing, .nothing, .nothing,
    .received [0, 0, 7, 0x7e, 0], .nothing, .nothing, .nothing, .nothing, .nothing, .nothing,
    .nothing, .received [0x7e, 0], .nothing]

def servedMoves : List Move :=
  askedMoves ++ (workMoves (.supervisor 0) (servingSignals 7) ++
    workMoves (.reader 0) readerSignals)

/-- The reader after these moves. -/
def servedReader : Reader :=
  { place := .receiving [0x7e, 0], received := [0x01, 0, 0, 0, 7, 0x7e, 0]
    records := [{ opcode := 0x01, parameter := 7 }] }

theorem disciplined_servedMoves :
    (atRest ()).Disciplined servedMoves ∧ (atRest ()).Careful servedMoves :=
  disciplined_append disciplined_askedMoves
    (disciplined_append (disciplined_workMoves _ (.supervisor 0) (servingSignals 7))
      (disciplined_workMoves _ (.reader 0) readerSignals))

theorem records_handed_on_served :
    ((atRest ()).run servedMoves).reader? 0 = some servedReader ∧
      (atRest ()).Steadfast 0 servedMoves ∧
      servedReader.records = Record.readAll servedReader.received ∧
      ((atRest ()).run servedMoves).server.counters.commands = 1 := by
  have hreader : ((atRest ()).run servedMoves).reader? 0 = some servedReader := by decide +kernel
  have hserving : ((atRest ()).run servedMoves).server.phase = .serving := by decide +kernel
  obtain ⟨-, hcount, -, hsteadfast, hall, -⟩ := records_handed_on hreader
  have hsteadfast := hsteadfast disciplined_servedMoves.1 disciplined_servedMoves.2
  have hwhole := (hall hsteadfast).2.1 hserving (Or.inl ⟨_, rfl⟩)
  refine ⟨hreader, hsteadfast, hwhole.1, hcount.trans ?_⟩
  decide +kernel

/-- Three bytes of a record have arrived when another call asks to be served, is refused and so closes
the server. The reader sees that. -/
def leavingMoves : List Move :=
  askedMoves ++ workMoves (.supervisor 0) (servingSignals 7) ++
    workMoves (.reader 0) [.nothing, .nothing, .received [1, 2, 3]] ++
    [.begin (.serve 1), .resume 2 .nothing, .work (.reader 0) .nothing]

/-- The next session has its client before the reader of the first looks again. -/
def returningMoves : List Move :=
  .resume 2 .nothing :: openingMoves 3 ++ servingMoves 4 2 ++
    workMoves (.supervisor 1) (servingSignals 8)

/-- The rest of the bytes arrives, as many as a record has. -/
def restMoves : List Move :=
  workMoves (.reader 0)
    [.nothing, .nothing, .received [4, 5, 6, 7, 8], .nothing, .nothing, .nothing, .nothing]

/-- The piece of a record that had arrived is dropped, and what is handed on stands nowhere in the
stream that is cut into records from its start. -/
theorem piece_lost_between_sessions :
    let left := (atRest ()).run leavingMoves
    let back := left.run returningMoves
    let later := back.run restMoves
    (left.server.phase = .uninitialized ∧ back.server.phase = .serving) ∧
    ∃ reader, later.reader? 0 = some reader ∧ reader.received = [1, 2, 3, 4, 5, 6, 7, 8] ∧
      reader.records = [{ opcode := 4, parameter := 0x05060708 }] ∧
      Record.readAll reader.received = [{ opcode := 1, parameter := 0x02030405 }] ∧
      ∀ count, reader.records ≠ (Record.readAll reader.received).take count := by
  refine ⟨⟨rfl, rfl⟩, _, rfl, rfl, rfl, rfl, fun count hsame => ?_⟩
  have hmem : { opcode := 4, parameter := 0x05060708 } ∈
      (Record.readAll [1, 2, 3, 4, 5, 6, 7, 8]).take count :=
    hsame ▸ List.mem_singleton_self _
  exact absurd (List.mem_of_mem_take hmem) (by decide)

end Traffic

end Relay

end TunerRelay
