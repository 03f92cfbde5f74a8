import TunerRelay.Proofs.Pool.Packing
import TunerRelay.Proofs.Relay.Upkeep
import TunerRelay.Relay.Mishap

/-!
# A write and what the socket takes of it

A supervisor sends a buffer in turns: it looks whether the client is still served and offers the
socket what is left, until all is taken, the client is no longer served or the socket fails. The
trace of a supervisor keeps these contacts with the outside, write by write. Whatever the looks and
the answers are, the offers of a write are what was not taken before, and its result is what the
socket took.
-/

namespace TunerRelay.Relay

open TunerRelay.Pool (Buffer)

/-- Whether a write fails on this answer of the socket. -/
def Signal.fails : Signal → Bool
  | .took 0 | .failure _ => true
  | _ => false

/-- The socket fails on a mishap just when it is not worth another try. -/
theorem Signal.fails_ofMishap (mishap : Mishap) :
    (ofMishap mishap).fails = !mishap.kind.isRetryable := by
  unfold ofMishap
  cases mishap.kind.isRetryable <;> rfl

/-- One contact of a supervisor that writes with the outside. -/
inductive Contact where
  | look (serving : Bool)
  | offer (bytes : List UInt8) (answer : Signal)

namespace Contact

/-- The bytes that the socket took. -/
def taken : Contact → List UInt8
  | .offer bytes (.took count) => bytes.take count
  | _ => []

/-- Whether the write goes on after it. -/
def goesOn : Contact → Bool
  | .look serving => serving
  | .offer _ answer => !answer.fails

/-- Whether the same bytes are offered once more after it. -/
def isRetried : Contact → Bool
  | .look _ | .offer _ (.took _) | .offer _ (.failure _) => false
  | .offer _ _ => true

theorem taken_of_fails (bytes : List UInt8) {answer : Signal} (hfails : answer.fails = true) :
    (offer bytes answer).taken = [] := by
  unfold Signal.fails at hfails
  split at hfails
  · rfl
  · rfl
  · cases hfails

theorem taken_of_isRetried {contact : Contact} (hretried : contact.isRetried = true) :
    contact.taken = [] := by
  cases contact with
  | look serving => rfl
  | offer bytes answer => cases answer <;> first | rfl | cases hretried

theorem goesOn_of_isRetried {contact : Contact} (hretried : contact.isRetried = true) :
    contact.goesOn = true := by
  cases contact with
  | look serving => cases hretried
  | offer bytes answer => cases answer <;> first | rfl | cases hretried

end Contact

/-- All that the socket took. -/
def accepted (contacts : List Contact) : List UInt8 := contacts.flatMap Contact.taken

@[simp]
theorem accepted_nil : accepted [] = [] := rfl

@[simp]
theorem accepted_concat (contacts : List Contact) (contact : Contact) :
    accepted (contacts ++ [contact]) = accepted contacts ++ contact.taken := by
  simp [accepted]

/-- Some contacts bring the socket nothing. -/
theorem accepted_concat_of_taken {contacts : List Contact} {contact : Contact}
    (htaken : contact.taken = []) : accepted (contacts ++ [contact]) = accepted contacts := by
  rw [accepted_concat, htaken, List.append_nil]

inductive Verdict where
  | underWay
  | sent (count : Nat)
  | failed
deriving DecidableEq

def Verdict.ofResult : Option Nat → Verdict
  | some count => .sent count
  | none => .failed

/-- A write of a supervisor: what was to be sent, what happened, and what came of it. -/
structure Write where
  data : List UInt8
  contacts : List Contact
  verdict : Verdict

def Write.accepted (write : Write) : List UInt8 := Relay.accepted write.contacts

/-- Whenever bytes were offered, they were what had not been taken of the data before. -/
def Offers (data : List UInt8) (contacts : List Contact) : Prop :=
  ∀ before bytes answer after, contacts = before ++ .offer bytes answer :: after →
    accepted before ++ bytes = data ∧ bytes ≠ []

/-- How a write and the socket agree. -/
structure Write.Exact (write : Write) : Prop where
  offers : Offers write.data write.contacts
  accepted : write.accepted <+: write.data
  /-- Only the last contact can end it. -/
  goesOn : ∀ contact ∈ write.contacts.dropLast, contact.goesOn = true
  underWay : write.verdict = .underWay → ∀ contact ∈ write.contacts, contact.goesOn = true
  sent : ∀ count, write.verdict = .sent count → count = write.accepted.length
  /-- It is cut short just when the client is no longer served. -/
  short : ∀ count, write.verdict = .sent count →
    (count < write.data.length ↔ write.contacts.getLast? = some (.look false))
  failed : write.verdict = .failed ↔
    ∃ bytes answer, write.contacts.getLast? = some (.offer bytes answer) ∧ answer.fails = true
  /-- Each offer is preceded by a look, and gets rid of a byte unless it is made once more. So the
  write is over after that many contacts, unless it is put off again and again. -/
  brief : write.contacts.length ≤ 2 * (write.data.length + write.contacts.countP Contact.isRetried)

/-! ### One more contact -/

theorem offers_nil (data : List UInt8) : Offers data [] := by
  intro before bytes answer after hsplit
  simp at hsplit

theorem Offers.concat {data : List UInt8} {contacts : List Contact} (hoffers : Offers data contacts)
    {contact : Contact}
    (hcontact : ∀ bytes answer, contact = .offer bytes answer →
      accepted contacts ++ bytes = data ∧ bytes ≠ []) :
    Offers data (contacts ++ [contact]) := by
  intro before bytes answer after hsplit
  rcases List.eq_nil_or_concat after with rfl | ⟨after, last, rfl⟩
  · obtain ⟨rfl, hlast⟩ := List.append_inj' hsplit rfl
    exact hcontact bytes answer (List.singleton_inj.mp hlast)
  · rw [List.concat_eq_append, ← List.cons_append, ← List.append_assoc] at hsplit
    obtain ⟨hinit, -⟩ := List.append_inj' hsplit rfl
    exact hoffers before bytes answer after hinit

/-- A write of which so many bytes have been taken, none of its contacts having ended it. -/
structure Proceeds (data : List UInt8) (offset : Nat) (contacts : List Contact) : Prop where
  offers : Offers data contacts
  accepted : accepted contacts = data.take offset
  within : offset ≤ data.length
  goesOn : ∀ contact ∈ contacts, contact.goesOn = true

namespace Proceeds

variable {data : List UInt8} {offset : Nat} {contacts : List Contact}

theorem start (data : List UInt8) : Proceeds data 0 [] where
  offers := offers_nil data
  accepted := rfl
  within := Nat.zero_le _
  goesOn := nofun

theorem length_accepted (hproceeds : Proceeds data offset contacts) :
    (Relay.accepted contacts).length = offset := by
  rw [hproceeds.accepted, List.length_take_of_le hproceeds.within]

theorem goesOn_concat (hproceeds : Proceeds data offset contacts) {contact : Contact}
    (hcontact : contact.goesOn = true) :
    ∀ other ∈ contacts ++ [contact], other.goesOn = true := by
  intro other hother
  rcases List.mem_append.mp hother with hmem | hlast
  · exact hproceeds.goesOn other hmem
  · rwa [List.mem_singleton.mp hlast]

theorem offers_look (hproceeds : Proceeds data offset contacts) (serving : Bool) :
    Offers data (contacts ++ [.look serving]) :=
  hproceeds.offers.concat nofun

theorem offers_offer (hproceeds : Proceeds data offset contacts) (hleft : offset < data.length)
    (answer : Signal) : Offers data (contacts ++ [.offer (data.drop offset) answer]) := by
  refine hproceeds.offers.concat ?_
  rintro bytes answer ⟨⟩
  rw [hproceeds.accepted, List.take_append_drop]
  exact ⟨rfl, List.ne_nil_of_length_pos (by rw [List.length_drop]; omega)⟩

theorem look (hproceeds : Proceeds data offset contacts) :
    Proceeds data offset (contacts ++ [.look true]) where
  offers := hproceeds.offers_look true
  accepted := (accepted_concat_of_taken rfl).trans hproceeds.accepted
  within := hproceeds.within
  goesOn := hproceeds.goesOn_concat rfl

theorem retry (hproceeds : Proceeds data offset contacts) (hleft : offset < data.length)
    {answer : Signal} (hretried : (Contact.offer (data.drop offset) answer).isRetried = true) :
    Proceeds data offset (contacts ++ [.offer (data.drop offset) answer]) where
  offers := hproceeds.offers_offer hleft answer
  accepted :=
    (accepted_concat_of_taken (Contact.taken_of_isRetried hretried)).trans hproceeds.accepted
  within := hproceeds.within
  goesOn := hproceeds.goesOn_concat (Contact.goesOn_of_isRetried hretried)

theorem take (hproceeds : Proceeds data offset contacts) (hleft : offset < data.length)
    (count : Nat) :
    Proceeds data (offset + ((data.drop offset).take (count + 1)).length)
      (contacts ++ [.offer (data.drop offset) (.took (count + 1))]) where
  offers := hproceeds.offers_offer hleft _
  accepted := by
    rw [accepted_concat, hproceeds.accepted, List.take_add]
    simp [Contact.taken]
  within := by
    rw [List.length_take, List.length_drop]
    omega
  goesOn := hproceeds.goesOn_concat rfl

/-! ### How a write ends -/

theorem accepted_le (hproceeds : Proceeds data offset contacts) :
    Relay.accepted contacts <+: data :=
  ⟨data.drop offset, by rw [hproceeds.accepted, List.take_append_drop]⟩

theorem goesOn_of_getLast? (hproceeds : Proceeds data offset contacts) {last : Contact}
    (hlast : contacts.getLast? = some last) : last.goesOn = true :=
  hproceeds.goesOn last (List.mem_of_getLast? hlast)

theorem fails_of_getLast? (hproceeds : Proceeds data offset contacts) {bytes : List UInt8}
    {answer : Signal} (hlast : contacts.getLast? = some (.offer bytes answer)) :
    answer.fails = false := by
  simpa [Contact.goesOn] using hproceeds.goesOn_of_getLast? hlast

theorem length_le (hproceeds : Proceeds data offset contacts)
    (hbrief : contacts.length ≤ 2 * (offset + contacts.countP Contact.isRetried)) :
    contacts.length ≤ 2 * (data.length + contacts.countP Contact.isRetried) := by
  have hwithin := hproceeds.within
  omega

theorem underWay (hproceeds : Proceeds data offset contacts)
    (hbrief : contacts.length ≤ 2 * (data.length + contacts.countP Contact.isRetried)) :
    Write.Exact { data, contacts, verdict := .underWay } where
  offers := hproceeds.offers
  accepted := hproceeds.accepted_le
  goesOn contact hmem := hproceeds.goesOn contact (List.mem_of_mem_dropLast hmem)
  underWay _ := hproceeds.goesOn
  sent := nofun
  short := nofun
  failed := by
    refine ⟨nofun, ?_⟩
    rintro ⟨bytes, answer, hlast, hfails⟩
    exact absurd ((hproceeds.fails_of_getLast? hlast).symm.trans hfails) Bool.false_ne_true
  brief := hbrief

theorem finish (hproceeds : Proceeds data offset contacts) (hdone : data.length ≤ offset)
    (hbrief : contacts.length ≤ 2 * (offset + contacts.countP Contact.isRetried)) :
    Write.Exact { data, contacts, verdict := .sent offset } where
  offers := hproceeds.offers
  accepted := hproceeds.accepted_le
  goesOn contact hmem := hproceeds.goesOn contact (List.mem_of_mem_dropLast hmem)
  underWay := nofun
  sent := by
    rintro _ ⟨⟩
    exact hproceeds.length_accepted.symm
  short := by
    rintro _ ⟨⟩
    refine ⟨fun hlt => absurd hdone (Nat.not_le_of_lt hlt), fun hlast => ?_⟩
    exact absurd (hproceeds.goesOn_of_getLast? hlast) Bool.false_ne_true
  failed := by
    refine ⟨nofun, ?_⟩
    rintro ⟨bytes, answer, hlast, hfails⟩
    exact absurd ((hproceeds.fails_of_getLast? hlast).symm.trans hfails) Bool.false_ne_true
  brief := hproceeds.length_le hbrief

theorem stop (hproceeds : Proceeds data offset contacts) (hleft : offset < data.length)
    (hbrief : contacts.length ≤ 2 * (offset + contacts.countP Contact.isRetried)) :
    Write.Exact { data, contacts := contacts ++ [.look false], verdict := .sent offset } where
  offers := hproceeds.offers_look false
  accepted := by
    rw [Write.accepted, accepted_concat_of_taken rfl]
    exact hproceeds.accepted_le
  goesOn := by
    rw [List.dropLast_concat]
    exact hproceeds.goesOn
  underWay := nofun
  sent := by
    rintro _ ⟨⟩
    rw [Write.accepted, accepted_concat_of_taken rfl, hproceeds.length_accepted]
  short := by
    rintro _ ⟨⟩
    exact ⟨fun _ => List.getLast?_concat, fun _ => hleft⟩
  failed := by
    refine ⟨nofun, ?_⟩
    rintro ⟨bytes, answer, hlast, -⟩
    simp at hlast
  brief := by
    simp only [List.length_append, List.countP_append, List.length_singleton]
    omega

theorem fail (hproceeds : Proceeds data offset contacts) (hleft : offset < data.length)
    {answer : Signal} (hfails : answer.fails = true)
    (hbrief : contacts.length ≤ 2 * (offset + contacts.countP Contact.isRetried) + 1) :
    Write.Exact
      { data, contacts := contacts ++ [.offer (data.drop offset) answer], verdict := .failed } where
  offers := hproceeds.offers_offer hleft answer
  accepted := by
    rw [Write.accepted, accepted_concat_of_taken (Contact.taken_of_fails _ hfails)]
    exact hproceeds.accepted_le
  goesOn := by
    rw [List.dropLast_concat]
    exact hproceeds.goesOn
  underWay := nofun
  sent := nofun
  short := nofun
  failed := ⟨fun _ => ⟨_, answer, List.getLast?_concat, hfails⟩, fun _ => rfl⟩
  brief := by
    simp only [List.length_append, List.countP_append, List.length_singleton]
    omega

end Proceeds

/-! ### Supervisors and their places -/

namespace Supervisor

/-- The buffer that is being written. -/
def Place.written? : Place → Option Buffer
  | .writing buffer _ | .offering buffer _ => some buffer
  | _ => none

/-- Whether no write is under way and none has just returned. -/
def Place.isAside : Place → Bool
  | .writing _ _ | .offering _ _ | .returning _ _ => false
  | _ => true

/-- Whether the supervisor will not write any more. -/
def Place.isOver : Place → Bool
  | .returning _ none | .halting | .joining | .closing | .notifying | .leaving _ | .ended => true
  | _ => false

/-- The contact with the outside that the next step is, if it is one. -/
def Place.contact? (serving : Bool) (signal : Signal) : Place → Option Contact
  | .writing buffer offset => if (rest buffer offset).isEmpty then none else some (.look serving)
  | .offering buffer offset => some (.offer (rest buffer offset) signal)
  | _ => none

theorem Place.contact?_of_written? {place : Place} (serving : Bool) (signal : Signal)
    (hplace : place.written? = none) : place.contact? serving signal = none := by
  cases place <;> first | rfl | cases hplace

theorem Place.isOver_of_written? {place : Place} {buffer : Buffer}
    (hplace : place.written? = some buffer) : place.isOver = false := by
  cases place <;> first | rfl | cases hplace

/-- Who does not write goes on aside or begins to write. -/
theorem Place.Leads.aside {session : Option Nat} {server next : Server} {place later : Place}
    (hleads : place.Leads session server later next) (hplace : place.written? = none) :
    (later.isAside = true ∨ ∃ buffer, later = .writing buffer 0) ∧
      (place.isOver = true → later.isOver = true) := by
  cases hleads with
  | fetch epoch buffer => exact ⟨.inr ⟨buffer, rfl⟩, nofun⟩
  | giveUp => exact ⟨.inl rfl, fun _ => rfl⟩
  | offer | finish | offerAgain | fail => cases hplace
  | drop | halt | linger | close | inform | quit | leave | stay => exact ⟨.inl rfl, fun _ => rfl⟩
  | _ => exact ⟨.inl rfl, nofun⟩

theorem Steps.aside {supervisor later : Supervisor} {server next : Server}
    (hsteps : supervisor.Steps server later next) (hplace : supervisor.place.written? = none) :
    ((later.place.isAside = true ∨ ∃ buffer, later.place = .writing buffer 0) ∧
      (supervisor.place.isOver = true → later.place.isOver = true)) ∧
      later.sent = supervisor.sent := by
  cases hsteps with
  | walk hleads => exact ⟨hleads.aside hplace, rfl⟩
  | note hat | staff hat => exact ⟨⟨.inl rfl, by rw [hat]; exact nofun⟩, rfl⟩
  | register hat hadmitted hnext =>
      rcases hnext with rfl | rfl <;> exact ⟨⟨.inl rfl, by rw [hat]; exact nofun⟩, rfl⟩
  | send count hat =>
      rw [hat] at hplace
      cases hplace
  | join hat hended => exact ⟨⟨.inl rfl, fun _ => rfl⟩, rfl⟩

end Supervisor

/-! ### The trace of a supervisor -/

/-- A supervisor together with its writes. -/
structure Traced where
  supervisor : Supervisor := {}
  /-- The writes that have returned, in order. -/
  finished : List Write := []
  /-- The contacts of the write under way. -/
  contacts : List Contact := []

namespace Traced

variable {ω : Type} [Audience ω]

/-- The trace begins here. -/
def ofSupervisor (supervisor : Supervisor) : Traced := { supervisor }

/-- The supervisor has gone on, and a write may have returned. -/
def enter (supervisor : Supervisor) (contacts : List Contact) (traced : Traced) : Traced :=
  match supervisor.place with
  | .returning buffer result =>
    { supervisor
      finished :=
        traced.finished ++
          [{ data := buffer.appendTo [], contacts, verdict := .ofResult result }] }
  | _ => { supervisor, finished := traced.finished, contacts }

def step (signal : Signal) (hub : Hub ω) (traced : Traced) : Traced :=
  traced.enter (traced.supervisor.step signal hub).1
    (traced.contacts ++ (traced.supervisor.place.contact? hub.isServing signal).toList)

/-- All writes, with the one that is under way. -/
def writes (traced : Traced) : List Write :=
  traced.finished ++
    (traced.supervisor.place.written?.map fun buffer =>
      { data := buffer.appendTo [], contacts := traced.contacts, verdict := .underWay }).toList

omit [Audience ω] in
@[simp]
theorem supervisor_enter (supervisor : Supervisor) (contacts : List Contact) (traced : Traced) :
    (traced.enter supervisor contacts).supervisor = supervisor := by
  unfold enter
  split <;> rfl

theorem enter_of_isAside {supervisor : Supervisor} {traced : Traced}
    (hnext : supervisor.place.isAside = true ∨ ∃ buffer, supervisor.place = .writing buffer 0)
    (contacts : List Contact) :
    traced.enter supervisor contacts = { supervisor, finished := traced.finished, contacts } := by
  unfold enter
  split
  · rename_i hplace
    simp [hplace, Supervisor.Place.isAside] at hnext
  · rfl

/-- What a step makes of a supervisor and its trace. -/
inductive Steps (traced : Traced) : Traced → Prop where
  | aside {supervisor : Supervisor} (hplace : traced.supervisor.place.written? = none)
    (hnext : supervisor.place.isAside = true ∨ ∃ buffer, supervisor.place = .writing buffer 0)
    (hover : traced.supervisor.place.isOver = true → supervisor.place.isOver = true)
    (hsent : supervisor.sent = traced.supervisor.sent) : Steps traced { traced with supervisor }
  | look {buffer : Buffer} {offset : Nat}
    (hplace : traced.supervisor.place = .writing buffer offset)
    (hleft : offset < (buffer.appendTo []).length) :
    Steps traced
      { traced with
        supervisor := traced.supervisor.goTo (.offering buffer offset)
        contacts := traced.contacts ++ [.look true] }
  | finish {buffer : Buffer} {offset : Nat}
    (hplace : traced.supervisor.place = .writing buffer offset)
    (hdone : (buffer.appendTo []).length ≤ offset) :
    Steps traced
      (traced.enter (traced.supervisor.goTo (.returning buffer (some offset))) traced.contacts)
  | stop {buffer : Buffer} {offset : Nat}
    (hplace : traced.supervisor.place = .writing buffer offset)
    (hleft : offset < (buffer.appendTo []).length) :
    Steps traced
      (traced.enter (traced.supervisor.goTo (.returning buffer (some offset)))
        (traced.contacts ++ [.look false]))
  | retry {buffer : Buffer} {offset : Nat} {answer : Signal}
    (hplace : traced.supervisor.place = .offering buffer offset)
    (hretried : (Contact.offer (Supervisor.rest buffer offset) answer).isRetried = true) :
    Steps traced
      { traced with
        supervisor := traced.supervisor.goTo (.writing buffer offset)
        contacts := traced.contacts ++ [.offer (Supervisor.rest buffer offset) answer] }
  | take {buffer : Buffer} {offset : Nat} (count : Nat)
    (hplace : traced.supervisor.place = .offering buffer offset) :
    Steps traced
      { traced with
        supervisor := traced.supervisor.offer buffer offset (.took (count + 1))
        contacts :=
          traced.contacts ++ [.offer (Supervisor.rest buffer offset) (.took (count + 1))] }
  | fail {buffer : Buffer} {offset : Nat} {answer : Signal}
    (hplace : traced.supervisor.place = .offering buffer offset) (hfails : answer.fails = true) :
    Steps traced
      (traced.enter (traced.supervisor.goTo (.returning buffer none))
        (traced.contacts ++ [.offer (Supervisor.rest buffer offset) answer]))

theorem steps (traced : Traced) (signal : Signal) (hub : Hub ω) :
    traced.Steps (traced.step signal hub) := by
  unfold step
  by_cases hwritten : traced.supervisor.place.written? = none
  · obtain ⟨⟨hnext, hover⟩, hsent⟩ := (traced.supervisor.steps signal hub).aside hwritten
    rw [Supervisor.Place.contact?_of_written? _ _ hwritten, Option.toList_none, List.append_nil,
      enter_of_isAside hnext]
    exact .aside hwritten hnext hover hsent
  · cases hplace : traced.supervisor.place with
    | writing buffer offset =>
        have hrest : (Supervisor.rest buffer offset).isEmpty = true ↔
            (buffer.appendTo []).length ≤ offset := by
          rw [List.isEmpty_iff]
          exact List.drop_eq_nil_iff
        simp only [Supervisor.step, hplace, Supervisor.Place.contact?]
        by_cases hdone : (buffer.appendTo []).length ≤ offset
        · rw [if_pos (hrest.mpr hdone), if_pos (hrest.mpr hdone), Option.toList_none,
            List.append_nil]
          exact .finish hplace hdone
        · rw [if_neg (mt hrest.mp hdone), if_neg (mt hrest.mp hdone)]
          cases hserving : hub.isServing with
          | true => exact .look hplace (Nat.lt_of_not_le hdone)
          | false => exact .stop hplace (Nat.lt_of_not_le hdone)
    | offering buffer offset =>
        simp only [Supervisor.step, hplace, Supervisor.Place.contact?]
        cases signal with
        | took count =>
            cases count with
            | zero => exact .fail hplace rfl
            | succ count => exact .take count hplace
        | failure reason => exact .fail hplace rfl
        | _ => exact .retry hplace rfl
    | _ => exact absurd (congrArg Supervisor.Place.written? hplace) hwritten

/-- Steps of a supervisor one after another, with whatever it hears and finds in each. -/
def run (traced : Traced) (turns : List (Signal × Hub ω)) : Traced :=
  turns.foldl (fun traced turn => traced.step turn.1 turn.2) traced

theorem run_concat (traced : Traced) (turns : List (Signal × Hub ω)) (turn : Signal × Hub ω) :
    traced.run (turns ++ [turn]) = (traced.run turns).step turn.1 turn.2 :=
  List.foldl_concat ..

omit [Audience ω] in
theorem writes_of_none {traced : Traced} (hplace : traced.supervisor.place.written? = none) :
    traced.writes = traced.finished := by
  rw [writes, hplace]
  exact List.append_nil _

omit [Audience ω] in
theorem writes_of_some {traced : Traced} {buffer : Buffer}
    (hplace : traced.supervisor.place.written? = some buffer) :
    traced.writes = traced.finished ++
      [{ data := buffer.appendTo [], contacts := traced.contacts, verdict := .underWay }] := by
  rw [writes, hplace]
  rfl

/-! ### What every step of a supervisor keeps -/

/-- The write under way is in step with the place of the supervisor. -/
def InStep (traced : Traced) : Prop :=
  match traced.supervisor.place with
  | .writing buffer offset =>
    Proceeds (buffer.appendTo []) offset traced.contacts ∧
      traced.contacts.length ≤ 2 * (offset + traced.contacts.countP Contact.isRetried)
  | .offering buffer offset =>
    Proceeds (buffer.appendTo []) offset traced.contacts ∧ offset < (buffer.appendTo []).length ∧
      traced.contacts.length ≤ 2 * (offset + traced.contacts.countP Contact.isRetried) + 1
  | _ => traced.contacts = []

/-- The trace of a supervisor whose socket had taken some bytes before it began. -/
structure Fits (origin : List UInt8) (traced : Traced) : Prop where
  finished : ∀ write ∈ traced.finished, write.Exact
  inStep : traced.InStep
  /-- After a failure there is no further write. -/
  orderly : (∀ write ∈ traced.finished, ∃ count, write.verdict = .sent count) ∨
    traced.supervisor.place.isOver = true ∧
      ∀ write ∈ traced.finished.dropLast, ∃ count, write.verdict = .sent count
  sent : traced.supervisor.sent =
    origin ++ traced.finished.flatMap Write.accepted ++ accepted traced.contacts

namespace Fits

variable {origin : List UInt8} {traced : Traced}

theorem inStep_writing (hfits : Fits origin traced) {buffer : Buffer} {offset : Nat}
    (hplace : traced.supervisor.place = .writing buffer offset) :
    Proceeds (buffer.appendTo []) offset traced.contacts ∧
      traced.contacts.length ≤ 2 * (offset + traced.contacts.countP Contact.isRetried) := by
  have hinStep := hfits.inStep
  unfold InStep at hinStep
  rwa [hplace] at hinStep

theorem inStep_offering (hfits : Fits origin traced) {buffer : Buffer} {offset : Nat}
    (hplace : traced.supervisor.place = .offering buffer offset) :
    Proceeds (buffer.appendTo []) offset traced.contacts ∧ offset < (buffer.appendTo []).length ∧
      traced.contacts.length ≤ 2 * (offset + traced.contacts.countP Contact.isRetried) + 1 := by
  have hinStep := hfits.inStep
  unfold InStep at hinStep
  rwa [hplace] at hinStep

theorem contacts_eq_nil (hfits : Fits origin traced)
    (hplace : traced.supervisor.place.written? = none) : traced.contacts = [] := by
  have hinStep := hfits.inStep
  unfold InStep at hinStep
  split at hinStep
  · rename_i hat
    rw [hat] at hplace
    cases hplace
  · rename_i hat
    rw [hat] at hplace
    cases hplace
  · exact hinStep

theorem orderly_of_not_isOver (hfits : Fits origin traced)
    (hplace : traced.supervisor.place.isOver = false) :
    ∀ write ∈ traced.finished, ∃ count, write.verdict = .sent count := by
  refine hfits.orderly.resolve_right ?_
  rintro ⟨hover, -⟩
  exact absurd (hplace.symm.trans hover) Bool.false_ne_true

/-- A write returns. -/
theorem enter (hfits : Fits origin traced) {buffer : Buffer} {result : Option Nat}
    {contacts : List Contact} (hplace : traced.supervisor.place.isOver = false)
    (haccepted : accepted contacts = accepted traced.contacts)
    (hexact : Write.Exact { data := buffer.appendTo [], contacts, verdict := .ofResult result }) :
    Fits origin (traced.enter (traced.supervisor.goTo (.returning buffer result)) contacts) where
  finished := by
    intro write hwrite
    rcases List.mem_append.mp hwrite with hmem | hlast
    · exact hfits.finished write hmem
    · rwa [List.mem_singleton.mp hlast]
  inStep := rfl
  orderly := by
    have hsent := hfits.orderly_of_not_isOver hplace
    cases result with
    | some count =>
        left
        intro write hwrite
        rcases List.mem_append.mp hwrite with hmem | hlast
        · exact hsent write hmem
        · rw [List.mem_singleton.mp hlast]
          exact ⟨count, rfl⟩
    | none =>
        refine .inr ⟨rfl, ?_⟩
        simp only [Traced.enter, Supervisor.goTo, List.dropLast_concat]
        exact hsent
  sent := by
    simp only [Traced.enter, Supervisor.goTo, List.flatMap_append, List.flatMap_singleton,
      accepted_nil, List.append_nil]
    rw [hfits.sent, Write.accepted, haccepted, List.append_assoc]

theorem of_steps (hfits : Fits origin traced) {later : Traced} (hsteps : traced.Steps later) :
    Fits origin later := by
  cases hsteps with
  | @aside supervisor hplace hnext hover hsent =>
      have hcontacts := hfits.contacts_eq_nil hplace
      refine ⟨hfits.finished, ?_, hfits.orderly.imp_right (And.imp_left hover),
        hsent.trans hfits.sent⟩
      unfold InStep
      simp only [hcontacts]
      rcases hnext with haside | ⟨buffer, hbuffer⟩
      · split
        · rename_i hat
          simp [hat, Supervisor.Place.isAside] at haside
        · rename_i hat
          simp [hat, Supervisor.Place.isAside] at haside
        · trivial
      · rw [hbuffer]
        exact ⟨.start _, Nat.zero_le _⟩
  | look hplace hleft =>
      obtain ⟨hproceeds, hbrief⟩ := hfits.inStep_writing hplace
      have hnot : traced.supervisor.place.isOver = false := by rw [hplace]; rfl
      refine ⟨hfits.finished, ⟨hproceeds.look, hleft, ?_⟩,
        .inl (hfits.orderly_of_not_isOver hnot), ?_⟩
      · simp only [List.length_append, List.countP_append, List.length_singleton]
        omega
      · rw [accepted_concat_of_taken rfl]
        exact hfits.sent
  | finish hplace hdone =>
      obtain ⟨hproceeds, hbrief⟩ := hfits.inStep_writing hplace
      exact hfits.enter (by rw [hplace]; rfl) rfl (hproceeds.finish hdone hbrief)
  | stop hplace hleft =>
      obtain ⟨hproceeds, hbrief⟩ := hfits.inStep_writing hplace
      exact hfits.enter (by rw [hplace]; rfl) (accepted_concat_of_taken rfl)
        (hproceeds.stop hleft hbrief)
  | @retry buffer offset answer hplace hretried =>
      obtain ⟨hproceeds, hleft, hbrief⟩ := hfits.inStep_offering hplace
      have hnot : traced.supervisor.place.isOver = false := by rw [hplace]; rfl
      refine ⟨hfits.finished, ⟨hproceeds.retry hleft hretried, ?_⟩,
        .inl (hfits.orderly_of_not_isOver hnot), ?_⟩
      · simp only [List.length_append, List.countP_append, List.length_singleton,
          List.countP_singleton, hretried, if_true]
        omega
      · rw [accepted_concat_of_taken (Contact.taken_of_isRetried hretried)]
        exact hfits.sent
  | @take buffer offset count hplace =>
      obtain ⟨hproceeds, hleft, hbrief⟩ := hfits.inStep_offering hplace
      have hnot : traced.supervisor.place.isOver = false := by rw [hplace]; rfl
      refine ⟨hfits.finished, ⟨hproceeds.take hleft count, ?_⟩,
        .inl (hfits.orderly_of_not_isOver hnot), ?_⟩
      · simp only [List.length_append, List.countP_append, List.length_singleton,
          Supervisor.rest, List.length_take, List.length_drop]
        omega
      · rw [accepted_concat, ← List.append_assoc, ← hfits.sent]
        rfl
  | @fail buffer offset answer hplace hfails =>
      obtain ⟨hproceeds, hleft, hbrief⟩ := hfits.inStep_offering hplace
      exact hfits.enter (by rw [hplace]; rfl)
        (accepted_concat_of_taken (Contact.taken_of_fails _ hfails))
        (hproceeds.fail hleft hfails hbrief)

theorem run (hfits : Fits origin traced) (turns : List (Signal × Hub ω)) :
    Fits origin (traced.run turns) := by
  induction turns using List.reverseRecOn with
  | nil => exact hfits
  | append_singleton turns turn ih =>
      rw [run_concat]
      exact ih.of_steps (steps _ turn.1 turn.2)

theorem exact (hfits : Fits origin traced) : ∀ write ∈ traced.writes, write.Exact := by
  cases hplace : traced.supervisor.place.written? with
  | none =>
      rw [writes_of_none hplace]
      exact hfits.finished
  | some buffer =>
      rw [writes_of_some hplace]
      intro write hwrite
      rcases List.mem_append.mp hwrite with hmem | hlast
      · exact hfits.finished write hmem
      · rw [List.mem_singleton.mp hlast]
        cases hat : traced.supervisor.place with
        | writing other offset =>
            obtain rfl : other = buffer := by simpa [hat, Supervisor.Place.written?] using hplace
            obtain ⟨hproceeds, hbrief⟩ := hfits.inStep_writing hat
            exact hproceeds.underWay (hproceeds.length_le hbrief)
        | offering other offset =>
            obtain rfl : other = buffer := by simpa [hat, Supervisor.Place.written?] using hplace
            obtain ⟨hproceeds, hleft, hbrief⟩ := hfits.inStep_offering hat
            exact hproceeds.underWay (by omega)
        | _ => simp [hat, Supervisor.Place.written?] at hplace

/-- Only the last write can have failed or be under way. -/
theorem sent_dropLast (hfits : Fits origin traced) :
    ∀ write ∈ traced.writes.dropLast, ∃ count, write.verdict = .sent count := by
  cases hplace : traced.supervisor.place.written? with
  | none =>
      rw [writes_of_none hplace]
      rcases hfits.orderly with hsent | ⟨-, hsent⟩
      · exact fun write hwrite => hsent write (List.mem_of_mem_dropLast hwrite)
      · exact hsent
  | some buffer =>
      rw [writes_of_some hplace, List.dropLast_concat]
      exact hfits.orderly_of_not_isOver (Supervisor.Place.isOver_of_written? hplace)

theorem sent_eq (hfits : Fits origin traced) :
    traced.supervisor.sent = origin ++ traced.writes.flatMap Write.accepted := by
  rw [hfits.sent]
  cases hplace : traced.supervisor.place.written? with
  | none =>
      rw [writes_of_none hplace, hfits.contacts_eq_nil hplace, accepted_nil, List.append_nil]
  | some buffer =>
      rw [writes_of_some hplace, List.flatMap_append, List.flatMap_singleton, List.append_assoc]
      rfl

end Fits

/-! ### One write -/

theorem Steps.finished_append {traced later : Traced} (hsteps : traced.Steps later) :
    ∃ more, later.finished = traced.finished ++ more := by
  cases hsteps with
  | finish | stop | fail => exact ⟨_, rfl⟩
  | _ => exact ⟨[], (List.append_nil _).symm⟩

/-- The supervisor is about to write a buffer. -/
def ofWrite (supervisor : Supervisor) (buffer : Buffer) : Traced :=
  .ofSupervisor (supervisor.goTo (.writing buffer 0))

theorem fits_ofWrite (supervisor : Supervisor) (buffer : Buffer) :
    Fits supervisor.sent (ofWrite supervisor buffer) where
  finished := nofun
  inStep := ⟨.start _, Nat.zero_le _⟩
  orderly := .inl nofun
  sent := by
    rw [show (ofWrite supervisor buffer).finished = [] from rfl,
      show (ofWrite supervisor buffer).contacts = [] from rfl]
    simp [ofWrite, ofSupervisor, Supervisor.goTo]

/-- The first write is that of a buffer. Until it returns, each turn is one of its contacts. -/
inductive Begins (buffer : Buffer) (turns : Nat) (traced : Traced) : Prop where
  | underWay (hfinished : traced.finished = []) (hcontacts : traced.contacts.length = turns)
    (hplace : traced.supervisor.place.written? = some buffer) : Begins buffer turns traced
  | returned {write : Write} {later : List Write} (hfinished : traced.finished = write :: later)
    (hdata : write.data = buffer.appendTo []) (hverdict : write.verdict ≠ .underWay) :
    Begins buffer turns traced

theorem Begins.of_steps {buffer : Buffer} {turns : Nat} {traced later : Traced}
    (hbegins : Begins buffer turns traced) (hsteps : traced.Steps later) :
    Begins buffer (turns + 1) later := by
  cases hbegins with
  | returned hfinished hdata hverdict =>
      obtain ⟨more, hmore⟩ := hsteps.finished_append
      rw [hfinished, List.cons_append] at hmore
      exact .returned hmore hdata hverdict
  | underWay hfinished hcontacts hplace =>
      cases hsteps with
      | aside hnone => exact absurd (hnone.symm.trans hplace) nofun
      | look hat | retry hat | take count hat =>
          rw [hat] at hplace
          exact .underWay hfinished (by simp [hcontacts]) hplace
      | finish hat | stop hat | fail hat =>
          rw [hat] at hplace
          cases hplace
          exact .returned (congrArg (· ++ _) hfinished) rfl nofun

theorem begins_run (supervisor : Supervisor) (buffer : Buffer) (turns : List (Signal × Hub ω)) :
    Begins buffer turns.length ((ofWrite supervisor buffer).run turns) := by
  induction turns using List.reverseRecOn with
  | nil => exact .underWay rfl rfl rfl
  | append_singleton turns turn ih =>
      rw [run_concat, List.length_append]
      exact ih.of_steps (steps _ turn.1 turn.2)

theorem run_ofWrite (supervisor : Supervisor) (buffer : Buffer) (turns : List (Signal × Hub ω)) :
    ∃ write later, ((ofWrite supervisor buffer).run turns).writes = write :: later ∧
      write.data = buffer.appendTo [] ∧ write.Exact ∧
      (write.verdict = .underWay → write.contacts.length = turns.length) := by
  have hexact := ((fits_ofWrite supervisor buffer).run turns).exact
  have hbegins := begins_run supervisor buffer turns
  generalize (ofWrite supervisor buffer).run turns = traced at hexact hbegins
  cases hbegins with
  | @returned write later hfinished hdata hverdict =>
      obtain ⟨more, hwrites⟩ : ∃ more, traced.writes = write :: more := by
        rw [writes, hfinished]
        exact ⟨_, rfl⟩
      exact ⟨write, more, hwrites, hdata, hexact write (hwrites ▸ List.mem_cons_self),
        fun hunderWay => absurd hunderWay hverdict⟩
  | underWay hfinished hcontacts hplace =>
      have hwrites := writes_of_some hplace
      rw [hfinished, List.nil_append] at hwrites
      exact ⟨_, [], hwrites, rfl, hexact _ (hwrites ▸ List.mem_cons_self), fun _ => hcontacts⟩

end Traced

end TunerRelay.Relay
