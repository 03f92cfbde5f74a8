import TunerRelay.Relay.Supervisor

/-!
# What one step of a supervisor can do

Most steps only take a supervisor to another place. It notes its session at the start, keeps the
connection of the client that it admits, starts its reader once, and gets rid of bytes where the
socket takes them.
-/

namespace TunerRelay.Relay

theorem Hub.isServing_iff {ω : Type} {hub : Hub ω} :
    hub.isServing = true ↔ hub.server.phase = .serving := beq_iff_eq

namespace Supervisor

open TunerRelay.Pool (Buffer)

/-- Whether the supervisor has yet to serve a client, and gives up if it does not come to that. -/
def Place.isApproaching : Place → Bool
  | .seeking | .waiting | .accepting | .registering _ | .splitting | .entering => true
  | _ => false

/-- Where a supervisor that sends from the pool of a session goes without anything else of it
changing, and what it does to the server. -/
inductive Place.Leads (session : Option Nat) (server : Server) : Place → Place → Server → Prop where
  | seek (hlistener : server.listener.isSome = true) : Leads session server .seeking .waiting server
  | expect (hphase : server.phase = .asyncStarted) :
    Leads session server .waiting .accepting server
  | retry : Leads session server .accepting .waiting server
  | accept (connection : Nat) : Leads session server .accepting (.registering connection) server
  | split : Leads session server .splitting .entering server
  | splitFailed : Leads session server .splitting .closing server.requestStop
  | enter (hphase : server.phase = .clientOpen) :
    Leads session server .entering .spawning { server with phase := .serving }
  | giveUp (place : Place) (hplace : place.isApproaching = true) :
    Leads session server place .closing server
  | spawnFailed : Leads session server .spawning .idle server.requestStop
  | goOn (hphase : server.phase = .serving) : Leads session server .idle .fetching server
  | stop (hphase : server.phase ≠ .serving) : Leads session server .idle .halting server
  | skip (hsession : session = none) : Leads session server .fetching .idle server
  | fetchNothing (epoch : Nat) (hsession : session = some epoch)
    (htake : (server.take epoch).1 = none) :
    Leads session server .fetching .idle (server.take epoch).2
  | fetch (epoch : Nat) (buffer : Buffer) (hsession : session = some epoch)
    (htake : (server.take epoch).1 = some buffer) :
    Leads session server .fetching (.writing buffer 0) (server.take epoch).2
  | offer (buffer : Buffer) (offset : Nat) (hphase : server.phase = .serving) :
    Leads session server (.writing buffer offset) (.offering buffer offset) server
  | finish (buffer : Buffer) (offset : Nat)
    (hdone : rest buffer offset = [] ∨ server.phase ≠ .serving) :
    Leads session server (.writing buffer offset) (.returning buffer (some offset)) server
  | offerAgain (buffer : Buffer) (offset : Nat) :
    Leads session server (.offering buffer offset) (.writing buffer offset) server
  | fail (buffer : Buffer) (offset : Nat) :
    Leads session server (.offering buffer offset) (.returning buffer none) server
  | giveBack (buffer : Buffer) (bytes : Nat) :
    Leads session server (.returning buffer (some bytes)) (.counting bytes)
      (session.elim server fun epoch => server.giveBack epoch buffer)
  | drop (buffer : Buffer) :
    Leads session server (.returning buffer none) .halting
      (session.elim server fun epoch => server.giveBack epoch buffer)
  | count (bytes : Nat) : Leads session server (.counting bytes) .idle (server.countSent bytes)
  | halt : Leads session server .halting .joining server.requestStop
  | linger : Leads session server .joining .joining server
  | close : Leads session server .closing .notifying server.cleanUp
  | inform (observer : Nat) : Leads session server .notifying (.leaving observer) server
  | quit : Leads session server .notifying .ended server
  | leave (observer : Nat) : Leads session server (.leaving observer) .ended server
  | stay : Leads session server .ended .ended server

/-- What a step makes of a supervisor and of the server. -/
inductive Steps (supervisor : Supervisor) (server : Server) : Supervisor → Server → Prop where
  | note (hplace : supervisor.place = .starting) :
    Steps supervisor server (supervisor.note server) server
  | walk {place : Place} {next : Server}
    (hleads : supervisor.place.Leads supervisor.epoch server place next) :
    Steps supervisor server (supervisor.goTo place) next
  | register {connection : Nat} {registered : Option Nat} {place : Place} {next : Server}
    (hplace : supervisor.place = .registering connection)
    (hadmitted : server.admit? registered = some next)
    (hnext : place = .splitting ∨ place = .closing) :
    Steps supervisor server { supervisor with place, connection := some connection } next
  | staff (hplace : supervisor.place = .spawning) (hobserver : supervisor.observer.isSome = true) :
    Steps supervisor server { supervisor with place := .idle, reader := some {} } server
  | send {buffer : Buffer} {offset : Nat} (count : Nat)
    (hplace : supervisor.place = .offering buffer offset) :
    Steps supervisor server
      { supervisor with
        place := .writing buffer (offset + ((rest buffer offset).take count).length)
        sent := supervisor.sent ++ (rest buffer offset).take count }
      server
  | join (hplace : supervisor.place = .joining) (hended : supervisor.readerIsEnded = true) :
    Steps supervisor server (supervisor.goTo .closing) server

variable {ω : Type} [Audience ω]

theorem steps (supervisor : Supervisor) (signal : Signal) (hub : Hub ω) :
    supervisor.Steps hub.server (supervisor.step signal hub).1
      (supervisor.step signal hub).2.server := by
  obtain ⟨place, observer, session, connection, reader, sent⟩ := supervisor
  cases place with
  | starting => exact .note rfl
  | seeking =>
      simp only [step]
      split
      · exact .walk (.seek ‹_›)
      · exact .walk (.giveUp _ rfl)
  | waiting =>
      simp only [step]
      split
      · exact .walk (.expect ‹_›)
      · exact .walk (.giveUp _ rfl)
  | accepting =>
      cases signal with
      | client connection => exact .walk (.accept connection)
      | failure reason => exact .walk (.giveUp _ rfl)
      | _ => exact .walk .retry
  | registering connection =>
      simp only [step, register]
      split
      · exact .walk (.giveUp _ rfl)
      · rename_i hadmitted
        refine .register rfl hadmitted ?_
        split
        · exact Or.inl rfl
        · exact Or.inr rfl
  | splitting =>
      cases signal with
      | failure reason => exact .walk .splitFailed
      | _ => exact .walk .split
  | entering =>
      by_cases hphase : hub.server.phase = .clientOpen
      · simp only [step, enter, Server.serve?, hphase, if_true]
        exact .walk (.enter hphase)
      · simp only [step, enter, Server.serve?, hphase, if_false]
        exact .walk (.giveUp _ rfl)
  | spawning =>
      simp only [step, spawn]
      split
      · exact .walk .spawnFailed
      · exact .walk .spawnFailed
      · exact .staff rfl rfl
  | idle =>
      simp only [step]
      split
      · exact .walk (.goOn (Hub.isServing_iff.mp ‹_›))
      · exact .walk (.stop fun hphase => ‹¬ _› (Hub.isServing_iff.mpr hphase))
  | fetching =>
      cases session with
      | none => exact .walk (.skip rfl)
      | some epoch =>
          simp only [step, fetch]
          cases htake : (hub.server.take epoch).1 with
          | none => exact .walk (.fetchNothing epoch rfl htake)
          | some buffer => exact .walk (.fetch epoch buffer rfl htake)
  | writing buffer offset =>
      simp only [step]
      split
      · exact .walk (.finish buffer offset (Or.inl (List.isEmpty_iff.mp ‹_›)))
      · split
        · exact .walk (.offer buffer offset (Hub.isServing_iff.mp ‹_›))
        · rename_i hserving
          refine .walk (.finish buffer offset (Or.inr ?_))
          exact fun hphase => hserving (Hub.isServing_iff.mpr hphase)
  | offering buffer offset =>
      cases signal with
      | took count =>
          cases count with
          | zero => exact .walk (.fail buffer offset)
          | succ count => exact .send (count + 1) rfl
      | failure reason => exact .walk (.fail buffer offset)
      | _ => exact .walk (.offerAgain buffer offset)
  | returning buffer result =>
      cases result with
      | none => cases session <;> exact .walk (.drop buffer)
      | some bytes => cases session <;> exact .walk (.giveBack buffer bytes)
  | counting bytes => exact .walk (.count bytes)
  | halting => exact .walk .halt
  | joining =>
      simp only [step]
      split
      · exact .join rfl ‹_›
      · exact .walk .linger
  | closing => exact .walk .close
  | notifying =>
      simp only [step, notify]
      split
      · exact .walk .quit
      · simp only
        split
        · exact .walk (.inform _)
        · exact .walk .quit
  | leaving observer => exact .walk (.leave observer)
  | ended => exact .walk .stay

end Supervisor

end TunerRelay.Relay
