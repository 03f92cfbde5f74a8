import TunerRelay.Relay.Hub

/-!
The thread that reads a client's commands: it puts records together from whatever pieces arrive, and
hands each on while the client is being served.
-/

namespace TunerRelay.Relay

inductive Reader.Place where
  /-- About to look whether the client is still served. -/
  | idle
  /-- About to see whether the record is whole, and whether the client is still served if not. -/
  | assembling (piece : List UInt8)
  /-- Waiting for more of the record. -/
  | receiving (piece : List UInt8)
  /-- The connection has ended; about to say so. -/
  | halting
  /-- The record is whole; about to look whether the client is still served. -/
  | judging (record : Wire.Record)
  | counting (record : Wire.Record)
  /-- The observer is about to look whether it still cares. -/
  | handing (record : Wire.Record)
  /-- The observer is about to act. -/
  | acting (record : Wire.Record)
  | ended
deriving DecidableEq, Repr

structure Reader where
  place : Reader.Place := .idle
  /-- All bytes that have arrived. -/
  received : List UInt8 := []
  /-- All records that have been handed on. -/
  records : List Wire.Record := []
deriving DecidableEq, Repr

namespace Reader

variable {ω : Type} [Audience ω]

def goTo (reader : Reader) (place : Place) : Reader := { reader with place }

/-- Whether the thread will take no further step. -/
def isEnded (reader : Reader) : Bool := reader.place == .ended

/-- Where the reader goes with the bytes of a record that it has so far. -/
def assemble (piece : List UInt8) (serving : Bool) : Place :=
  match Wire.Record.ofBytes? piece with
  | some record => .judging record
  | none => if serving then .receiving piece else .idle

/-- As many of the bytes as the record still lacks. -/
def accept (piece bytes : List UInt8) : List UInt8 := bytes.take (Wire.Record.size - piece.length)

/-- One step on behalf of an observer. -/
def step (observer : Nat) (signal : Signal) (reader : Reader) (hub : Hub ω) : Reader × Hub ω :=
  match reader.place with
  | .idle => (reader.goTo (if hub.isServing then .assembling [] else .ended), hub)
  | .assembling piece => (reader.goTo (assemble piece hub.isServing), hub)
  | .receiving piece =>
    match signal with
    | .received bytes =>
      let taken := accept piece bytes
      ({ reader with place := .assembling (piece ++ taken), received := reader.received ++ taken },
        hub)
    | .failure _ => (reader.goTo .halting, hub)
    | _ => (reader.goTo (.assembling piece), hub)
  | .halting => (reader.goTo .idle, hub.requestStop)
  | .judging record => (reader.goTo (if hub.isServing then .counting record else .idle), hub)
  | .counting record => (reader.goTo (.handing record), hub.withServer hub.server.countCommand)
  | .handing record =>
    ({ reader with
        place := if hub.attends observer then .acting record else .idle
        records := reader.records ++ [record] },
      hub)
  | .acting record => (reader.goTo .idle, hub.hear observer record)
  | .ended => (reader, hub)

end Reader

end TunerRelay.Relay
