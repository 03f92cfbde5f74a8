import TunerRelay.Relay.Call

/-!
A relay with any number of callers, each on a thread of its own. A history is a list of moves, each
of which lets one caller or one worker take a step.
-/

namespace TunerRelay.Relay

structure Traffic (ω : Type) where
  relay : Relay ω
  /-- By their numbers, in the order in which they began. -/
  calls : List Call := []

inductive Move where
  /-- Somebody calls. -/
  | begin (operation : Operation)
  | resume (call : Nat) (signal : Signal)
  | work (worker : Worker) (signal : Signal)
deriving DecidableEq, Repr

namespace Traffic

variable {ω : Type} [Audience ω]

def resume (number : Nat) (signal : Signal) (traffic : Traffic ω) : Traffic ω :=
  match traffic.calls[number]? with
  | none => traffic
  | some call =>
    let (call, relay) := call.step signal traffic.relay
    { relay, calls := traffic.calls.set number call }

def move (traffic : Traffic ω) : Move → Traffic ω
  | .begin operation => { traffic with calls := traffic.calls ++ [.ofOperation operation] }
  | .resume number signal => traffic.resume number signal
  | .work worker signal => { traffic with relay := traffic.relay.work worker signal }

def run (traffic : Traffic ω) (moves : List Move) : Traffic ω := moves.foldl move traffic

def atRest (world : ω) : Traffic ω := { relay := .atRest world }

end Traffic

end TunerRelay.Relay
