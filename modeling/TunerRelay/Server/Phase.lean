/-!
The phases of the server, in the order in which a session walks through them.
-/

namespace TunerRelay.Server

inductive Phase where
  | uninitialized
  | initialized
  | socketOpen
  | clientOpen
  | asyncStarted
  | serving
  | stopping
deriving DecidableEq, Repr

namespace Phase

def number : Phase → Nat
  | .uninitialized => 0
  | .initialized => 1
  | .socketOpen => 2
  | .clientOpen => 3
  | .asyncStarted => 4
  | .serving => 5
  | .stopping => 6

/-- The name under which messages mention a phase. -/
def text : Phase → String
  | .uninitialized => "Uninitialized"
  | .initialized => "Initialized"
  | .socketOpen => "SocketOpen"
  | .clientOpen => "ClientOpen"
  | .asyncStarted => "ClientOpenAsyncStarted"
  | .serving => "ClientServing"
  | .stopping => "NeedsStopping"

/-- Every phase, by ascending number. -/
def all : List Phase :=
  [.uninitialized, .initialized, .socketOpen, .clientOpen, .asyncStarted, .serving, .stopping]

def ofText? (text : String) : Option Phase := all.find? fun phase => phase.text == text

/-- The socket is open, but nobody is being sent samples yet. -/
def isWaiting : Phase → Bool
  | .socketOpen | .clientOpen | .asyncStarted => true
  | _ => false

/-- Phases are ordered by their numbers. -/
def compare (left right : Phase) : Ordering := Ord.compare left.number right.number

theorem mem_all (phase : Phase) : phase ∈ all := by
  cases phase <;> decide

theorem number_injective (left right : Phase) (h : left.number = right.number) : left = right := by
  cases left <;> cases right <;> simp_all [number]

end Phase

end TunerRelay.Server
