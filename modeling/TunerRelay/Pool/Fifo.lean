/-!
Queues in which the order of arrival is the order of departure.
-/

namespace TunerRelay.Pool

structure Fifo (α : Type) where
  /-- From head to tail. -/
  toList : List α := []
deriving DecidableEq, Repr

namespace Fifo

variable {α : Type}

def push (fifo : Fifo α) (item : α) : Fifo α := { toList := fifo.toList ++ [item] }

def pop? (fifo : Fifo α) : Option (α × Fifo α) :=
  match fifo.toList with
  | [] => none
  | item :: rest => some (item, { toList := rest })

def size (fifo : Fifo α) : Nat := fifo.toList.length

def isEmpty (fifo : Fifo α) : Bool := fifo.toList.isEmpty

/-- All items in order, and the emptied queue. -/
def drain (fifo : Fifo α) : List α × Fifo α := (fifo.toList, {})

/-- At most so many items in order. The queue is emptied all the same. -/
def drainSome (count : Nat) (fifo : Fifo α) : List α × Fifo α := (fifo.toList.take count, {})

@[simp]
theorem toList_push (fifo : Fifo α) (item : α) :
    (fifo.push item).toList = fifo.toList ++ [item] := rfl

theorem pop?_eq_some_iff (fifo rest : Fifo α) (item : α) :
    fifo.pop? = some (item, rest) ↔ fifo.toList = item :: rest.toList := by
  obtain ⟨items⟩ := fifo
  obtain ⟨remaining⟩ := rest
  cases items <;> simp [pop?]

theorem pop?_eq_none_iff (fifo : Fifo α) : fifo.pop? = none ↔ fifo.toList = [] := by
  obtain ⟨items⟩ := fifo
  cases items <;> simp [pop?]

end Fifo

end TunerRelay.Pool
