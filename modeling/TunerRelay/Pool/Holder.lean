import TunerRelay.Pool.Basic

/-!
A caller of a pool that holds buffers under names. Storing a buffer under a name that is in use drops
the one that was there, without the pool's knowledge.
-/

namespace TunerRelay.Pool

structure Holder where
  pool : Pool
  held : List (String × Buffer) := []
deriving DecidableEq, Repr

namespace Holder

def find? (holder : Holder) (name : String) : Option Buffer :=
  (holder.held.find? fun entry => entry.1 == name).map (·.2)

def drop (holder : Holder) (name : String) : Holder :=
  { holder with held := holder.held.filter fun entry => entry.1 != name }

def store (holder : Holder) (name : String) (buffer : Buffer) : Holder :=
  { holder with held := (name, buffer) :: (holder.drop name).held }

/-- Keeps what an acquisition gave, if anything, under a name. -/
def keep (holder : Holder) (name : String) (acquired : Option Buffer × Pool) :
    Option Buffer × Holder :=
  let holder := { holder with pool := acquired.2 }
  match acquired.1 with
  | some buffer => (some buffer, holder.store name buffer)
  | none => (none, holder)

def acquire (holder : Holder) (stage : Nat) (name : String) : Option Buffer × Holder :=
  holder.keep name (holder.pool.acquire stage)

/-- Releases a buffer from a stage, if there is one of that name. -/
def release? (holder : Holder) (stage : Nat) (name : String) : Option Holder :=
  (holder.find? name).map fun buffer =>
    { holder.drop name with pool := holder.pool.release stage buffer }

/-- Waits for a buffer while somebody else releases another one, or tears the pool down if there is
none of that name. -/
def acquireDuring (holder : Holder) (stage : Nat) (name released : String) (origin : Nat) :
    Option Buffer × Holder :=
  let meanwhile := fun pool : Pool =>
    match holder.find? released with
    | some buffer => pool.release origin buffer
    | none => pool.teardown.2
  (holder.drop released).keep name (holder.pool.acquireDuring stage meanwhile)

end Holder

end TunerRelay.Pool
