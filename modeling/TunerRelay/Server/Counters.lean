/-!
What the server counts from its start on, in 64 bits that wrap.
-/

namespace TunerRelay.Server

structure Counters where
  /-- Bytes that clients have taken. -/
  sent : UInt64 := 0
  /-- Chunks of samples queued for a client. -/
  queued : UInt64 := 0
  /-- Chunks of samples for which there was no buffer. -/
  dropped : UInt64 := 0
  commands : UInt64 := 0
  clients : UInt64 := 0
  /-- Buffers that were still out when their pool was torn down. -/
  leaks : UInt64 := 0
  hadClient : Bool := false
deriving DecidableEq, Repr

namespace Counters

def addSent (counters : Counters) (bytes : UInt64) : Counters :=
  { counters with sent := counters.sent + bytes }

def addQueued (counters : Counters) : Counters := { counters with queued := counters.queued + 1 }

def addDropped (counters : Counters) : Counters :=
  { counters with dropped := counters.dropped + 1 }

def addCommand (counters : Counters) : Counters :=
  { counters with commands := counters.commands + 1 }

def addClient (counters : Counters) : Counters :=
  { counters with clients := counters.clients + 1, hadClient := true }

def addLeaks (counters : Counters) (buffers : UInt64) : Counters :=
  { counters with leaks := counters.leaks + buffers }

end Counters

end TunerRelay.Server
