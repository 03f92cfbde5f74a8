import TunerRelay.Relay.Loopback

/-!
What happens at both ends of a connection while a session is tried out: the client connects, writes,
reads and leaves, and at the other end samples come in.
-/

namespace TunerRelay.Relay

open TunerRelay.Server (FeedStatus)

inductive Exchange where
  | connect
  | receive (count : Nat)
  | send (bytes : List UInt8)
  | feed (bytes : List UInt8)
  /-- Samples that are copies of one byte. -/
  | fill (byte : UInt8) (count : Nat)
  | disconnect
  | count
deriving DecidableEq, Repr

/-- Counters, without those that are still on the move. -/
structure Tally where
  sent : Option UInt64
  queued : UInt64
  dropped : UInt64
  commands : UInt64
  clients : UInt64
  leaks : Option UInt64
  hadClient : Bool
deriving DecidableEq, Repr

inductive Exchange.Answer where
  | connection (connection : Loopback.Connection)
  /-- Nothing is received without a client. -/
  | received (bytes : Option (List UInt8))
  | sent (wasServed : Bool)
  | fed (status : FeedStatus)
  | disconnected (wasThere : Bool)
  | tally (tally : Tally)
deriving DecidableEq, Repr

namespace Loopback

variable {ω : Type} [Audience ω]

/-- Samples from this size on are a flood, which the client does not read. -/
def floodSize : Nat := 1000000

def feed (bytes : List UInt8) (loopback : Loopback ω) : FeedStatus × Loopback ω :=
  match loopback.perform (.feed bytes) with
  | (some (.fed status), loopback) => (status, loopback)
  | (_, loopback) => (.closed, loopback)

/-- Where no samples are wanted, their number does not matter. -/
def fill (byte : UInt8) (count : Nat) (loopback : Loopback ω) : FeedStatus × Loopback ω :=
  if loopback.relay.hub.isServing then
    let (status, loopback) := loopback.feed (List.replicate count byte)
    (status, { loopback with flooded := loopback.flooded || floodSize ≤ count })
  else loopback.feed []

/-- What is sent is not settled while a client that was there is no longer served, nor after a
flood; leaks are not settled while a session ends. -/
def tally (loopback : Loopback ω) : Tally :=
  let counters := loopback.relay.server.counters
  let sentIsSettled :=
    !loopback.flooded && (counters.clients == 0 || loopback.relay.hub.isServing)
  { sent := if sentIsSettled then some counters.sent else none
    queued := counters.queued
    dropped := counters.dropped
    commands := counters.commands
    clients := counters.clients
    leaks := if loopback.shownPhase?.isSome then some counters.leaks else none
    hadClient := counters.hadClient }

def exchange (exchange : Exchange) (loopback : Loopback ω) : Exchange.Answer × Loopback ω :=
  match exchange with
  | .connect =>
    let (connection, loopback) := loopback.connect
    (.connection connection, loopback)
  | .receive count =>
    let (bytes, loopback) := loopback.receive count
    (.received bytes, loopback)
  | .send bytes =>
    match loopback.send bytes with
    | some loopback => (.sent true, loopback)
    | none => (.sent false, loopback)
  | .feed bytes =>
    let (status, loopback) := loopback.feed bytes
    (.fed status, loopback)
  | .fill byte count =>
    let (status, loopback) := loopback.fill byte count
    (.fed status, loopback)
  | .disconnect =>
    let (wasThere, loopback) := loopback.disconnect
    (.disconnected wasThere, loopback)
  | .count => (.tally loopback.tally, loopback)

end Loopback

end TunerRelay.Relay
