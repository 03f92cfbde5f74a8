import TunerRelay.Net.Address

/-!
The host on which a relay is tried out: which endpoints can be bound on it, and whether clients get
through. While its interfaces are down it knows no addresses of its own; it then takes every dotted
quad for one, and no client gets through.
-/

namespace TunerRelay.Net

structure Host where
  /-- Whether its loopback interface, the only one, is up. -/
  isUp : Bool
  /-- Ports from one up to this are reserved. -/
  lastReservedPort : UInt16 := 1023
deriving DecidableEq, Repr

namespace Host

/-- Why an endpoint cannot be bound. -/
inductive Refusal where
  | portReserved
  | addressInvalid
  | addressUnassigned
deriving DecidableEq, Repr

def Refusal.text : Refusal → String
  | .portReserved => "Permission denied (os error 13)"
  | .addressInvalid => "Invalid argument (os error 22)"
  | .addressUnassigned => "Cannot assign requested address (os error 99)"

def reserves (host : Host) (port : UInt16) : Bool := 0 < port && port ≤ host.lastReservedPort

/-- The wildcard address and those of the loopback network are the host's own. -/
def owns (host : Host) (quad : Quad) : Bool :=
  !host.isUp || quad.first == 127 || quad == { first := 0, second := 0, third := 0, fourth := 0 }

/-- Groups that name a set of hosts. -/
def isMulticast (groups : List UInt16) : Bool :=
  match groups with
  | first :: _ => 0xff00 ≤ first
  | [] => false

/-- Groups that mean something on one link only. -/
def isLinkLocal (groups : List UInt16) : Bool :=
  match groups with
  | first :: _ => 0xfe80 ≤ first && first < 0xfec0
  | [] => false

/-- The judgement on groups whose port is not reserved. Groups that stand for a dotted quad are
judged like it. -/
def judgeGroups (host : Host) (groups : List UInt16) : Option Refusal :=
  let isOwn := match groups with
    | [0, 0, 0, 0, 0, 0, 0, 0] => true
    | [0, 0, 0, 0, 0, 0, 0, 1] => host.isUp
    | [0, 0, 0, 0, 0, 0xffff, high, low] => host.owns (quadOfGroups high low)
    | _ => false
  if isOwn then none
  else if isLinkLocal groups then some .addressInvalid
  else some .addressUnassigned

/-- For dotted quads the address is judged before the port, for groups mostly after it. -/
def refusal? (host : Host) (endpoint : Endpoint) : Option Refusal :=
  match endpoint.address with
  | .four quad =>
    if !host.owns quad then some .addressUnassigned
    else if host.reserves endpoint.port then some .portReserved
    else none
  | .six groups =>
    if isMulticast groups then some .addressInvalid
    else if host.reserves endpoint.port then some .portReserved
    else host.judgeGroups groups

end Host

end TunerRelay.Net
