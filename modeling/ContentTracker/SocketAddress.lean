import ContentTracker.IpAddress
import ContentTracker.Problem

/-!
Numeric socket addresses, the form in which tickets name the ways to a node.
-/

namespace ContentTracker

/-- An internet address and a port. -/
structure SocketAddress where
  ip : IpAddress
  port : Nat
  port_lt : port < 65536
deriving DecidableEq

namespace SocketAddress

/-- Why a pair of values is no socket address. -/
inductive Fault
  | badPair (fault : Conversion.PairFault)
  | badHost (host : Value)
  | badPort (fault : Conversion.IntegerFault)
  | portOutOfRange (port : Value)

def Fault.problem : Fault → Problem
  | .badPair fault => .ofPair fault
  | .badHost host => .badValue (IpAddress.faultMessage host)
  | .badPort fault => .ofInteger fault
  | .portOutOfRange port => .badValue (port.complaint s!"Port out of range: {port.plain}")

/-- The socket address of a host, in any accepted spelling, and a port, in any accepted form. The
host is looked at first. -/
def normalize (host port : Value) : Except Fault SocketAddress :=
  match IpAddress.ofValue? host with
  | none => .error (.badHost host)
  | some ip =>
    match Conversion.toInteger port with
    | .error fault => .error (.badPort fault)
    | .ok (.ofNat n) => if h : n < 65536 then .ok ⟨ip, n, h⟩ else .error (.portOutOfRange port)
    | .ok (.negSucc _) => .error (.portOutOfRange port)

def ofValue (v : Value) : Except Fault SocketAddress :=
  match Conversion.toPair v with
  | .error fault => .error (.badPair fault)
  | .ok (host, port) => normalize host port

/-- The octets that order socket addresses: version 4 first, then by address and port. The order of
addresses that differ in their zones alone is left open; here the texts of the zones settle it. -/
def key (a : SocketAddress) : Octets :=
  UInt8.ofNat a.ip.family :: a.ip.packed ++ Octets.ofNat 2 a.port ++ Utf8.encode a.ip.zoneText

/-- Whether one address comes before another in every list of them. -/
def precedes (a b : SocketAddress) : Bool := Octets.before a.key b.key

/-- Puts an address at its place in a rising list, unless it is there already. -/
def insert (a : SocketAddress) : List SocketAddress → List SocketAddress
  | [] => [a]
  | b :: rest =>
    if a = b then b :: rest
    else if precedes a b then a :: b :: rest
    else b :: insert a rest

/-- The different addresses of a list, in rising order. -/
def sorted (addresses : List SocketAddress) : List SocketAddress :=
  addresses.foldl (fun rising a => insert a rising) []

end SocketAddress

end ContentTracker
