import ContentTracker.DialAddress

/-!
How the other side of a connection behaves, and the network as the behaviours that dials meet.
-/

namespace ContentTracker

/-- What can arrive on a connection. -/
inductive Arrival
  | data (bs : Octets)
  | endOfStream
  | broken (problem : Problem)

/-- The calls that the writing side of a connection can receive. -/
inductive WriterCall
  | write (bs : Octets)
  | drain
  | writeEnd
  | close
  | waitClosed
deriving Repr, DecidableEq

/-- A writer call without the octets it carries. -/
inductive CallKind
  | write
  | drain
  | writeEnd
  | close
  | waitClosed
deriving Repr, DecidableEq

def WriterCall.kind : WriterCall → CallKind
  | .write _ => .write
  | .drain => .drain
  | .writeEnd => .writeEnd
  | .close => .close
  | .waitClosed => .waitClosed

/-- The other side of one connection: what dialing it leads to, what arrives and when, and which
writer calls fail. -/
structure Behaviour where
  /-- Seconds that dialing takes. -/
  delay : Rat := 0
  dialProblem : Option Problem := none
  /-- What arrives, each after so many seconds since the one before it. -/
  arrivals : List (Rat × Arrival) := []
  /-- The problem, if any, of the nth call of a kind, counted from one. -/
  fails : CallKind → Nat → Option Problem := fun _ _ => none
  /-- Seconds that the nth drain waits for the transport, counted from one. -/
  drainTime : Nat → Rat := fun _ => 0
  canHalfClose : Bool := true
  localName : DialAddress := ⟨"127.0.0.1", 50000⟩

/-- The behaviour met by the nth dial of an address, counted from zero. -/
abbrev Network := DialAddress → Nat → Behaviour

/-- A network in which nobody answers. -/
def Network.unreachable : Network := fun _ _ =>
  { dialProblem := some (.system .refused "refused") }

end ContentTracker
