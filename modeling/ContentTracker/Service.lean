import ContentTracker.Endpoint

/-!
Handlers for connections from outside that read one request and send one reply.
-/

namespace ContentTracker.Service

open Net

/-- Notes that a connection has reached its handler. -/
def enter (c : Connection) : Net Nat := do
  let w ← get
  set { w with visits := w.visits ++ [Visit.mk c.remote c.protocol none] }
  pure w.visits.length

def noteRequest (visit : Nat) (request : Octets) : Net Unit :=
  modify fun w =>
    { w with visits := w.visits.modify visit fun v => { v with request := some request } }

/-- Reads a request of at most `limit` octets and sends what `reply` makes of it. -/
def answer (limit : Int) (reply : Octets → Except Problem Octets) (c : Connection) : Net Unit := do
  let visit ← enter c
  c.openStream
  let request ← c.readToEnd limit
  noteRequest visit request
  c.send (← MonadExcept.ofExcept (reply request))
  c.finish

end ContentTracker.Service
