import ContentTracker.Endpoint
import ContentTracker.Message

/-!
One request and one response over a connection of their own. An exchange runs once.
-/

namespace ContentTracker

/-- How far an exchange has come. -/
inductive Phase
  | idle
  | connecting
  | streamOpen
  | requestSent
  | awaitingResponse
  | done
  | failed
deriving Repr, DecidableEq

def Phase.name : Phase → String
  | .idle => "idle"
  | .connecting => "connecting"
  | .streamOpen => "stream_open"
  | .requestSent => "request_sent"
  | .awaitingResponse => "awaiting_response"
  | .done => "done"
  | .failed => "failed"

structure Exchange where
  endpoint : Endpoint
  tracker : PeerId
  protocol : Octets
  /-- The most octets of a response. -/
  sizeLimit : Int

/-- The world and the phase of the exchange under way in it. -/
structure Progress where
  world : World
  phase : Phase := .idle

/-- A step of an exchange: it changes world and phase also where it ends in a problem. -/
abbrev Step := EStateM Problem Progress

namespace Exchange

def loggerName : String := "cctrack.tracker.client"

/-- A network operation as a step. -/
def during {α : Type} (op : Net α) : Step α := fun s =>
  match op s.world with
  | .ok a w => .ok a { s with world := w }
  | .error p w => .error p { s with world := w }

def outcome {α : Type} (step : Step α) : Step (Except Problem α) := fun s =>
  match step s with
  | .ok a s => .ok (.ok a) s
  | .error p s => .ok (.error p) s

/-- Moves on to a phase and logs the move. -/
def enter (x : Exchange) (phase : Phase) : Step Unit := do
  let before := (← get).phase
  during (Net.log .debug loggerName
    s!"Exchange with {x.tracker.short}: {before.name} -> {phase.name}")
  modify fun s => { s with phase := phase }

/-- What becomes of a problem before a connection is there, and with one. Failures of the tracker
family and cancellations stay what they are, troubles of the system and broken-off reads turn into
failures that name the tracker, and anything else passes through without ending the exchange. -/
def settle (x : Exchange) (connected : Bool) (p : Problem) : Step Problem := do
  let tracker : Table := [("tracker", .text x.tracker.text)]
  let wrapped : Problem :=
    if connected then
      .fail .stream s!"Stream to tracker {x.tracker.text} failed: {p.text}" tracker
    else .fail .connection s!"Could not connect to tracker {x.tracker.text}: {p.text}" tracker
  match p with
  | .failure _ | .misconfigured _ | .cancelled =>
    x.enter .failed
    pure p
  | .system _ _ | .incomplete _ _ =>
    x.enter .failed
    pure wrapped
  | p => pure p

/-- Runs a part of an exchange and settles the problem that ends it, if one does. -/
def settling {α : Type} (x : Exchange) (connected : Bool) (part : Step α) : Step α := do
  match ← outcome part with
  | .ok a => pure a
  | .error p => throw (← x.settle connected p)

/-- Encodes the request and connects to the tracker. -/
def reach (x : Exchange) (message : Message) : Step (Octets × Connection) := do
  let payload ← MonadExcept.ofExcept (message.encodeRequest.mapError (·.problem))
  x.enter .connecting
  let c ← during (x.endpoint.connect x.tracker x.protocol)
  pure (payload, c)

/-- Sends the request on a connection, reads the response to its end, and decodes it. -/
def converse {α : Type} (x : Exchange) (c : Connection) (payload : Octets)
    (decode : Octets → Except Problem α) : Step α := do
  during c.openStream
  x.enter .streamOpen
  during (c.send payload)
  during c.finish
  x.enter .requestSent
  x.enter .awaitingResponse
  let response ← during (c.readToEnd x.sizeLimit)
  MonadExcept.ofExcept (decode response)

/-- Talks over a connection, which is closed whatever happens. A problem of the closing comes before any
other outcome. -/
def talk {α : Type} (x : Exchange) (c : Connection) (payload : Octets)
    (decode : Octets → Except Problem α) : Step α := do
  let result ← outcome (x.settling true (x.converse c payload decode))
  during c.close
  let response ← MonadExcept.ofExcept result
  x.enter .done
  pure response

/-- Sends a request and gives the decoded response. -/
def run {α : Type} (x : Exchange) (message : Message) (decode : Octets → Except Problem α) :
    Step α := do
  let phase := (← get).phase
  if phase ≠ .idle then throw (.runtime s!"Exchange already ran (state {phase.name})")
  let (payload, c) ← x.settling false (x.reach message)
  x.talk c payload decode

end Exchange

end ContentTracker
