import ContentTracker.Exchange

/-!
The tracker client: announcements and queries, each in an exchange of its own.
-/

namespace ContentTracker

/-- The protocol tag of trackers. -/
def trackerProtocol : Octets := Utf8.encode "n0/tracker/1"

/-- The most octets of a tracker's response. -/
def responseSizeLimit : Int := 16 * 1024

structure Client where
  endpoint : Endpoint
  protocol : Octets := trackerProtocol
  sizeLimit : Int := responseSizeLimit

namespace Client

open Net

def loggerName : String := Exchange.loggerName

/-- A client whose limit, if given, must be positive. -/
def make (endpoint : Endpoint) (protocol : Octets := trackerProtocol)
    (sizeLimit : Int := responseSizeLimit) : Except Problem Client :=
  if sizeLimit ≤ 0 then .error (.badValue "size_limit must be positive")
  else .ok ⟨endpoint, protocol, sizeLimit⟩

/-- From this many seconds on, the completion of an operation is told at a higher level. -/
def slowAfter : Rat := 1

/-- Logs the start, the end and the duration of an operation. -/
def timed {α : Type} (operation : String) (op : Net α) : Net α := do
  let start := (← get).now
  log .debug loggerName s!"Starting {operation}"
  let result ← outcome op
  let duration := (← get).now - start
  let seconds := fixedPlaces 3 duration
  match result with
  | .ok a =>
    log (if slowAfter ≤ duration then .info else .debug) loggerName
      s!"Completed {operation} in {seconds}s"
    pure a
  | .error p =>
    log .error loggerName s!"Failed {operation} in {seconds}s: {p.text}"
    throw p

/-- Runs a fresh exchange with a tracker. -/
def exchange {α : Type} (c : Client) (tracker : PeerId) (m : Message)
    (decode : Octets → Except Problem α) : Net α := fun w =>
  let x : Exchange := ⟨c.endpoint, tracker, c.protocol, c.sizeLimit⟩
  match x.run m decode { world := w } with
  | .ok a s => .ok a s.world
  | .error p s => .error p s.world

/-- Announces content to a tracker. The reply is read to its end and not looked at. -/
def announce (c : Client) (tracker : PeerId) (m : Message) : Net Unit := do
  match m with
  | .announce a =>
    if a.content.members.isEmpty then
      log .warning loggerName s!"Announcing empty content set for host {a.host.short}"
    timed "announce" (c.exchange tracker m fun _ => .ok ())
  | m => throw (.fail .encoding s!"Expected Announce, got {m.typeName}")

/-- Asks a tracker which hosts have the queried content. An answer about other content is only
noted. -/
def query (c : Client) (tracker : PeerId) (m : Message) : Net QueryResponse := do
  match m with
  | .query q =>
    timed "query" do
      let response ← c.exchange tracker m fun bs => (decodeResponse bs).mapError (·.problem)
      if response.content ≠ q.content then
        log .warning loggerName (s!"Tracker {tracker.short} answered for " ++
          s!"{response.content.text}, queried {q.content.text}")
      log .debug loggerName s!"Tracker {tracker.short} returned {response.hosts.length} host(s)"
      pure response
  | m => throw (.fail .encoding s!"Expected Query, got {m.typeName}")

end Client

end ContentTracker
