import ContentTracker.Duration
import ContentTracker.Network.World

/-!
Established connections to nodes. Each carries a single stream in both directions, whose sending
side is half-closed to mark the end of a message.
-/

namespace ContentTracker

/-- A connection: its number in the world, the node at the other side, the protocol both agreed on,
and how long one read may take. -/
structure Connection where
  number : Nat
  remote : PeerId
  protocol : Octets
  readTimeout : Duration

namespace Connection

open Net

def loggerName : String := "cctrack.transport.endpoint"

/-- Takes the one stream of a connection. -/
def openStream (c : Connection) : Net Unit := do
  let l ← getLink c.number
  if l.closed then throw (.fail .connection "Connection is closed")
  if l.streamOpened then
    throw (.fail .connection "Connection carries a single stream, already opened")
  setLink c.number { l with streamOpened := true }

/-- Turns the troubles that the system reports into stream failures. -/
def asStreamFailure {α : Type} (activity : String) (op : Net α) : Net α := do
  match ← outcome op with
  | .ok a => pure a
  | .error p =>
    if p.isSystem then throw (.fail .stream s!"Failed to {activity} stream: {p.text}") else throw p

/-- Sends octets and waits for the transport to take them. -/
def send (c : Connection) (bs : Octets) : Net Unit := do
  if (← getLink c.number).sendFinished then throw (.fail .stream "Stream already finished")
  asStreamFailure "write to" do
    call c.number (.write bs)
    call c.number .drain

/-- Half-closes the sending side, where the transport can. -/
def finish (c : Connection) : Net Unit := do
  let l ← getLink c.number
  if l.sendFinished then return
  asStreamFailure "finish" do
    if l.behaviour.canHalfClose then call c.number .writeEnd
    call c.number .drain
  setLink c.number { ← getLink c.number with sendFinished := true }

/-- The most octets asked for at once. -/
def chunkSize : Int := 65536

/-- One read of `readToEnd`, which has `read` octets so far. -/
def readChunk (c : Connection) (limit : Int) (read : Octets) : Net Octets := do
  let want := min chunkSize (limit + 1 - read.length)
  match ← outcome (within c.readTimeout.seconds (readUpTo c.number want)) with
  | .ok chunk => pure chunk
  | .error (.system .timeout _) =>
    throw (.fail .stream
      s!"Stream not finished after {c.readTimeout.text}s ({read.length} bytes read)"
      [("bytes_read", .int read.length)])
  | .error p =>
    if p.isSystem then throw (.fail .stream s!"Failed to read from stream: {p.text}") else throw p

def readLoop (c : Connection) (limit : Int) : (fuel : Nat) → Octets → Net Octets
  | 0, read => pure read
  | fuel + 1, read => do
    let chunk ← readChunk c limit read
    if chunk.isEmpty then pure read
    else if limit < (read ++ chunk).length then
      throw (.fail .oversized s!"Response exceeds {limit} bytes" [("limit", .int limit)])
    else readLoop c limit fuel (read ++ chunk)

/-- Reads until the other side finishes, at most `limit` octets. Every chunk but the last brings an
octet, so there are at most `limit + 1` of them. -/
def readToEnd (c : Connection) (limit : Int) : Net Octets := readLoop c limit (limit.toNat + 2) []

/-- Closes the connection, once. Trouble after the closing call itself is only logged. -/
def close (c : Connection) : Net Unit := do
  let l ← getLink c.number
  if l.closed then return
  setLink c.number { l with closed := true }
  call c.number .close
  match ← outcome (call c.number .waitClosed) with
  | .ok () => pure ()
  | .error p =>
    if p.isSystem then
      log .debug loggerName s!"Error while closing connection to {c.remote.short}: {p.text}"
    else throw p

def localAddress (c : Connection) : Net DialAddress := do
  return (← getLink c.number).behaviour.localName

end Connection

end ContentTracker
