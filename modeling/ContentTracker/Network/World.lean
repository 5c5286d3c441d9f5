import ContentTracker.Logging.Severity
import ContentTracker.Network.Behaviour

/-!
The state of all connections over time, and the steps that change it: waiting, dialing, writing and
reading. Only waiting takes time.
-/

namespace ContentTracker

/-- An established connection. -/
structure Link where
  behaviour : Behaviour
  /-- What has not arrived yet, each with its time. -/
  pending : List (Rat × Arrival)
  /-- What has arrived and not been read. -/
  buffer : Octets := []
  ended : Bool := false
  broken : Option Problem := none
  /-- The writer calls so far, the latest first. -/
  calls : List WriterCall := []
  streamOpened : Bool := false
  sendFinished : Bool := false
  closed : Bool := false

/-- A dial: the address, and the local address that the connection was to have. -/
structure Dial where
  address : DialAddress
  localAddress : Option DialAddress
deriving DecidableEq

structure LogLine where
  severity : Severity
  logger : String
  text : String
deriving DecidableEq

/-- A connection from outside that reached its handler, and the request once it was read. -/
structure Visit where
  remote : PeerId
  protocol : Octets
  request : Option Octets := none

/-- Everything that network operations read and change. -/
structure World where
  network : Network
  now : Rat := 0
  /-- The time at which the operation under way is broken off. -/
  deadline : Option Rat := none
  dials : List Dial := []
  links : Array Link := #[]
  log : List LogLine := []
  visits : List Visit := []

/-- The world at a later time. Time does not go back. -/
def World.advanceTo (w : World) (time : Rat) : World :=
  if w.now < time then { w with now := time } else w

/-- A network operation: it changes the world also where it ends in a problem. -/
abbrev Net := EStateM Problem World

namespace Net

def log (severity : Severity) (logger text : String) : Net Unit :=
  modify fun w => { w with log := w.log ++ [⟨severity, logger, text⟩] }

/-- The outcome of an operation as a value. -/
def outcome {α : Type} (op : Net α) : Net (Except Problem α) := fun w =>
  match op w with
  | .ok a w => .ok (.ok a) w
  | .error p w => .ok (.error p) w

/-- Lets time pass until `time`, or for ever if there is none. A deadline that comes first breaks the
operation off. -/
def waitUntil (time : Option Rat) : Net Unit := do
  let w ← get
  match time, w.deadline with
  | some t, some d =>
    if d < t then
      set (w.advanceTo d)
      throw .cancelled
    else set (w.advanceTo t)
  | some t, none => set (w.advanceTo t)
  | none, some d =>
    set (w.advanceTo d)
    throw .cancelled
  | none, none => throw (.runtime "nothing will ever arrive")

def sleep (seconds : Rat) : Net Unit := do
  if 0 < seconds then waitUntil (some ((← get).now + seconds))

/-- Runs an operation for at most so many seconds. A limit that is not positive is over before the
operation starts. A deadline of the surroundings that passes meanwhile breaks off all. A cancellation
that comes from inside before the time is over stays one. -/
def within {α : Type} (seconds : Rat) (op : Net α) : Net α := do
  if seconds ≤ 0 then throw (.system .timeout "")
  let before ← get
  let mine := before.now + seconds
  let deadline := match before.deadline with
    | some outer => if mine < outer then mine else outer
    | none => mine
  set { before with deadline := some deadline }
  let result ← outcome op
  modify fun w => { w with deadline := before.deadline }
  match result with
  | .ok a => pure a
  | .error p =>
    let now := (← get).now
    if before.deadline.any (· ≤ now) then throw .cancelled
    else match p with
      | .cancelled => if mine ≤ now then throw (.system .timeout "") else throw .cancelled
      | p => throw p

def getLink (i : Nat) : Net Link := do
  match (← get).links[i]? with
  | some l => pure l
  | none => throw (.runtime "no such connection")

def setLink (i : Nat) (l : Link) : Net Unit :=
  modify fun w => { w with links := w.links.setIfInBounds i l }

/-- Arrivals with the times at which they happen, from a given time on. -/
def schedule (start : Rat) : List (Rat × Arrival) → List (Rat × Arrival)
  | [] => []
  | (wait, a) :: rest => (start + wait, a) :: schedule (start + wait) rest

/-- Makes a connection to the side that behaves in a given way, and gives its number. -/
def establish (b : Behaviour) : Net Nat := do
  let w ← get
  set { w with links := w.links.push { behaviour := b, pending := schedule w.now b.arrivals } }
  pure w.links.size

/-- Dials an address and gives the number of the connection. -/
def dial (address : DialAddress) (localAddress : Option DialAddress) : Net Nat := do
  let w ← get
  let before := (w.dials.filter fun d => d.address = address).length
  let b := w.network address before
  set { w with dials := w.dials ++ [Dial.mk address localAddress] }
  sleep b.delay
  match b.dialProblem with
  | some p => throw p
  | none => establish b

/-- Makes a writer call. It is recorded even if it fails. Only a drain takes time. -/
def call (i : Nat) (c : WriterCall) : Net Unit := do
  let l ← getLink i
  let before := (l.calls.filter fun d => d.kind = c.kind).length
  setLink i { l with calls := c :: l.calls }
  if c.kind = .drain then sleep (l.behaviour.drainTime (before + 1))
  match l.behaviour.fails c.kind (before + 1) with
  | some p => throw p
  | none => pure ()

end Net

namespace Link

/-- One arrival. -/
def receive (l : Link) : Arrival → Link
  | .data bs => { l with buffer := l.buffer ++ bs }
  | .endOfStream => { l with ended := true }
  | .broken p => { l with broken := some p }

/-- All that arrives up to a time. -/
def advance (l : Link) (now : Rat) : Link :=
  let due := l.pending.takeWhile fun e => decide (e.1 ≤ now)
  let later := l.pending.dropWhile fun e => decide (e.1 ≤ now)
  due.foldl (fun l e => l.receive e.2) { l with pending := later }

/-- An arrival that a waiting reader notices: not data without octets. -/
def isNoticed : Arrival → Bool
  | .data [] => false
  | _ => true

end Link

namespace Net

/-- Takes in what has arrived by now. -/
def refresh (i : Nat) : Net Link := do
  let l := (← getLink i).advance (← get).now
  setLink i l
  pure l

/-- Waits for the next arrival. Whatever arrives together with it is taken in too; a break that comes
first is the outcome. -/
def awaitArrival (i : Nat) : Net Unit := do
  let l ← getLink i
  let next := l.pending.find? fun e => Link.isNoticed e.2
  waitUntil (next.map (·.1))
  let _ ← refresh i
  match next with
  | some (_, .broken p) => throw p
  | _ => pure ()

/-- Takes up to `count` octets out of the buffer. -/
def takeBuffered (i count : Nat) : Net Octets := do
  let l ← getLink i
  setLink i { l with buffer := l.buffer.drop count }
  pure (l.buffer.take count)

/-- Reads what is there, at most `count` octets, waiting if nothing is; nothing at the end of the
stream. A break that has arrived comes before buffered octets. -/
def readSome (i count : Nat) : Net Octets := do
  let l ← refresh i
  match l.broken with
  | some p => throw p
  | none =>
    if count = 0 then pure []
    else do
      if l.buffer.isEmpty && !l.ended then awaitArrival i
      takeBuffered i count

/-- Reads blocks to the end of the stream. Each block but the last takes octets that arrive at some
time, which bounds their number. -/
def readBlocks (i : Nat) : (fuel : Nat) → Octets → Net Octets
  | 0, read => pure read
  | fuel + 1, read => do
    let block ← readSome i 65536
    if block.isEmpty then pure read else readBlocks i fuel (read ++ block)

/-- How many octets a connection may still deliver. -/
def undelivered (l : Link) : Nat :=
  l.pending.foldl (fun n e =>
    match e.2 with
    | .data bs => n + bs.length
    | _ => n) l.buffer.length

/-- Reads up to `count` octets; a negative count reads to the end of the stream. -/
def readUpTo (i : Nat) (count : Int) : Net Octets := do
  match count with
  | .ofNat n => readSome i n
  | .negSucc _ =>
    let l ← getLink i
    readBlocks i (undelivered l + 1) []

/-- Waits until `count` octets are buffered or the stream has ended. `fuel` bounds the number of
arrivals. -/
def fill (i count : Nat) : (fuel : Nat) → Net Unit
  | 0 => waitUntil none
  | fuel + 1 => do
    let l ← refresh i
    if count ≤ l.buffer.length || l.ended then pure ()
    else do
      awaitArrival i
      fill i count fuel

/-- Reads exactly `count` octets. A stream that ends before is cut short. -/
def readExactly (i count : Nat) : Net Octets := do
  let l ← refresh i
  match l.broken with
  | some p => throw p
  | none =>
    if count = 0 then pure []
    else do
      fill i count (l.pending.length + 1)
      let l ← getLink i
      if l.buffer.length < count then
        setLink i { l with buffer := [] }
        throw (.incomplete l.buffer.length count)
      else takeBuffered i count

end Net

end ContentTracker
