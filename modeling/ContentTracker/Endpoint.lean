import ContentTracker.Connection

/-!
A node's own end of the network: it dials other nodes and accepts their connections. Both sides of
a new connection present a protocol tag and their node id.
-/

namespace ContentTracker

structure Endpoint where
  node : PeerId
  book : AddressBook := []
  /-- For dialing and the handshake, per address. -/
  connectTimeout : Duration := .decimal (.ofInt 10)
  /-- For a single read. -/
  readTimeout : Duration := .decimal (.ofInt 30)
  bindHost : Option String := none
  bindPort : Int := 0

namespace Endpoint

open Net

def loggerName : String := Connection.loggerName

/-- The hello of a node: the length of the protocol tag, the tag, and the node id. -/
def hello (protocol : Octets) (node : PeerId) : Except Problem Octets :=
  if protocol.isEmpty || 255 < protocol.length then
    .error (.fail .connection "Protocol tag must be 1 to 255 bytes" [("alpn", .octets protocol)])
  else .ok (UInt8.ofNat protocol.length :: protocol ++ node.key.octets)

/-- Reads the hello of the other side. -/
def readHello (i : Nat) : Net (Octets × PeerId) := do
  let size ← readExactly i 1
  let protocol ← readExactly i (Octets.toNat size)
  let key ← readExactly i 32
  match PeerId.ofOctets key with
  | .ok peer => pure (protocol, peer)
  | .error fault => throw (.badValue (PeerId.faultMessage fault))

/-- The local address of outgoing connections: none unless a host or a port is set; a port alone is
bound at all hosts of the dialed address's version. -/
def localAddress (e : Endpoint) (a : DialAddress) : Option DialAddress :=
  match e.bindHost with
  | some host => some ⟨host, e.bindPort⟩
  | none =>
    if e.bindPort = 0 then none
    else some ⟨if a.host.toList.contains ':' then "::" else "0.0.0.0", e.bindPort⟩

/-- The text of a protocol tag in logs, where octets beyond ASCII are replaced. -/
def protocolText (protocol : Octets) : String :=
  String.ofList (protocol.map fun b =>
    if b.toNat < 128 then Char.ofNat b.toNat else Char.ofNat 0xfffd)

/-- Says hello and checks the answer. -/
def greet (i : Nat) (peer : PeerId) (protocol greeting : Octets) : Net PeerId := do
  call i (.write greeting)
  call i .drain
  let (theirs, remote) ← readHello i
  if theirs ≠ protocol then
    throw (.fail .connection (s!"Protocol mismatch: expected {Text.quotedOctets protocol}, " ++
      s!"got {Text.quotedOctets theirs}") [("alpn", .octets theirs)])
  if remote ≠ peer then
    throw (.fail .connection s!"Node id mismatch: dialed {peer.text}, got {remote.text}"
      [("node_id", .text remote.text)])
  pure remote

/-- Dials one address. A connection on which the greeting goes wrong in any way is closed. -/
def dialOne (e : Endpoint) (peer : PeerId) (a : DialAddress) (protocol greeting : Octets) :
    Net Connection := do
  let i ← dial a (e.localAddress a)
  match ← outcome (greet i peer protocol greeting) with
  | .ok remote => pure ⟨i, remote, protocol, e.readTimeout⟩
  | .error p =>
    call i .close
    throw p

/-- Why an address gave no connection, in words; nothing for a problem that is not the address's
own. -/
def dialFault? (e : Endpoint) : Problem → Option String
  | .system .timeout _ => some s!"timed out after {e.connectTimeout.text}s"
  | .system trouble text => some (if text.isEmpty then trouble.name else text)
  | .incomplete got wanted => some (Problem.incomplete got wanted).text
  | .failure f => if f.kind = .connection then some f.message else none
  | _ => none

/-- Tries addresses in turn, collecting the reason for each that fails. -/
def tryAddresses (e : Endpoint) (peer : PeerId) (protocol greeting : Octets) :
    List DialAddress → Table → Net Connection
  | [], errors => throw (.fail .connection s!"Could not connect to node {peer.text}"
      [("node_id", .text peer.text), ("errors", .dict errors)])
  | a :: rest, errors => do
    match ← outcome (within e.connectTimeout.seconds (e.dialOne peer a protocol greeting)) with
    | .ok c =>
      log .debug loggerName s!"Connected to {peer.short} at {a.text} ({protocolText protocol})"
      pure c
    | .error p =>
      match e.dialFault? p with
      | none => throw p
      | some reason =>
        log .debug loggerName s!"Dialing {peer.short} at {a.text} failed: {reason}"
        tryAddresses e peer protocol greeting rest (errors.put a.text (.text reason))

/-- Connects to a node: the first of its addresses, in the order of the book, that completes the
handshake. -/
def connect (e : Endpoint) (peer : PeerId) (protocol : Octets) : Net Connection := do
  let greeting ← ofExcept (hello protocol e.node)
  match e.book.get peer with
  | [] => throw (.fail .connection s!"No known address for node {peer.text}"
      [("node_id", .text peer.text)])
  | addresses => e.tryAddresses peer protocol greeting addresses []

/-- Why a handshake from outside failed, where that is a reason to drop the connection. -/
def handshakeFault? : Problem → Option String
  | .system _ text => some text
  | .incomplete got wanted => some (Problem.incomplete got wanted).text
  | .badValue text => some text
  | .badText fault => some fault.message
  | _ => none

/-- Runs a handler on a connection and closes it, whatever happens. A problem of the handler is
only logged. -/
def serve (greeting : Octets) (i : Nat) (c : Connection) (handler : Connection → Net Unit) :
    Net Unit := do
  call i (.write greeting)
  match ← outcome (do call i .drain; handler c) with
  | .ok () => pure ()
  | .error .cancelled =>
    c.close
    throw .cancelled
  | .error _ => log .error loggerName s!"Error handling connection from {c.remote.short}"
  c.close

/-- Accepts a connection: one that presents the right protocol is handed to the handler, any other is
closed without an answer. -/
def accept (e : Endpoint) (protocol greeting : Octets) (handler : Connection → Net Unit)
    (b : Behaviour) : Net Unit := do
  let i ← establish b
  match ← outcome (within e.connectTimeout.seconds (readHello i)) with
  | .error p =>
    match handshakeFault? p with
    | none => throw p
    | some reason =>
      log .debug loggerName s!"Dropping connection with failed handshake: {reason}"
      call i .close
  | .ok (theirs, remote) =>
    if theirs ≠ protocol then
      log .debug loggerName s!"Dropping connection for unknown protocol {Text.quotedOctets theirs}"
      call i .close
    else serve greeting i ⟨i, remote, protocol, e.readTimeout⟩ handler

/-- Starts to listen and gives the greeting for connections from outside. -/
def listen (e : Endpoint) (place : DialAddress) (protocol : Octets) : Net Octets := do
  let greeting ← ofExcept (hello protocol e.node)
  log .info loggerName s!"Listening for {protocolText protocol} on {place.text}"
  pure greeting

end Endpoint

end ContentTracker
