import ContentTracker.Message
import ContentTracker.SocketAddress

/-!
Tickets: texts that name some content, a node that hosts it, and ways to reach that node.
-/

namespace ContentTracker

open Wire

/-- A node and the ways to reach it. The direct addresses are kept in wire order, each once. -/
structure NodeAddress where
  node : PeerId
  relay : Option String := none
  direct : List SocketAddress := []
deriving DecidableEq

/-- A node and the different addresses among those given. -/
def NodeAddress.make (node : PeerId) (relay : Option String) (direct : List SocketAddress) :
    NodeAddress :=
  ⟨node, relay, SocketAddress.sorted direct⟩

structure Ticket where
  node : NodeAddress
  content : ContentAddress
deriving DecidableEq

/-- A ticket with addresses in any accepted spelling. Of several pairs that name no address, the
first is the fault. -/
def Ticket.new (node : PeerId) (relay : Option String) (addresses : List Value)
    (content : ContentAddress) : Except SocketAddress.Fault Ticket := do
  let direct ← addresses.mapM SocketAddress.ofValue
  pure ⟨.make node relay direct, content⟩

def SocketAddress.item (a : SocketAddress) : Item :=
  .record [natItem a.ip.family, .fixed a.ip.packed a.ip.packed.length, natItem a.port]

/-- An address of version 4 in four octets, or of version 6 in sixteen, after the number that says
which. -/
def IpAddress.read : Reader IpAddress := do
  let tag ← Reader.varint
  let size ← match tag with
    | 0 => pure 4
    | 1 => pure 16
    | _ => throw (.unknownFamily tag)
  match IpAddress.ofPacked? (← Reader.take size) with
  | some ip => pure ip
  | none => throw (.unknownFamily tag)

def SocketAddress.read : Reader SocketAddress := do
  let ip ← IpAddress.read
  let port ← Reader.varint
  if h : port < 65536 then pure ⟨ip, port, h⟩ else throw (.portOutOfRange port)

def Ticket.read : Reader Ticket := do
  let _ ← Reader.tagged (fun tag => if tag = 0 then some () else none) (.unknownVariant .ticket)
  let node ← PeerId.read
  let relay ← Reader.option Reader.text
  let direct ← Reader.seq SocketAddress.read
  let format ← Reader.tagged BlobFormat.ofTag? .unknownFormat
  let d ← Digest.read
  pure ⟨.make node relay direct, ⟨⟨d⟩, format⟩⟩

namespace Ticket

def item (t : Ticket) : Item :=
  .record [natItem 0, t.node.node.item, .option (t.node.relay.map .text),
    .seq (t.node.direct.map SocketAddress.item), natItem t.content.format.tag,
    t.content.hash.digest.item]

/-- The octets of a ticket: the number of its form, then node, relay, addresses, format and
hash. -/
def toOctets (t : Ticket) : Octets := (write t.item).octets

def ofOctets (bs : Octets) : Except DecodeFault Ticket := Reader.whole Ticket.read bs

/-- The letters that every ticket text begins with. -/
def marker : String := "blob"

def text (t : Ticket) : String := marker ++ Base32.encode t.toOctets

/-- Why a text is no ticket. -/
inductive Fault
  | noMarker
  | badBase32 (fault : Base32.Fault)
  | badOctets (fault : DecodeFault)
deriving Repr, DecidableEq

def Fault.message : Fault → String
  | .noMarker => s!"Ticket must start with {Text.quoted marker}"
  | .badBase32 fault => fault.message
  | .badOctets fault => s!"Invalid ticket: {fault.message}"

def parse (text : String) : Except Fault Ticket :=
  if marker.toList.isPrefixOf text.toList then
    match Base32.decode (String.ofList (text.toList.drop marker.length)) with
    | .error fault => .error (.badBase32 fault)
    | .ok bs =>
      match ofOctets bs with
      | .error fault => .error (.badOctets fault)
      | .ok t => .ok t
  else .error .noMarker

end Ticket

end ContentTracker
