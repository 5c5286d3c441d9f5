import ContentTracker.Ticket

/-!
Content specifiers: the three ways in which people name content, and what follows from each.
-/

namespace ContentTracker

/-- Content named by a hash, by a hash and a format, or by a ticket. -/
inductive Specifier
  | hash (h : Hash)
  | address (a : ContentAddress)
  | ticket (t : Ticket)
deriving DecidableEq

namespace Specifier

/-- Why a text is none of the three. -/
structure Fault where
  hash : Digest.Fault
  address : ContentAddress.Fault
  ticket : Ticket.Fault
deriving Repr, DecidableEq

def Fault.details (fault : Fault) : Table :=
  [("hash", .text (Hash.faultMessage fault.hash)),
    ("hash_and_format", .text fault.address.message),
    ("ticket", .text fault.ticket.message)]

/-- The failure to read `text`, which is shown without the blanks at its ends. -/
def Fault.failure (text : String) (fault : Fault) : Failure :=
  ⟨.specifier, s!"Invalid content specifier: {Text.quoted (Text.strip text)}", fault.details⟩

/-- The text for a value that is neither a hash nor a content address nor a ticket. -/
def faultMessage (v : Value) : String := s!"Not a content specifier: {v.typeName}"

/-- Reads a text freed of blanks at its ends: as a hash if it is one, else as a hash and format, else
as a ticket. -/
def parse (text : String) : Except Fault Specifier :=
  let text := Text.strip text
  match Hash.parse text with
  | .ok h => .ok (.hash h)
  | .error noHash =>
    match ContentAddress.parse text with
    | .ok a => .ok (.address a)
    | .error noAddress =>
      match Ticket.parse text with
      | .ok t => .ok (.ticket t)
      | .error noTicket => .error ⟨noHash, noAddress, noTicket⟩

/-- The content named. A bare hash is a raw blob. -/
def content : Specifier → ContentAddress
  | .hash h => ⟨h, .raw⟩
  | .address a => a
  | .ticket t => t.content

/-- The node named to host the content. Only tickets name one. -/
def host? : Specifier → Option PeerId
  | .ticket t => some t.node.node
  | _ => none

def kindName : Specifier → String
  | .hash _ => "hash"
  | .address _ => "hash_and_format"
  | .ticket _ => "ticket"

def text : Specifier → String
  | .hash h => h.toHex
  | .address a => a.text
  | .ticket t => t.text

end Specifier

/-- Values under keys, in order of the keys' first appearance. -/
abbrev Grouped (κ α : Type) := List (κ × α)

namespace Grouped

/-- Changes the value under a key, or appends the key with a value changed from `fresh`. -/
def update {κ α : Type} [DecidableEq κ] (key : κ) (fresh : α) (change : α → α) :
    Grouped κ α → Grouped κ α
  | [] => [(key, change fresh)]
  | (k, a) :: rest =>
    if k = key then (k, change a) :: rest else (k, a) :: update key fresh change rest

end Grouped

namespace Plan

/-- Why no announcement can be planned. -/
inductive Fault
  | noHost (content : String)
  | nothing
deriving Repr, DecidableEq

def Fault.failure : Fault → Failure
  | .noHost content => ⟨.hostRequired,
      s!"Content {content} is not a ticket, an explicit host is required",
      [("content", .text content)]⟩
  | .nothing => ⟨.hostRequired, "No content given and no host to announce", []⟩

/-- The content of tickets by the host that each names. -/
def byHost : List Specifier → Grouped PeerId ContentSet → Except Fault (Grouped PeerId ContentSet)
  | [], groups => .ok groups
  | spec :: rest, groups =>
    match spec.host? with
    | none => .error (.noHost spec.text)
    | some host => byHost rest (groups.update host .empty (·.insert spec.content))

/-- The announcements for some content: a single one for a given host; without one, one for each
host that the tickets name, in order of first appearance. -/
def announces (specs : List Specifier) (host : Option PeerId) (kind : AnnounceKind) :
    Except Fault (List Announce) :=
  match host with
  | some host => .ok [⟨host, .ofList (specs.map Specifier.content), kind⟩]
  | none =>
    match byHost specs [] with
    | .error fault => .error fault
    | .ok [] => .error .nothing
    | .ok groups => .ok (groups.map fun (host, content) => ⟨host, content, kind⟩)

/-- Appends the addresses that are not yet known. -/
def mergeAddresses (known more : List SocketAddress) : List SocketAddress :=
  more.foldl (fun known a => if known.contains a then known else known ++ [a]) known

/-- The direct addresses of the nodes that tickets name, those of each ticket in wire order. -/
def ticketAddresses (specs : List Specifier) : Grouped PeerId (List SocketAddress) :=
  specs.foldl (fun groups spec =>
    match spec with
    | .ticket t => groups.update t.node.node [] (mergeAddresses · (SocketAddress.sorted t.node.direct))
    | _ => groups) []

end Plan

end ContentTracker
