import ContentTracker.Content
import ContentTracker.IpAddress
import ContentTracker.Problem
import ContentTracker.Specifier

/-!
Where nodes are dialed: hosts by name or number, and the book that lists them for each node.
-/

namespace ContentTracker

/-- A host, which need not be numeric, and a port. -/
structure DialAddress where
  host : String
  port : Int
deriving Repr, DecidableEq

namespace DialAddress

/-- Why a text is no dial address. -/
inductive Fault
  | noPort
  | badPort
  | portOutOfRange
deriving Repr, DecidableEq

def Fault.message (text : String) : Fault → String
  | .noPort => s!"Invalid address (expected host:port): {Text.quoted text}"
  | .badPort => s!"Invalid port in address {Text.quoted text}"
  | .portOutOfRange => s!"Port out of range in address {Text.quoted text}"

def Fault.failure (text : String) (fault : Fault) : Failure :=
  ⟨.configuration, fault.message text, []⟩

/-- What stands before and after the last colon. -/
def splitLastColon (cs : List Char) : Option (List Char × List Char) :=
  let after := (cs.reverse.takeWhile (· ≠ ':')).reverse
  match cs.reverse.dropWhile (· ≠ ':') with
  | [] => none
  | _ :: before => some (before.reverse, after)

/-- Takes one pair of brackets off. -/
def unbracket (cs : List Char) : List Char :=
  match cs with
  | '[' :: rest => if rest.getLast? = some ']' then rest.dropLast else cs
  | cs => cs

/-- Reads `host:port` or `[host]:port`; the port is between 1 and 65535. -/
def parse (text : String) : Except Fault DialAddress :=
  match splitLastColon (Text.stripChars text.toList) with
  | none => .error .noPort
  | some ([], _) => .error .noPort
  | some (host, port) =>
    match Numeral.readInt (String.ofList port) with
    | .error _ => .error .badPort
    | .ok n =>
      if 0 < n ∧ n ≤ 65535 then .ok ⟨String.ofList (unbracket host), n⟩
      else .error .portOutOfRange

/-- A host and a port as one text, with brackets around a host that is a version 6 address. Both are
values that can be written. -/
def format (host port : Value) : String :=
  match IpAddress.ofValue? host with
  | some (.v6 ..) => s!"[{host.plain}]:{port.plain}"
  | _ => s!"{host.plain}:{port.plain}"

def text (a : DialAddress) : String := format (.text a.host) (.int a.port)

/-- The dial address of a ticket's socket address. -/
def ofSocketAddress (a : SocketAddress) : DialAddress := ⟨a.ip.text, a.port⟩

end DialAddress

/-- The addresses of nodes, in the order in which nodes and addresses were first named. -/
abbrev AddressBook := Grouped PeerId (List DialAddress)

namespace AddressBook

/-- Appends an address that is not yet known. -/
def extend (known : List DialAddress) (a : DialAddress) : List DialAddress :=
  if known.contains a then known else known ++ [a]

/-- Names a node, and its address unless it is known. -/
def insert (book : AddressBook) (peer : PeerId) (a : DialAddress) : AddressBook :=
  Grouped.update peer [] (extend · a) book

def insertAll (book : AddressBook) (peer : PeerId) (addresses : List DialAddress) : AddressBook :=
  Grouped.update peer [] (fun known => addresses.foldl extend known) book

/-- The address that a pair of values stands for: any host that can be written, in its own text, and
any port that reads as an integer. -/
def address (v : Value) : Except Problem DialAddress := do
  let (host, port) ← (Conversion.toPair v).mapError .ofPair
  let name ← host.written Value.plain
  return ⟨name, ← (Conversion.toInteger port).mapError .ofInteger⟩

/-- The addresses before the first pair that stands for none, and the trouble with that pair. -/
def addressesUntil : List Value → List DialAddress × Option Problem
  | [] => ([], none)
  | v :: rest =>
    match address v with
    | .error problem => ([], some problem)
    | .ok a =>
      let (as, problem) := addressesUntil rest
      (a :: as, problem)

/-- Adds addresses to a node. Those before one that cannot be read are kept. -/
def add (book : AddressBook) (peer : PeerId) (addresses : List Value) :
    AddressBook × Option Problem :=
  let (as, problem) := addressesUntil addresses
  (insertAll book peer as, problem)

/-- A book from pairs of values, refused at the first one that cannot be read. -/
def ofEntries (entries : List (PeerId × List Value)) : Except Problem AddressBook :=
  entries.foldlM (fun book (peer, addresses) =>
    match add book peer addresses with
    | (book, none) => .ok book
    | (_, some problem) => .error problem) []

/-- The dial addresses that texts give, refused at the first that gives none. -/
def parseAll : List String → Except Failure (List DialAddress)
  | [] => .ok []
  | text :: rest =>
    match DialAddress.parse text with
    | .error fault => .error (fault.failure text)
    | .ok a => (parseAll rest).map (a :: ·)

/-- A book from the texts of node ids and addresses. -/
def ofTexts (entries : List (String × List String)) : Except Failure AddressBook :=
  entries.foldlM (fun book (node, addresses) =>
    match PeerId.parse node with
    | .error _ => .error ⟨.configuration, s!"Invalid node id in address book: {Text.quoted node}", []⟩
    | .ok peer => (parseAll addresses).map (insertAll book peer ·)) []

def get (book : AddressBook) (peer : PeerId) : List DialAddress :=
  (List.lookup peer book).getD []

/-- Whether a node has an address. -/
def has (book : AddressBook) (peer : PeerId) : Bool := !(get book peer).isEmpty

/-- How many nodes have been named, with an address or without. -/
def size (book : AddressBook) : Nat := List.length book

end AddressBook

end ContentTracker
