import ContentTracker.Content
import ContentTracker.Wire.Decoding
import ContentTracker.Wire.Encoding

/-!
The messages between nodes and trackers. Each begins with the number of its variant.
-/

namespace ContentTracker

/-- How much of the announced content a host claims to have. -/
inductive AnnounceKind
  | some
  | complete
deriving Repr, DecidableEq

namespace AnnounceKind

def tag : AnnounceKind → Nat
  | .some => 0
  | .complete => 1

def ofTag? : Nat → Option AnnounceKind
  | 0 => Option.some .some
  | 1 => Option.some .complete
  | _ => none

/-- The kind that a value equals as a number. -/
def ofValue? (v : Value) : Option AnnounceKind :=
  match v.integer? with
  | Option.some (.ofNat n) => ofTag? n
  | _ => none

def faultMessage (v : Value) : String := v.complaint s!"{v.shown} is not a valid AnnounceKind"

def ofComplete (isComplete : Bool) : AnnounceKind := if isComplete then .complete else .some

/-- The word for a kind in logs and on the terminal. -/
def word : AnnounceKind → String
  | .some => "partial"
  | .complete => "complete"

end AnnounceKind

/-- A claim that a host has some content. -/
structure Announce where
  host : PeerId
  content : ContentSet
  kind : AnnounceKind

/-- A question which hosts have some content: those with all of it, and those that the tracker has
checked. The two filters are kept as they were given; only booleans can be written. -/
structure Query where
  content : ContentAddress
  complete : Value := .bool true
  verified : Value := .bool false

/-- The answer to a query. The order of the hosts is the tracker's, repetitions included. -/
structure QueryResponse where
  content : ContentAddress
  hosts : List PeerId
deriving DecidableEq

inductive Request
  | announce (a : Announce)
  | query (q : Query)

/-- Whatever a caller hands over to be written. -/
inductive Message
  | announce (a : Announce)
  | query (q : Query)
  | response (r : QueryResponse)
  | other (v : Value)

def Request.message : Request → Message
  | .announce a => .announce a
  | .query q => .query q

def Message.typeName : Message → String
  | .announce _ => "Announce"
  | .query _ => "Query"
  | .response _ => "QueryResponse"
  | .other v => v.typeName

/-- The variants of requests. -/
inductive RequestKind
  | announce
  | query
deriving Repr, DecidableEq

def RequestKind.tag : RequestKind → Nat
  | .announce => 0
  | .query => 1

def RequestKind.ofTag? : Nat → Option RequestKind
  | 0 => some .announce
  | 1 => some .query
  | _ => none

open Wire

def Digest.item (d : Digest) : Item := .fixed d.octets 32

def natItem (n : Nat) : Item := .varint (.int n)

def ContentAddress.item (a : ContentAddress) : Item :=
  .record [a.hash.digest.item, natItem a.format.tag]

def PeerId.item (p : PeerId) : Item := p.key.item

/-- The content of an announce goes out in rising order. -/
def Announce.item (a : Announce) : Item :=
  .record [a.host.item, .seq (a.content.members.map ContentAddress.item), natItem a.kind.tag]

def Query.item (q : Query) : Item := .record [q.content.item, .flag q.complete, .flag q.verified]

def QueryResponse.item (r : QueryResponse) : Item :=
  .record [r.content.item, .seq (r.hosts.map PeerId.item)]

namespace Message

def requestKind : Message → Except EncodeFault RequestKind
  | .announce _ => .ok .announce
  | .query _ => .ok .query
  | m => .error (.notARequest m.typeName)

def encodeRequest : Message → Except EncodeFault Octets
  | .announce a => encode (.record [natItem RequestKind.announce.tag, a.item])
  | .query q => encode (.record [natItem RequestKind.query.tag, q.item])
  | m => .error (.notARequest m.typeName)

def encodeResponse : Message → Except EncodeFault Octets
  | .response r => encode (.record [natItem 0, r.item])
  | m => .error (.notAResponse m.typeName)

end Message

/-- The next 32 octets. -/
def Digest.read : Reader Digest := fun c =>
  if h : 32 ≤ c.rest.length then
    .ok ⟨c.rest.take 32, by rw [List.length_take]; omega⟩ ⟨c.offset + 32, c.rest.drop 32⟩
  else .error (.endOfMessage 32 c.rest.length c.offset) c

def PeerId.read : Reader PeerId := PeerId.mk <$> Digest.read

/-- A number that names one of several alternatives. -/
def Wire.Reader.tagged {α : Type} (ofTag? : Nat → Option α) (fault : Nat → DecodeFault) :
    Reader α := do
  let tag ← Reader.varint
  match ofTag? tag with
  | some a => pure a
  | none => throw (fault tag)

def ContentAddress.read : Reader ContentAddress := do
  let d ← Digest.read
  let format ← Reader.tagged BlobFormat.ofTag? .unknownFormat
  pure ⟨⟨d⟩, format⟩

def Announce.read : Reader Announce := do
  let host ← PeerId.read
  let content ← Reader.seq ContentAddress.read
  let kind ← Reader.tagged AnnounceKind.ofTag? .unknownKind
  pure ⟨host, .ofList content, kind⟩

def Query.read : Reader Query := do
  let content ← ContentAddress.read
  let complete ← Reader.flag
  let verified ← Reader.flag
  pure ⟨content, .bool complete, .bool verified⟩

def Request.read : Reader Request := do
  match ← Reader.tagged RequestKind.ofTag? (.unknownVariant .request) with
  | .announce => Request.announce <$> Announce.read
  | .query => Request.query <$> Query.read

/-- There is a single variant of responses; any other number is refused rather than guessed at. -/
def QueryResponse.read : Reader QueryResponse := do
  let _ ← Reader.tagged (fun tag => if tag = 0 then some () else none) (.unknownVariant .response)
  let content ← ContentAddress.read
  let hosts ← Reader.seq PeerId.read
  pure ⟨content, hosts⟩

def decodeRequest (bs : Octets) : Except DecodeFault Request := Reader.whole Request.read bs

def decodeResponse (bs : Octets) : Except DecodeFault QueryResponse :=
  Reader.whole QueryResponse.read bs

end ContentTracker
