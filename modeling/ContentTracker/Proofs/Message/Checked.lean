import ContentTracker.Message
import ContentTracker.Proofs.Wire.Checked

/-! The checks on what messages are made of. Every constructor refuses what it cannot hold with an
error of value; the readers catch such errors around numbers only, so the other constructors must
never meet anything that they would refuse. -/

namespace ContentTracker

open Wire

variable {α κ : Type}

/-! Constructors that look at what they are given. -/

def Hash.built (bs : Octets) : Except Problem Hash :=
  (Hash.ofOctets bs).mapError fun fault => .badValue (faultMessage fault)

def PeerId.built (bs : Octets) : Except Problem PeerId :=
  (PeerId.ofOctets bs).mapError fun fault => .badValue (faultMessage fault)

/-- The member of an enumeration that a value equals as a number. -/
def enumerated (name : String) (ofTag? : Nat → Option α) (v : Value) : Except Problem α :=
  let found : Option α :=
    match v.integer? with
    | some (.ofNat n) => ofTag? n
    | _ => none
  match found with
  | some a => .ok a
  | none => .error (.badValue s!"{v.shown} is not a valid {name}")

def BlobFormat.built : Value → Except Problem BlobFormat := enumerated "BlobFormat" ofTag?

def AnnounceKind.built : Value → Except Problem AnnounceKind := enumerated "AnnounceKind" ofTag?

/-- The format is looked up again, whatever it was given as. -/
def ContentAddress.built (h : Hash) (format : Value) : Except Problem ContentAddress :=
  (BlobFormat.built format).map (ContentAddress.mk h)

def Announce.built (host : PeerId) (content : List ContentAddress) (kind : Value) :
    Except Problem Announce :=
  (AnnounceKind.built kind).map (Announce.mk host (.ofList content))

def registered [DecidableEq κ] (shown : κ → String) (table : List (κ × α)) (key : κ) :
    Except Problem α :=
  match table.lookup key with
  | some a => .ok a
  | none => .error (.missingKey (shown key))

def RequestKind.shown : RequestKind → String
  | .announce => "<RequestKind.ANNOUNCE: 0>"
  | .query => "<RequestKind.QUERY: 1>"

/-- Responses have one variant only. -/
def responseKind? (tag : Nat) : Option Unit := if tag = 0 then some () else none

/-! Readers that build what they read. -/

open Checked

def ContentAddress.checked : Checked ContentAddress := do
  let digest ← wire (Reader.take 32)
  let tag ← wire Reader.varint
  let format ← instead (.unknownFormat tag) (made (BlobFormat.built (.int tag)))
  let hash ← made (Hash.built digest)
  made (ContentAddress.built hash (.int format.tag))

def PeerId.checked : Checked PeerId := do
  let key ← wire (Reader.take 32)
  made (PeerId.built key)

def Announce.checked : Checked Announce := do
  let host ← PeerId.checked
  let content ← seq ContentAddress.checked
  let tag ← wire Reader.varint
  let kind ← instead (.unknownKind tag) (made (AnnounceKind.built (.int tag)))
  made (Announce.built host content (.int kind.tag))

def Query.checked : Checked Query := do
  let content ← ContentAddress.checked
  let complete ← wire Reader.flag
  let verified ← wire Reader.flag
  pure ⟨content, .bool complete, .bool verified⟩

def Request.readers : List (RequestKind × Checked Request) :=
  [(.announce, Request.announce <$> Announce.checked), (.query, Request.query <$> Query.checked)]

def Request.checked : Checked Request := do
  let tag ← wire Reader.varint
  let reader ← instead (.unknownVariant .request tag) (made do
    let kind ← enumerated "RequestKind" RequestKind.ofTag? (.int tag)
    registered RequestKind.shown readers kind)
  reader

def QueryResponse.fields : Checked QueryResponse := do
  let content ← ContentAddress.checked
  let hosts ← seq PeerId.checked
  pure ⟨content, hosts⟩

def QueryResponse.checked : Checked QueryResponse := do
  let tag ← wire Reader.varint
  let reader ← instead (.unknownVariant .response tag) (made do
    let kind ← enumerated "ResponseKind" responseKind? (.int tag)
    registered (fun _ => "<ResponseKind.QUERY_RESPONSE: 0>") [((), fields)] kind)
  reader

/-! Nothing that the readers hand over is refused. -/

theorem Hash.built_octets (d : Digest) : Hash.built d.octets = .ok ⟨d⟩ := by
  simp only [built, ofOctets, Digest.ofOctets?, d.length_octets, dif_pos, Except.mapError]

theorem PeerId.built_octets (d : Digest) : PeerId.built d.octets = .ok ⟨d⟩ := by
  simp only [built, ofOctets, Digest.ofOctets?, d.length_octets, dif_pos, Except.mapError]

theorem BlobFormat.built_tag (f : BlobFormat) : built (.int f.tag) = .ok f := by cases f <;> rfl

theorem AnnounceKind.built_tag (k : AnnounceKind) : built (.int k.tag) = .ok k := by
  cases k <;> rfl

theorem take_eq_octets : Reader.take 32 = Digest.octets <$> Digest.read := by
  funext c
  change _ = EStateM.map _ Digest.read c
  unfold EStateM.map Digest.read Reader.take
  by_cases enough : 32 ≤ c.rest.length
  · simp only [enough, dif_pos, Nat.not_lt.2 enough, if_false]
  · simp only [enough, Nat.lt_of_not_le enough, dif_neg, not_false_eq_true, if_true]

theorem enumerated_int (name : String) (ofTag? : Nat → Option α) (n : Nat) :
    enumerated name ofTag? (.int n) =
      match ofTag? n with
      | some a => .ok a
      | none => .error (.badValue s!"{(Value.int n).shown} is not a valid {name}") := rfl

theorem wire_tagged (name : String) (ofTag? : Nat → Option α) (fault : Nat → DecodeFault) :
    wire (Reader.tagged ofTag? fault) = (do
      let tag ← wire Reader.varint
      instead (fault tag) (made (enumerated name ofTag? (.int tag)))) := by
  unfold Reader.tagged
  rw [wire_bind]
  congr
  funext tag
  rw [enumerated_int]
  cases ofTag? tag <;> rfl

/-- A table with a reader for every variant misses none. -/
theorem wire_variant [DecidableEq κ] (name : String) (ofTag? : Nat → Option κ)
    (fault : Nat → DecodeFault) (shown : κ → String) {r : κ → Reader α}
    {table : List (κ × Checked α)} (complete : ∀ k, table.lookup k = some (wire (r k))) :
    wire (Reader.tagged ofTag? fault >>= r) = (do
      let tag ← wire Reader.varint
      let reader ← instead (fault tag) (made do
        let k ← enumerated name ofTag? (.int tag)
        registered shown table k)
      reader) := by
  rw [Reader.tagged, wire_bind, wire_bind, bind_assoc]
  congr
  funext tag
  rw [enumerated_int]
  cases ofTag? tag with
  | none => rfl
  | some k =>
      have entry : registered shown table k = .ok (wire (r k)) := by rw [registered, complete]
      change wire (pure k) >>= _ = instead _ (made (registered shown table k)) >>= id
      rw [entry]
      rfl

theorem wire_contentAddress : wire ContentAddress.read = ContentAddress.checked := by
  simp only [ContentAddress.read, ContentAddress.checked, wire_bind, wire_pure,
    wire_tagged "BlobFormat", take_eq_octets, wire_map, bind_map_left, bind_assoc,
    Hash.built_octets, made_ok, pure_bind, ContentAddress.built, BlobFormat.built_tag, Except.map]
  rfl

theorem wire_peerId : wire PeerId.read = PeerId.checked := by
  simp only [PeerId.read, PeerId.checked, take_eq_octets, wire_map, bind_map_left,
    PeerId.built_octets, made_ok]
  rfl

theorem wire_announce : wire Announce.read = Announce.checked := by
  simp only [Announce.read, Announce.checked, wire_bind, wire_pure, wire_seq, wire_peerId,
    wire_contentAddress, wire_tagged "AnnounceKind", bind_assoc, Announce.built,
    AnnounceKind.built_tag, Except.map, made_ok]
  rfl

theorem wire_query : wire Query.read = Query.checked := by
  simp only [Query.read, Query.checked, wire_bind, wire_pure, wire_contentAddress]

theorem wire_request : wire Request.read = Request.checked :=
  wire_variant "RequestKind" _ _ RequestKind.shown fun kind => by
    cases kind with
    | announce => simp only [wire_map, wire_announce]; rfl
    | query => simp only [wire_map, wire_query]; rfl

theorem wire_response : wire QueryResponse.read = QueryResponse.checked :=
  wire_variant "ResponseKind" _ _ _ fun _ => by
    simp only [wire_bind, wire_contentAddress, wire_seq, wire_peerId, wire_pure]
    rfl

end ContentTracker
