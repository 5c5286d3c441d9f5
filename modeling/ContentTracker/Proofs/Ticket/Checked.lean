import ContentTracker.Proofs.Message.Checked
import ContentTracker.Proofs.Ticket.RoundTrip

/-! The checks on what tickets are made of. Addresses are printed while they are read, and what was
printed is looked at once more when the node is built, after the last octet and outside of all
catches; that look never finds a fault. -/

namespace ContentTracker

open Wire Checked

/-- An address of one version from octets, which must be as many as it has. -/
def IpAddress.built (size version : Nat) (bs : Octets) : Except Problem IpAddress :=
  match if bs.length = size then ofPacked? bs else none with
  | some ip => .ok ip
  | none => .error (.badValue (s!"{(Value.octets bs).shown} (len {bs.length} != {size}) " ++
      s!"are not permitted as an IPv{version} address"))

def SocketAddress.printed (a : SocketAddress) : String × Nat := (a.ip.text, a.port)

def IpAddress.checked : Checked IpAddress := do
  let tag ← wire Reader.varint
  match tag with
  | 0 => wire (Reader.take 4) >>= fun bs => made (built 4 4 bs)
  | 1 => wire (Reader.take 16) >>= fun bs => made (built 16 6 bs)
  | _ => wire (throw (.unknownFamily tag))

def SocketAddress.checked : Checked (String × Nat) := do
  let ip ← IpAddress.checked
  let port ← wire Reader.varint
  if 65535 < port then wire (throw (.portOutOfRange port)) else pure (ip.text, port)

/-- A node whose addresses are looked at one by one. -/
def NodeAddress.built (node : PeerId) (relay : Option String) (direct : List (String × Nat)) :
    Except Problem NodeAddress := do
  let direct ← direct.mapM fun (host, port) =>
    (SocketAddress.ofValue (.list [.text host, .int port])).mapError SocketAddress.Fault.problem
  pure (.make node relay direct)

def Ticket.built (node : NodeAddress) (format : Value) (hash : Hash) : Except Problem Ticket :=
  (BlobFormat.built format).map fun format => ⟨node, ⟨hash, format⟩⟩

/-- What a ticket is made of, with addresses and hash as far as they have been understood. -/
structure Ticket.Parts (address digest : Type) where
  node : PeerId
  relay : Option String
  direct : List address
  format : BlobFormat
  digest : digest

def Ticket.parts : Checked (Parts (String × Nat) Octets) := do
  let variant ← wire Reader.varint
  if variant ≠ 0 then wire (throw (.unknownVariant .ticket variant))
  else
    let node ← PeerId.checked
    let relay ← Checked.option Checked.text
    let direct ← seq SocketAddress.checked
    let tag ← wire Reader.varint
    let format ← instead (.unknownFormat tag) (made (BlobFormat.built (.int tag)))
    let digest ← wire (Reader.take 32)
    pure ⟨node, relay, direct, format, digest⟩

/-- A ticket is built after all its octets have been read. -/
def Ticket.checkedOctets (bs : Octets) : Except Problem Ticket := do
  let parts ← whole parts bs
  let node ← NodeAddress.built parts.node parts.relay parts.direct
  let hash ← Hash.built parts.digest
  Ticket.built node (.int parts.format.tag) hash

theorem IpAddress.ofPacked?_isSome {bs : Octets} (size : bs.length = 4 ∨ bs.length = 16) :
    (ofPacked? bs).isSome := by
  unfold ofPacked?
  split
  · rfl
  · next long =>
    have sixteen : bs.length = 16 := by
      refine size.resolve_left fun four => ?_
      match bs, four with
      | [a, b, c, d], _ => exact long a b c d rfl
    rw [if_pos sixteen, ofGroups?, dif_pos (octets_groupsOf bs 8 sixteen).1]
    rfl

/-- As many octets as a version has are an address of that version. -/
theorem IpAddress.wire_take (size version : Nat) (fits : size = 4 ∨ size = 16)
    (fault : DecodeFault) :
    wire (do
      match ofPacked? (← Reader.take size) with
      | some ip => pure ip
      | none => throw fault) =
    wire (Reader.take size) >>= fun bs => made (built size version bs) := by
  rw [wire_bind]
  refine take_congr fun bs length => ?_
  obtain ⟨ip, given⟩ := Option.isSome_iff_exists.1 (ofPacked?_isSome (length ▸ fits))
  simp only [built, length, if_true, given]
  rfl

theorem wire_ipAddress : wire IpAddress.read = IpAddress.checked := by
  rw [IpAddress.read, wire_bind, IpAddress.checked]
  congr
  funext tag
  match tag with
  | 0 => exact IpAddress.wire_take 4 4 (.inl rfl) (.unknownFamily 0)
  | 1 => exact IpAddress.wire_take 16 6 (.inr rfl) (.unknownFamily 1)
  | tag + 2 => rfl

theorem wire_socketAddress :
    wire (SocketAddress.printed <$> SocketAddress.read) = SocketAddress.checked := by
  simp only [SocketAddress.read, SocketAddress.checked, map_bind, wire_bind, wire_ipAddress]
  congr
  funext ip
  congr
  funext port
  by_cases small : port < 65536
  · rw [dif_pos small, if_neg (by omega)]
    rfl
  · rw [dif_neg small, if_pos (by omega)]
    rfl

theorem NodeAddress.built_printed (node : PeerId) (relay : Option String)
    (as : List SocketAddress) :
    built node relay (as.map SocketAddress.printed) = .ok (make node relay as) := by
  have same : (as.map SocketAddress.printed).mapM (fun (host, port) =>
      (SocketAddress.ofValue (.list [.text host, .int port])).mapError
        SocketAddress.Fault.problem) = .ok as := by
    induction as with
    | nil => rfl
    | cons a as ih =>
        rw [List.map_cons, List.mapM_cons, ih]
        dsimp only [SocketAddress.printed]
        rw [a.ofValue_text]
        rfl
  rw [built, same]
  rfl

/-- The parts of a ticket as the plain reader gathers them. -/
def Ticket.fields : Reader (Parts SocketAddress Digest) := do
  let _ ← Reader.tagged (fun tag => if tag = 0 then some () else none) (.unknownVariant .ticket)
  let node ← PeerId.read
  let relay ← Reader.option Reader.text
  let direct ← Reader.seq SocketAddress.read
  let format ← Reader.tagged BlobFormat.ofTag? .unknownFormat
  let digest ← Digest.read
  pure ⟨node, relay, direct, format, digest⟩

def Ticket.ofParts (p : Parts SocketAddress Digest) : Ticket :=
  ⟨.make p.node p.relay p.direct, ⟨⟨p.digest⟩, p.format⟩⟩

def Ticket.Parts.printed (p : Parts SocketAddress Digest) : Parts (String × Nat) Octets :=
  ⟨p.node, p.relay, p.direct.map SocketAddress.printed, p.format, p.digest.octets⟩

theorem ticket_read : Ticket.read = Ticket.ofParts <$> Ticket.fields := by
  simp only [Ticket.read, Ticket.fields, map_bind, map_pure, Ticket.ofParts]

theorem wire_fields : wire (Ticket.Parts.printed <$> Ticket.fields) = Ticket.parts := by
  have variant {β : Type} (later : Checked β) :
      (wire (Reader.tagged (fun tag => if tag = 0 then some () else none)
        (.unknownVariant .ticket)) >>= fun _ => later) = (do
      let variant ← wire Reader.varint
      if variant ≠ 0 then wire (throw (.unknownVariant .ticket variant)) else later) := by
    rw [Reader.tagged, wire_bind, bind_assoc]
    congr
    funext tag
    cases tag <;> rfl
  rw [Ticket.fields, map_bind, wire_bind, variant]
  simp only [Ticket.parts, map_bind, map_pure, wire_bind, wire_pure, wire_peerId,
    wire_option, wire_text, ← wire_socketAddress, wire_map, wire_seq, seq_map, bind_map_left,
    wire_tagged "BlobFormat", take_eq_octets, bind_assoc]
  rfl

theorem ticket_checkedOctets (bs : Octets) :
    Ticket.checkedOctets bs = (Ticket.ofOctets bs).mapError DecodeFault.problem := by
  rw [Ticket.checkedOctets, ← wire_fields, whole_wire, Ticket.ofOctets, ticket_read, whole_map,
    whole_map]
  cases Reader.whole Ticket.fields bs with
  | error fault => rfl
  | ok p =>
      change (NodeAddress.built p.node p.relay (p.direct.map SocketAddress.printed) >>= fun node =>
        Hash.built p.digest.octets >>= Ticket.built node (.int p.format.tag)) = _
      rw [NodeAddress.built_printed, Hash.built_octets]
      change Ticket.built _ _ _ = _
      rw [Ticket.built, BlobFormat.built_tag]
      rfl

end ContentTracker
