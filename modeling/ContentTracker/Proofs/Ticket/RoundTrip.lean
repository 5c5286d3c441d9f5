import ContentTracker.Proofs.Address.Order
import ContentTracker.Proofs.Message.Extent
import ContentTracker.Proofs.Message.RoundTrip
import ContentTracker.Proofs.Text.Base32
import ContentTracker.Ticket

/-! Tickets come back from their octets and their text as they were, except that the wire has no
room for the zones of addresses. -/

namespace ContentTracker

open Wire

/-- The address without the zone of its host. -/
def SocketAddress.unzoned (a : SocketAddress) : SocketAddress := { a with ip := a.ip.unzoned }

/-- The ticket without the zones of its addresses, which may have told some of them apart. -/
def Ticket.unzoned (t : Ticket) : Ticket :=
  ⟨.make t.node.node t.node.relay (t.node.direct.map SocketAddress.unzoned), t.content⟩

/-! Zones do not reach the wire. -/

theorem IpAddress.unzoned_unzoned (ip : IpAddress) : ip.unzoned.unzoned = ip.unzoned := by
  cases ip <;> rfl

theorem IpAddress.unzoned_eq_iff {ip : IpAddress} : ip.unzoned = ip ↔ ip.zoneText = "" := by
  constructor
  · intro same
    rw [← same]
    cases ip <;> rfl
  · intro empty
    refine eq_of_unzoned ip.unzoned_unzoned ?_
    rw [empty]
    cases ip <;> rfl

theorem SocketAddress.unzoned_unzoned (a : SocketAddress) : a.unzoned.unzoned = a.unzoned := by
  simp only [unzoned, IpAddress.unzoned_unzoned]

theorem SocketAddress.unzoned_eq_iff {a : SocketAddress} :
    a.unzoned = a ↔ a.ip.zoneText = "" := by
  rw [← IpAddress.unzoned_eq_iff]
  constructor
  · exact fun same => congrArg ip same
  · intro same
    simp only [unzoned, same]

theorem SocketAddress.item_unzoned (a : SocketAddress) : a.unzoned.item = a.item := by
  obtain ⟨ip, port, small⟩ := a
  cases ip <;> rfl

/-! Fields of tickets. -/

theorem andThen_assoc (u v w : Written) : (u.andThen v).andThen w = u.andThen (v.andThen w) := by
  obtain ⟨bs, first⟩ := u
  obtain ⟨cs, second⟩ := v
  cases first <;> cases second <;> simp [Written.andThen]

theorem write_packed (ip : IpAddress) :
    write (.fixed ip.packed ip.packed.length) = ⟨ip.packed, none⟩ := by
  rw [write, if_pos rfl]

theorem undoes_ipAddress (ip : IpAddress) : Undoes IpAddress.read
    ((write (natItem ip.family)).andThen (write (.fixed ip.packed ip.packed.length)))
    ip.unzoned := by
  have ending (tag size : Nat) (all : ip.packed.length = size) : Undoes
      (IpAddress.unpack tag size) (write (.fixed ip.packed ip.packed.length)) ip.unzoned := by
    subst all
    rw [write_packed]
    intro _
    refine (reads_take ip.packed).decide ?_
    rw [IpAddress.ofPacked?_packed]
    exact reads_pure _
  rw [natItem, write]
  refine (undoes_writeInteger ip.family).andThen ?_
  have size := ip.length_packed
  cases ip with
  | v4 a b c d => exact ending 0 4 size
  | v6 groups zone => exact ending 1 16 size

theorem undoes_socketAddress (a : SocketAddress) :
    Undoes SocketAddress.read (write a.item) a.unzoned := by
  rw [SocketAddress.item, write, writeAll_cons, writeAll_cons, writeAll_cons, writeAll_nil,
    andThen_nil, ← andThen_assoc]
  refine (undoes_ipAddress a.ip).andThen ?_
  rw [natItem, write]
  intro unhindered
  refine (undoes_writeInteger a.port unhindered).decide ?_
  rw [dif_pos a.port_lt]
  exact reads_pure _

/-- What the wire has of an address: the number of its family, the octets of its host and its
port. -/
structure SocketAddress.Entry where
  family : Nat
  packed : Octets
  port : Nat

def SocketAddress.Entry.octets (e : Entry) : Octets :=
  UInt8.ofNat e.family :: (e.packed ++ varint e.port)

theorem IpAddress.family_le (ip : IpAddress) : ip.family ≤ 1 := by
  cases ip with
  | v4 => exact Nat.zero_le 1
  | v6 => exact Nat.le_refl 1

def SocketAddress.entry (a : SocketAddress) : Entry := ⟨a.ip.family, a.ip.packed, a.port⟩

theorem SocketAddress.write_item (a : SocketAddress) : write a.item = ⟨a.entry.octets, none⟩ := by
  have port : write (natItem a.port) = ⟨varint a.port, none⟩ := by
    rw [natItem, write]
    exact writeInteger_of_lt (Nat.lt_trans a.port_lt (by decide))
  rw [item, write, writeAll_cons, writeAll_cons, writeAll_cons, writeAll_nil, andThen_nil,
    write_tag a.ip.family_le, write_packed, port]
  rfl

theorem socketAddress_solid (a : SocketAddress) : (write a.item).octets ≠ [] := by
  rw [a.write_item]
  exact List.cons_ne_nil _ _

/-- What is read from the octets of a ticket: itself, without the zones. -/
theorem undoes_ticket (t : Ticket) : Undoes Ticket.read (write t.item) t.unzoned := by
  have relay : Undoes (Reader.option Reader.text) (write (.option (t.node.relay.map .text)))
      t.node.relay := by
    cases t.node.relay with
    | none => exact undoes_option_none _
    | some s => exact undoes_option_some (undoes_text s)
  -- What is written of the addresses is what is written of them without their zones.
  have same : t.node.direct.map SocketAddress.item =
      (t.node.direct.map SocketAddress.unzoned).map SocketAddress.item := by
    rw [List.map_map]
    exact List.map_congr_left fun a _ => a.item_unzoned.symm
  have direct : Undoes (Reader.seq SocketAddress.read)
      (write (.seq (t.node.direct.map SocketAddress.item)))
      (t.node.direct.map SocketAddress.unzoned) := by
    rw [same]
    refine undoes_seq (fun a member => ?_) fun a _ _ => socketAddress_solid a
    obtain ⟨b, _, rfl⟩ := List.mem_map.1 member
    have read := undoes_socketAddress b.unzoned
    rwa [b.unzoned_unzoned] at read
  have variant : Undoes (Reader.tagged (fun tag => if tag = 0 then some () else none)
      (.unknownVariant .ticket)) (write (natItem 0)) () := undoes_tagged rfl
  rw [Ticket.item, write, writeAll_cons, writeAll_cons, writeAll_cons, writeAll_cons,
    writeAll_cons, writeAll_cons, writeAll_nil]
  refine variant.andThen ?_
  refine (undoes_peer t.node.node).andThen ?_
  refine relay.andThen ?_
  refine direct.andThen ?_
  refine (undoes_tagged (BlobFormat.ofTag?_tag t.content.format)).andThen ?_
  refine (undoes_digest t.content.hash.digest).andThen ?_
  exact undoes_pure _

/-! Faults. All fields but the counted ones can always be written. -/

/-- What the ticket has any number of can be counted on the wire. -/
structure Ticket.Countable (t : Ticket) : Prop where
  relay : ∀ s, t.node.relay = some s → (Utf8.encode s).length < 2 ^ 64
  direct : t.node.direct.length < 2 ^ 64

theorem socketAddress_fault (a : SocketAddress) : (write a.item).fault = none := by
  rw [a.write_item]

theorem count_fault {n : Nat} :
    (if n < varintBound then none else some (EncodeFault.outOfRange n)) = none ↔ n < 2 ^ 64 := by
  have bound : varintBound = 2 ^ 64 := by decide
  rw [bound]
  split <;> simp_all

theorem text_fault {s : String} :
    (write (.text s)).fault = none ↔ (Utf8.encode s).length < 2 ^ 64 := by
  rw [write, writeOctets, andThen_fault, writeInteger_fault, Option.or_none, count_fault]

/-- A ticket can be written exactly where its relay and its addresses can be counted. -/
theorem ticket_fault {t : Ticket} : (write t.item).fault = none ↔ t.Countable := by
  have relay : (write (.option (t.node.relay.map .text))).fault = none ↔
      ∀ s, t.node.relay = some s → (Utf8.encode s).length < 2 ^ 64 := by
    cases t.node.relay with
    | none => simp [write]
    | some s =>
        rw [Option.map_some, write, andThen_fault, Option.none_or, text_fault]
        simp
  have direct : (write (.seq (t.node.direct.map SocketAddress.item))).fault = none ↔
      t.node.direct.length < 2 ^ 64 := by
    rw [seq_fault (by simpa using fun a _ => socketAddress_fault a), List.length_map, count_fault]
  have format : t.content.format.tag ≤ 1 := by cases t.content.format <;> decide
  rw [Ticket.item, write, writeAll_cons, writeAll_cons, writeAll_cons, writeAll_cons,
    writeAll_cons, writeAll_cons, writeAll_nil, andThen_nil]
  simp only [andThen_fault, write_tag_fault (Nat.zero_le 1), write_tag_fault format, peer_fault,
    write_digest, Option.none_or, Option.or_none, Option.or_eq_none_iff, relay, direct]
  exact ⟨fun h => ⟨h.1, h.2⟩, fun h => ⟨h.relay, h.direct⟩⟩

theorem encode_ticket {t : Ticket} : Wire.encode t.item = .ok t.toOctets ↔ t.Countable := by
  rw [← ticket_fault]
  constructor
  · exact fun h => (encode_eq_ok h).1
  · intro unhindered
    rw [Wire.encode, Written.result, unhindered]
    rfl

theorem ofOctets_toOctets {t : Ticket} (h : t.Countable) :
    Ticket.ofOctets t.toOctets = .ok t.unzoned :=
  whole_encode (undoes_ticket t) (encode_ticket.2 h)

/-- The text of a ticket is read as its octets are. -/
theorem parse_text {t : Ticket} (h : t.Countable) : Ticket.parse t.text = .ok t.unzoned := by
  have marked : Ticket.marker.toList.isPrefixOf t.text.toList = true := by
    rw [Ticket.text, String.toList_append, List.isPrefixOf_iff_prefix]
    exact List.prefix_append _ _
  have digits : String.ofList (t.text.toList.drop Ticket.marker.length) =
      Base32.encode t.toOctets := by
    rw [Ticket.text, String.toList_append]
    exact (Base32.encode t.toOctets).ofList_toList
  rw [Ticket.parse, if_pos marked, digits, Base32.decode_encode]
  simp only [ofOctets_toOctets h]

/-! Which tickets come back. -/

/-- A host and a port are accepted exactly as the address that the host names with the number of the
port. -/
theorem SocketAddress.normalize_eq_ok {host port : Value} {a : SocketAddress} :
    normalize host port = .ok a ↔
      IpAddress.ofValue? host = some a.ip ∧ Conversion.toInteger port = .ok a.port := by
  constructor
  · intro h
    unfold normalize at h
    split at h
    · cases h
    next ip named =>
    split at h
    · cases h
    · next n number =>
      split at h <;> cases h
      exact ⟨named, number⟩
    · cases h
  · rintro ⟨named, number⟩
    rw [normalize, named, number]
    exact dif_pos a.port_lt

/-- An address is what its own text and port stand for. -/
theorem SocketAddress.ofValue_text (a : SocketAddress) :
    ofValue (.list [.text a.ip.text, .int a.port]) = .ok a := by
  change normalize (.text a.ip.text) (.int a.port) = .ok a
  exact normalize_eq_ok.2 ⟨IpAddress.parse?_text a.ip, rfl⟩

/-- A pair of values whose host is a text with a zone. -/
def SocketAddress.Zoned (v : Value) : Prop :=
  ∃ host port, Conversion.toPair v = .ok (.text host, port) ∧ '%' ∈ host.toList

theorem IpAddress.zoneText_of_ofPacked? {bs : Octets} {ip : IpAddress}
    (h : ofPacked? bs = some ip) : ip.zoneText = "" :=
  unzoned_eq_iff.1 (packed_of_ofPacked? h).2

theorem IpAddress.zoneText_of_ofInt? {n : Int} {ip : IpAddress} (h : ofInt? n = some ip) :
    ip.zoneText = "" := by
  cases n with
  | negSucc => cases h
  | ofNat n =>
      unfold ofInt? at h
      dsimp only at h
      split at h
      · exact zoneText_of_ofPacked? h
      · split at h
        · exact zoneText_of_ofPacked? h
        · cases h

theorem SocketAddress.zoneText_of_ofValue {v : Value} {a : SocketAddress}
    (h : ofValue v = .ok a) : a.ip.zoneText = "" ↔ ¬ Zoned v := by
  unfold ofValue at h
  split at h
  · cases h
  next host port pair =>
  have zoned : Zoned v ↔ ∃ text, host = .text text ∧ '%' ∈ text.toList := by
    constructor
    · rintro ⟨text, port', same, marked⟩
      rw [pair] at same
      cases same
      exact ⟨text, rfl, marked⟩
    · rintro ⟨text, rfl, marked⟩
      exact ⟨text, port, pair, marked⟩
  obtain ⟨named, _⟩ := normalize_eq_ok.1 h
  rw [zoned]
  cases host with
  | text s =>
      rw [IpAddress.zoneText_of_parse? named]
      simp
  | int n => simp [IpAddress.zoneText_of_ofInt? named]
  | bool b => simp [IpAddress.zoneText_of_ofInt? named]
  | octets bs => simp [IpAddress.zoneText_of_ofPacked? named]
  | null | float | moment | list | dict | cyclic => cases named

theorem SocketAddress.zoned_mapM {values : List Value} {as : List SocketAddress}
    (named : values.mapM ofValue = .ok as) :
    (∀ a ∈ as, a.ip.zoneText = "") ↔ ∀ v ∈ values, ¬ Zoned v := by
  induction values generalizing as with
  | nil =>
      cases named
      simp
  | cons v values ih =>
      rw [List.mapM_cons] at named
      cases first : ofValue v with
      | error fault =>
          rw [first] at named
          cases named
      | ok a =>
          cases later : values.mapM ofValue with
          | error fault =>
              rw [first, later] at named
              cases named
          | ok rest =>
              rw [first, later] at named
              cases named
              rw [List.forall_mem_cons, List.forall_mem_cons, zoneText_of_ofValue first, ih later]

theorem Ticket.unzoned_eq_iff {node : PeerId} {relay : Option String} {as : List SocketAddress}
    {content : ContentAddress} :
    Ticket.unzoned ⟨.make node relay as, content⟩ = ⟨.make node relay as, content⟩ ↔
      ∀ a ∈ as, a.ip.zoneText = "" := by
  constructor
  · intro same a member
    have direct : SocketAddress.sorted ((SocketAddress.sorted as).map SocketAddress.unzoned) =
        SocketAddress.sorted as := congrArg (·.node.direct) same
    have kept : a ∈ (SocketAddress.sorted as).map SocketAddress.unzoned := by
      rw [← SocketAddress.mem_sorted, direct, SocketAddress.mem_sorted]
      exact member
    obtain ⟨b, _, rfl⟩ := List.mem_map.1 kept
    exact SocketAddress.unzoned_eq_iff.1 b.unzoned_unzoned
  · intro none
    have direct : (SocketAddress.sorted as).map SocketAddress.unzoned =
        SocketAddress.sorted as :=
      (List.map_congr_left fun a member =>
        SocketAddress.unzoned_eq_iff.2 (none a (SocketAddress.mem_sorted.1 member))).trans
        (List.map_id _)
    simp only [Ticket.unzoned, NodeAddress.make, direct, SocketAddress.sorted_sorted]

/-- A ticket for addresses in any accepted spelling comes back from its octets and its text without
the zones of its addresses, so as it was exactly if none was given with a zone. -/
theorem ticket_returns (node : PeerId) (relay : Option String) (content : ContentAddress)
    {values : List Value} {as : List SocketAddress}
    (named : values.mapM SocketAddress.ofValue = .ok as) :
    let t : Ticket := ⟨.make node relay as, content⟩
    (Wire.encode t.item = .ok t.toOctets ↔ t.Countable) ∧
    (t.Countable → Ticket.ofOctets t.toOctets = .ok t.unzoned ∧
      Ticket.parse t.text = .ok t.unzoned) ∧
    (t.unzoned = t ↔ ∀ v ∈ values, ¬ SocketAddress.Zoned v) ∧
    ∀ a ∈ t.node.direct, SocketAddress.ofValue (.list [.text a.ip.text, .int a.port]) = .ok a := by
  refine ⟨encode_ticket, fun h => ⟨ofOctets_toOctets h, parse_text h⟩, ?_,
    fun a _ => a.ofValue_text⟩
  rw [Ticket.unzoned_eq_iff, SocketAddress.zoned_mapM named]

/-- A link-local address with the zone that it needs, and a ticket that loses this zone. -/
theorem ticket_returns_unzoned :
    let a : SocketAddress := ⟨.v6 #v[0xfe80, 0, 0, 0, 0, 0, 0, 1]
      (some ⟨"eth0", by decide, by decide, by decide⟩), 4433, by decide⟩
    let t : Ticket := ⟨.make ⟨⟨List.replicate 32 7, rfl⟩⟩ none [a],
      ⟨⟨⟨List.replicate 32 9, rfl⟩⟩, .raw⟩⟩
    [Value.list [.text "fe80::1%eth0", .int 4433]].mapM SocketAddress.ofValue = .ok [a] ∧
    Ticket.parse t.text = .ok t.unzoned ∧ t.unzoned ≠ t := by
  intro a t
  have named : [Value.list [.text "fe80::1%eth0", .int 4433]].mapM SocketAddress.ofValue =
      .ok [a] := by rfl
  obtain ⟨_, returns, whole, _⟩ := ticket_returns t.node.node t.node.relay t.content named
  have countable : t.Countable := ⟨nofun, by decide⟩
  refine ⟨named, (returns countable).2, fun same => ?_⟩
  exact whole.1 same _ (List.mem_singleton_self _) ⟨"fe80::1%eth0", .int 4433, rfl, by decide⟩

end ContentTracker
