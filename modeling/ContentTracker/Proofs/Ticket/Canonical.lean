import ContentTracker.Proofs.Ticket.RoundTrip

/-! The octets of a ticket depend on the addresses that are meant and not on how they were given.
The order on the wire does not tell addresses apart that differ in their zones only, but these have
the same entry, so that it does not matter which of them comes first. -/

namespace ContentTracker

open Wire

namespace SocketAddress

namespace Entry

def item (e : Entry) : Item :=
  .record [natItem e.family, .fixed e.packed e.packed.length, natItem e.port]

/-- Whether an entry may come before another: by family, then by host and then by port. -/
def NoLater (e f : Entry) : Prop :=
  e.family < f.family ∨ e.family = f.family ∧
    (e.packed < f.packed ∨ e.packed = f.packed ∧ e.port ≤ f.port)

instance : Std.Antisymm NoLater where
  antisymm e f h k := by
    have family : e.family = f.family := by
      rcases h with h | ⟨same, _⟩
      · rcases k with k | ⟨same, _⟩
        · omega
        · exact same.symm
      · exact same
    obtain ⟨_, h⟩ := h.resolve_left (by omega)
    obtain ⟨_, k⟩ := k.resolve_left (by omega)
    have packed : e.packed = f.packed := by
      rcases h with h | ⟨same, _⟩
      · rcases k with k | ⟨same, _⟩
        · exact absurd k (List.lt_asymm h)
        · exact same.symm
      · exact same
    rw [packed] at h k
    have port := Nat.le_antisymm (h.resolve_left (List.lt_irrefl _)).2
      (k.resolve_left (List.lt_irrefl _)).2
    cases e
    cases f
    simp_all

end Entry

theorem octet_family (ip : IpAddress) : (UInt8.ofNat ip.family).toNat = ip.family :=
  UInt8.toNat_ofNat_of_lt' (Nat.lt_of_le_of_lt ip.family_le (by decide))

/-- The keys of addresses have their entries in front, and the zones only behind them. -/
theorem noLater_of_precedes {a b : SocketAddress} (h : precedes a b = true) :
    a.entry.NoLater b.entry := by
  simp only [precedes, Octets.before_iff_lt, key, List.cons_append, List.append_assoc,
    List.cons_lt_cons_iff, UInt8.lt_iff_toNat_lt, octet_family] at h
  rcases h with family | ⟨family, h⟩
  · exact .inl family
  have family := family_of_octet family
  have size : a.ip.packed.length = b.ip.packed.length := by
    rw [IpAddress.length_packed, IpAddress.length_packed, family]
  refine .inr ⟨family, ?_⟩
  rcases (Octets.append_lt_append size).1 h with packed | ⟨packed, h⟩
  · exact .inl packed
  refine .inr ⟨packed, ?_⟩
  rcases (Octets.append_lt_append (by rw [Octets.length_ofNat, Octets.length_ofNat])).1 h with
    port | ⟨port, _⟩
  · exact Nat.le_of_lt ((Octets.ofNat_lt_ofNat a.port_lt b.port_lt).1 port)
  · exact Nat.le_of_eq (Octets.ofNat_injective a.port_lt b.port_lt port)

theorem entries_noLater (as : List SocketAddress) :
    ((sorted as).map entry).Pairwise Entry.NoLater := by
  rw [sorted_eq_members, List.pairwise_map]
  exact (SortedSet.ofList as).rising.imp noLater_of_precedes

theorem nodup_sorted (as : List SocketAddress) : (sorted as).Nodup := by
  rw [sorted_eq_members]
  exact SortedSet.nodup_members _

/-- However addresses with the same entry are ordered, the entries are in the same order. -/
theorem entries_unique {order as : List SocketAddress} (once : order.Nodup)
    (same : ∀ a, a ∈ order ↔ a ∈ as) (rising : (order.map entry).Pairwise Entry.NoLater) :
    order.map entry = (sorted as).map entry := by
  refine List.Perm.eq_of_pairwise' rising (entries_noLater as) (List.Perm.map entry ?_)
  refine (List.perm_ext_iff_of_nodup once (nodup_sorted as)).2 ?_
  intro a
  rw [same, mem_sorted]

end SocketAddress

namespace Ticket

open SocketAddress (Entry ofValue)

/-! Octets of tickets. -/

def relayOctets : Option String → Octets
  | none => [0]
  | some relay => 1 :: (varint (Utf8.encode relay).length ++ Utf8.encode relay)

/-- The octets of a ticket, with the entries of its addresses one after another. -/
def octets (t : Ticket) : Octets :=
  0 :: (t.node.node.key.octets ++ (relayOctets t.node.relay ++ (varint t.node.direct.length ++
    (((t.node.direct.map SocketAddress.entry).map Entry.octets).flatten ++
      UInt8.ofNat t.content.format.tag :: t.content.hash.digest.octets))))

theorem write_item {t : Ticket} (h : t.Countable) : write t.item = ⟨t.octets, none⟩ := by
  have format : t.content.format.tag ≤ 1 := by cases t.content.format <;> decide
  have relay : write (.option (t.node.relay.map .text)) = ⟨relayOctets t.node.relay, none⟩ := by
    cases given : t.node.relay with
    | none => rw [Option.map_none, write, relayOctets]
    | some relay =>
        rw [Option.map_some, write, write, writeOctets, writeInteger_of_lt (h.relay relay given)]
        rfl
  have direct : write (.seq (t.node.direct.map SocketAddress.item)) =
      ⟨varint t.node.direct.length ++
        ((t.node.direct.map SocketAddress.entry).map Entry.octets).flatten, none⟩ := by
    rw [write, writeAll_map SocketAddress.write_item, List.length_map, List.map_map,
      writeInteger_of_lt h.direct]
    rfl
  rw [item, write, writeAll_cons, writeAll_cons, writeAll_cons, writeAll_cons, writeAll_cons,
    writeAll_cons, writeAll_nil, andThen_nil, write_tag (Nat.zero_le 1), PeerId.item, write_digest,
    write_digest, write_tag format, relay, direct]
  simp only [Written.andThen, octets, List.append_assoc]
  rfl

theorem encode_eq_ok_iff {t : Ticket} {bs : Octets} :
    Wire.encode t.item = .ok bs ↔ t.Countable ∧ bs = t.octets := by
  constructor
  · intro encoded
    have countable := ticket_fault.1 (encode_eq_ok encoded).1
    rw [Wire.encode, write_item countable] at encoded
    cases encoded
    exact ⟨countable, rfl⟩
  · rintro ⟨countable, rfl⟩
    rw [Wire.encode, write_item countable]
    rfl

/-- Tickets with the same entries, and otherwise the same, are written alike. -/
theorem item_congr {node : PeerId} {relay : Option String} {content : ContentAddress}
    {as bs : List SocketAddress}
    (same : as.map SocketAddress.entry = bs.map SocketAddress.entry) :
    item ⟨⟨node, relay, as⟩, content⟩ = item ⟨⟨node, relay, bs⟩, content⟩ := by
  have items : as.map SocketAddress.item = bs.map SocketAddress.item := by
    have split (cs : List SocketAddress) :
        cs.map SocketAddress.item = (cs.map SocketAddress.entry).map Entry.item := by
      rw [List.map_map]
      rfl
    rw [split, split, same]
  simp only [item, items]

theorem new_eq_ok {node : PeerId} {relay : Option String} {content : ContentAddress}
    {values : List Value} {as : List SocketAddress} (named : values.mapM ofValue = .ok as) :
    new node relay values content = .ok ⟨.make node relay as, content⟩ := by
  rw [new, named]
  rfl

/-- Pairs that name the same addresses, in whatever order, repetition and spelling, make the same
ticket. It is written in the same octets as with its addresses in any other order that the entries
allow. These are in order, one for each address. The relay is a string of Unicode scalar values, as all
texts are, so it has octets. -/
theorem ticket_canonical (node : PeerId) (relay : Option String) (content : ContentAddress)
    {values values' : List Value} {as bs : List SocketAddress}
    (named : values.mapM ofValue = .ok as) (named' : values'.mapM ofValue = .ok bs)
    (same : ∀ a, a ∈ as ↔ a ∈ bs) :
    ∃ t, new node relay values content = .ok t ∧ new node relay values' content = .ok t ∧
      (∀ order : List SocketAddress, order.Nodup → (∀ a, a ∈ order ↔ a ∈ as) →
        (order.map SocketAddress.entry).Pairwise Entry.NoLater →
        Wire.encode (item ⟨⟨node, relay, order⟩, content⟩) = Wire.encode t.item) ∧
      t.node.direct.Nodup ∧ (∀ a, a ∈ t.node.direct ↔ a ∈ as) ∧
      (t.node.direct.map SocketAddress.entry).Pairwise Entry.NoLater ∧
      ∀ payload, Wire.encode t.item = .ok payload ↔ t.Countable ∧ payload = t.octets := by
  have sorted : SocketAddress.sorted bs = SocketAddress.sorted as := by
    rw [SocketAddress.sorted_eq_members, SocketAddress.sorted_eq_members]
    refine congrArg SortedSet.members (SortedSet.eq_of_mem ?_)
    intro a
    rw [SortedSet.mem_ofList, SortedSet.mem_ofList, same]
  refine ⟨_, new_eq_ok named, ?_, ?_, SocketAddress.nodup_sorted as,
    fun a => SocketAddress.mem_sorted, SocketAddress.entries_noLater as,
    fun payload => encode_eq_ok_iff⟩
  · rw [new_eq_ok named', NodeAddress.make, sorted]
    rfl
  · intro order once members rising
    exact congrArg Wire.encode (item_congr (SocketAddress.entries_unique once members rising))

/-- One link-local host in two zones. The second time its addresses are given the other way round,
one of them twice, and in other spellings. Either may be written first. -/
theorem ticket_canonical_zones :
    let host : Vector UInt16 8 := #v[0xfe80, 0, 0, 0, 0, 0, 0, 1]
    let a : SocketAddress := ⟨.v6 host (some ⟨"a", by decide, by decide, by decide⟩), 80, by decide⟩
    let b : SocketAddress := ⟨.v6 host (some ⟨"b", by decide, by decide, by decide⟩), 80, by decide⟩
    let p : PeerId := ⟨⟨List.replicate 32 7, rfl⟩⟩
    let c : ContentAddress := ⟨⟨⟨List.replicate 32 9, rfl⟩⟩, .raw⟩
    let values : List Value := [.list [.text "fe80::1%a", .int 80], .list [.text "fe80::1%b", .int 80]]
    let values' : List Value := [.list [.text "FE80::1%b", .text " 80"],
      .list [.text "fe80::0:1%a", .text "8_0"], .list [.text "fe80::1%b", .int 80]]
    ∃ t, new p none values c = .ok t ∧ new p none values' c = .ok t ∧
      Wire.encode (item ⟨⟨p, none, [b, a]⟩, c⟩) = Wire.encode t.item := by
  intro host a b p c values values'
  have named : values.mapM ofValue = .ok [a, b] := by rfl
  have named' : values'.mapM ofValue = .ok [b, a, b] := by rfl
  have same (x : SocketAddress) : x ∈ [a, b] ↔ x ∈ [b, a, b] := by
    simp only [List.mem_cons, List.not_mem_nil, or_false]
    tauto
  obtain ⟨t, first, second, written, _⟩ := ticket_canonical p none c named named' same
  refine ⟨t, first, second, written [b, a] (by decide) ?_ ?_⟩
  · intro x
    rw [List.mem_pair, List.mem_pair, or_comm]
  · have tied : b.entry.NoLater a.entry := .inr ⟨rfl, .inr ⟨rfl, Nat.le_refl 80⟩⟩
    exact List.pairwise_pair.2 tied

end Ticket

end ContentTracker
