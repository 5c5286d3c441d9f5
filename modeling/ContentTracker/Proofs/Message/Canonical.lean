import ContentTracker.Proofs.Message.RoundTrip
import ContentTracker.Proofs.Octets
import Mathlib.Data.List.Dedup

/-! The octets of an announce depend on what is announced and not on how it was listed. Content goes
out in dictionary order of its own octets, which is the order of content addresses. -/

namespace ContentTracker

open Wire

/-! Content addresses. -/

namespace ContentAddress

/-- The octets of a content address: its hash, and the number of its format. -/
def octets (a : ContentAddress) : Octets := a.hash.digest.octets ++ [UInt8.ofNat a.format.tag]

theorem write_item (a : ContentAddress) : write a.item = ⟨a.octets, none⟩ := by
  have tag : a.format.tag ≤ 1 := by cases a.format <;> decide
  rw [item, write, writeAll_cons, writeAll_cons, writeAll_nil, andThen_nil, write_digest,
    write_tag tag]
  rfl

theorem length_octets (a : ContentAddress) : a.octets.length = 33 := by
  rw [octets, List.length_append, Digest.length_octets, List.length_singleton]

theorem before_iff (a b : ContentAddress) : before a b = true ↔
    a.hash.digest.octets < b.hash.digest.octets ∨ a.hash = b.hash ∧ a.format.tag < b.format.tag := by
  change precedes a b = true ↔ _
  rw [precedes, Bool.or_eq_true, Bool.and_eq_true, Octets.before_iff_lt, beq_iff_eq,
    decide_eq_true_eq]

theorem tag_lt_iff (f g : BlobFormat) :
    ([UInt8.ofNat f.tag] : Octets) < [UInt8.ofNat g.tag] ↔ f.tag < g.tag := by
  cases f <;> cases g <;> decide

/-- By hash and then by format is by the octets on the wire. -/
theorem before_iff_lt (a b : ContentAddress) : before a b = true ↔ a.octets < b.octets := by
  rw [before_iff, octets, octets, Octets.append_lt_append (by simp only [Digest.length_octets]),
    tag_lt_iff]
  refine or_congr_right (and_congr_left' ⟨fun same => by rw [same], octets_injective⟩)

end ContentAddress

/-! Announces. -/

namespace Announce

/-- The octets of an announce as a request, with those of its content one after another. -/
def octets (a : Announce) : Octets :=
  0 :: (a.host.key.octets ++ (varint a.content.members.length ++
    ((a.content.members.map ContentAddress.octets).flatten ++ [UInt8.ofNat a.kind.tag])))

theorem encodeRequest_eq (a : Announce) : (Message.announce a).encodeRequest =
    if a.content.members.length < 2 ^ 64 then .ok a.octets
    else .error (.outOfRange a.content.members.length) := by
  have bound : 2 ^ 64 = varintBound := by decide
  have kind : a.kind.tag ≤ 1 := by cases a.kind <;> decide
  have count (n : Nat) : writeInteger n =
      if n < varintBound then ⟨varint n, none⟩ else .stopped (.outOfRange n) := rfl
  rw [Message.encodeRequest, encode, write_variant, write_tag (by decide), item, write,
    writeAll_cons, writeAll_cons, writeAll_cons, writeAll_nil, andThen_nil, PeerId.item,
    write_digest, write_tag kind, write, writeAll_map ContentAddress.write_item, List.length_map,
    count, bound]
  split
  · simp only [Written.andThen, Written.result, List.append_assoc]
    rfl
  · rfl

/-- The request that announces a list of content addresses. -/
def ofList (host : PeerId) (kind : AnnounceKind) (as : List ContentAddress) : Message :=
  .announce ⟨host, .ofList as, kind⟩

/-- The members of a set are those of a list without its repetitions. -/
theorem length_members (as : List ContentAddress) :
    (SortedSet.ofList as).members.length = as.dedup.length := by
  have same : (SortedSet.ofList as).members.Perm as.dedup :=
    (List.perm_ext_iff_of_nodup (SortedSet.nodup_members _) as.nodup_dedup).2 fun a => by
      rw [← SortedSet.mem_def, SortedSet.mem_ofList, List.mem_dedup]
  exact same.length_eq

variable {host : PeerId} {kind : AnnounceKind} {as bs : List ContentAddress} {payload : Octets}

theorem ofList_congr (same : ∀ a, a ∈ as ↔ a ∈ bs) : ofList host kind as = ofList host kind bs := by
  have content : SortedSet.ofList as = SortedSet.ofList bs :=
    SortedSet.eq_of_mem fun a => by rw [SortedSet.mem_ofList, SortedSet.mem_ofList, same]
  rw [ofList, ofList, content]

/-- What was listed is what is read from the octets. -/
theorem mem_of_encoded (first : (ofList host kind as).encodeRequest = .ok payload)
    (second : (ofList host kind bs).encodeRequest = .ok payload) (a : ContentAddress) :
    a ∈ as ↔ a ∈ bs := by
  obtain ⟨r, read, message⟩ := decodeRequest_encodeRequest first
  obtain ⟨r', read', message'⟩ := decodeRequest_encodeRequest second
  cases read.symm.trans read'
  have content := message.symm.trans message'
  simp only [ofList, Message.announce.injEq, Announce.mk.injEq] at content
  have listed : a ∈ SortedSet.ofList as ↔ a ∈ SortedSet.ofList bs := by rw [content.2.1]
  rwa [SortedSet.mem_ofList, SortedSet.mem_ofList] at listed

theorem entries_rising (s : ContentSet) :
    (s.members.map ContentAddress.octets).Pairwise (· < ·) :=
  List.pairwise_map.2 (s.rising.imp fun {a b} h => (ContentAddress.before_iff_lt a b).1 h)

/-- Whatever its order and its repetitions, a list is announced in the same octets as the lists of
the same members, and as no others. It can be announced unless it has too many members to count.
Each member has one entry of 33 octets, the entries go up in dictionary order, and this is the order
of content addresses. -/
theorem encoding_canonical (host : PeerId) (kind : AnnounceKind) :
    (∀ as bs, (∀ a, a ∈ as ↔ a ∈ bs) →
      (ofList host kind as).encodeRequest = (ofList host kind bs).encodeRequest) ∧
    (∀ as bs payload, (ofList host kind as).encodeRequest = .ok payload →
      ((ofList host kind bs).encodeRequest = .ok payload ↔ ∀ a, a ∈ as ↔ a ∈ bs)) ∧
    (∀ as, (∃ payload, (ofList host kind as).encodeRequest = .ok payload) ↔
      as.dedup.length < 2 ^ 64) ∧
    (∀ as payload, (ofList host kind as).encodeRequest = .ok payload → ∃ entries : List Octets,
      payload = 0 :: (host.key.octets ++ (varint entries.length ++
        (entries.flatten ++ [UInt8.ofNat kind.tag]))) ∧
      entries.Pairwise (· < ·) ∧ ∀ e, e ∈ entries ↔ ∃ a ∈ as, e = a.octets) ∧
    (∀ a : ContentAddress, encode a.item = .ok a.octets ∧ a.octets.length = 33) ∧
    ∀ a b : ContentAddress,
      (before a b = true ↔ a.hash.digest.octets < b.hash.digest.octets ∨
        a.hash = b.hash ∧ a.format.tag < b.format.tag) ∧
      (before a b = true ↔ a.octets < b.octets) := by
  have encodes (as : List ContentAddress) : (∃ payload,
      (ofList host kind as).encodeRequest = .ok payload) ↔ as.dedup.length < 2 ^ 64 := by
    rw [ofList, encodeRequest_eq, length_members]
    split
    · next fits => exact iff_of_true ⟨_, rfl⟩ fits
    · next many => exact iff_of_false nofun many
  refine ⟨fun as bs same => by rw [ofList_congr same], fun as bs payload first => ⟨fun second =>
      mem_of_encoded first second, fun same => by rw [← ofList_congr same, first]⟩, encodes,
    fun as payload encoded => ?_, fun a => ⟨?_, a.length_octets⟩,
    fun a b => ⟨a.before_iff b, a.before_iff_lt b⟩⟩
  · refine ⟨(SortedSet.ofList as).members.map ContentAddress.octets, ?_, entries_rising _,
      fun e => ?_⟩
    · rw [ofList, encodeRequest_eq] at encoded
      split at encoded
      · cases encoded
        rw [List.length_map]
        rfl
      · cases encoded
    · simp only [List.mem_map, ← SortedSet.mem_def, SortedSet.mem_ofList, eq_comm]
  · rw [encode, ContentAddress.write_item]
    rfl

end Announce

end ContentTracker
