import ContentTracker.Proofs.Ticket.RoundTrip
import ContentTracker.Proofs.Wire.Respelling

/-! Reading and writing again gives a normal form. Of what was read only the order and repetition of
members of sets and the padding of numbers are lost, so the result is no longer than what it was
read from, means the same, and is its own normal form. -/

namespace ContentTracker

open Wire

variable {c d : Cursor}

/-! Fields. -/

theorem respelled_tagged {α : Type} {ofTag? : Nat → Option α} {fault : Nat → DecodeFault} {a : α}
    {tag : Nat} (known : ∀ n, ofTag? n = some a → tag = n)
    (h : Reader.tagged ofTag? fault c = .ok a d) : Respelled c d (write (natItem tag)) := by
  obtain ⟨n, e, number, h⟩ := bind_eq_ok h
  cases alternative : ofTag? n with
  | none =>
      rw [alternative] at h
      cases h
  | some b =>
      rw [alternative] at h
      cases h
      rw [known n alternative, natItem, write]
      exact respelled_varint number

theorem BlobFormat.tag_of_ofTag? {f : BlobFormat} (n : Nat) (h : ofTag? n = some f) :
    f.tag = n := by
  unfold ofTag? at h
  split at h <;> cases h <;> rfl

theorem AnnounceKind.tag_of_ofTag? {k : AnnounceKind} (n : Nat) (h : ofTag? n = Option.some k) :
    k.tag = n := by
  unfold ofTag? at h
  split at h <;> cases h <;> rfl

theorem RequestKind.tag_of_ofTag? {k : RequestKind} (n : Nat) (h : ofTag? n = some k) :
    k.tag = n := by
  unfold ofTag? at h
  split at h <;> cases h <;> rfl

theorem respelled_variant {fault : Nat → DecodeFault}
    (h : Reader.tagged (fun tag => if tag = 0 then some () else none) fault c = .ok () d) :
    Respelled c d (write (natItem 0)) := by
  refine respelled_tagged (fun n only => ?_) h
  split at only
  · next zero => exact zero.symm
  · cases only

theorem respelled_digest {digest : Digest} (h : Digest.read c = .ok digest d) :
    Respelled c d (write digest.item) := by
  unfold Digest.read at h
  split at h
  · cases h
    rw [write_digest]
    exact ⟨rfl, by simp only [List.length_take, List.length_drop]; omega⟩
  · cases h

theorem respelled_peer {peer : PeerId} (h : PeerId.read c = .ok peer d) :
    Respelled c d (write peer.item) := by
  obtain ⟨digest, read, rfl⟩ := map_eq_ok h
  exact respelled_digest read

theorem respelled_address {a : ContentAddress} (h : ContentAddress.read c = .ok a d) :
    Respelled c d (write a.item) := by
  obtain ⟨digest, e, first, h⟩ := bind_eq_ok h
  obtain ⟨format, e', second, h⟩ := bind_eq_ok h
  cases h
  rw [ContentAddress.item, write, writeAll_cons, writeAll_cons, writeAll_nil, andThen_nil]
  exact (respelled_digest first).andThen (respelled_tagged BlobFormat.tag_of_ofTag? second)

/-! Messages. -/

theorem respelled_announce {a : Announce} (h : Announce.read c = .ok a d) :
    Respelled c d (write a.item) := by
  obtain ⟨host, e, first, h⟩ := bind_eq_ok h
  obtain ⟨content, e', second, h⟩ := bind_eq_ok h
  obtain ⟨kind, e'', third, h⟩ := bind_eq_ok h
  cases h
  have contents := (respelled_seq (fun _ _ _ => respelled_address) second).members
  rw [Announce.item, write, writeAll_cons, writeAll_cons, writeAll_cons, writeAll_nil, andThen_nil]
  exact (respelled_peer first).andThen
    (contents.andThen (respelled_tagged AnnounceKind.tag_of_ofTag? third))

theorem respelled_query {q : Query} (h : Query.read c = .ok q d) :
    Respelled c d (write q.item) := by
  obtain ⟨content, e, first, h⟩ := bind_eq_ok h
  obtain ⟨complete, e', second, h⟩ := bind_eq_ok h
  obtain ⟨verified, e'', third, h⟩ := bind_eq_ok h
  cases h
  rw [Query.item, write, writeAll_cons, writeAll_cons, writeAll_cons, writeAll_nil, andThen_nil,
    write, write]
  exact (respelled_address first).andThen
    ((respelled_flag second).andThen (respelled_flag third))

/-- A request as it is written. -/
def Request.item : Request → Item
  | .announce a => .record [natItem RequestKind.announce.tag, a.item]
  | .query q => .record [natItem RequestKind.query.tag, q.item]

theorem Request.encode_item (r : Request) : r.message.encodeRequest = encode r.item := by
  cases r <;> rfl

theorem respelled_request {r : Request} (h : Request.read c = .ok r d) :
    Respelled c d (write r.item) := by
  obtain ⟨kind, e, first, h⟩ := bind_eq_ok h
  have variant := respelled_tagged RequestKind.tag_of_ofTag? first
  cases kind with
  | announce =>
      obtain ⟨a, read, rfl⟩ := map_eq_ok h
      rw [Request.item, write_variant]
      exact variant.andThen (respelled_announce read)
  | query =>
      obtain ⟨q, read, rfl⟩ := map_eq_ok h
      rw [Request.item, write_variant]
      exact variant.andThen (respelled_query read)

theorem respelled_response {r : QueryResponse} (h : QueryResponse.read c = .ok r d) :
    Respelled c d (write (.record [natItem 0, r.item])) := by
  obtain ⟨_, e, variant, h⟩ := bind_eq_ok h
  obtain ⟨content, e', first, h⟩ := bind_eq_ok h
  obtain ⟨hosts, e'', second, h⟩ := bind_eq_ok h
  cases h
  rw [write_variant, QueryResponse.item, write, writeAll_cons, writeAll_cons, writeAll_nil,
    andThen_nil]
  exact (respelled_variant variant).andThen
    ((respelled_address first).andThen (respelled_seq (fun _ _ _ => respelled_peer) second))

/-! Tickets. -/

/-- The fields that an address is read from are its own, and it has no zone. -/
theorem respelled_ipAddress {ip : IpAddress} (h : IpAddress.read c = .ok ip d) :
    Respelled c d ((write (natItem ip.family)).andThen
      (write (.fixed ip.packed ip.packed.length))) ∧ ip.zoneText = "" := by
  obtain ⟨tag, e, number, h⟩ := bind_eq_ok h
  have ending (size : Nat) (family : size = 4 + 12 * tag)
      (h : IpAddress.unpack tag size e = .ok ip d) :
      Respelled c d ((write (natItem ip.family)).andThen
        (write (.fixed ip.packed ip.packed.length))) ∧ ip.zoneText = "" := by
    obtain ⟨bs, e', octets, h⟩ := bind_eq_ok h
    cases read : IpAddress.ofPacked? bs with
    | none =>
        rw [read] at h
        cases h
    | some ip' =>
        rw [read] at h
        cases h
        obtain ⟨packed, unzoned⟩ := IpAddress.packed_of_ofPacked? read
        have size := (take_eq_ok octets).1
        rw [← packed, IpAddress.length_packed] at size
        obtain rfl : ip.family = tag := by omega
        rw [write_packed, packed, natItem, write]
        exact ⟨(respelled_varint number).andThen (respelled_take octets),
          IpAddress.unzoned_eq_iff.1 unzoned⟩
  split at h
  · exact ending 4 rfl h
  · exact ending 16 rfl h
  · cases h

theorem respelled_socketAddress {a : SocketAddress} (h : SocketAddress.read c = .ok a d) :
    Respelled c d (write a.item) ∧ a.ip.zoneText = "" := by
  obtain ⟨ip, e, first, h⟩ := bind_eq_ok h
  obtain ⟨port, e', second, h⟩ := bind_eq_ok h
  obtain ⟨fields, zone⟩ := respelled_ipAddress first
  split at h
  · cases h
    rw [SocketAddress.item, write, writeAll_cons, writeAll_cons, writeAll_cons, writeAll_nil,
      andThen_nil, ← andThen_assoc]
    refine ⟨fields.andThen ?_, zone⟩
    rw [natItem, write]
    exact respelled_varint second
  · cases h

theorem respelled_ticket {t : Ticket} (h : Ticket.read c = .ok t d) :
    Respelled c d (write t.item) ∧ t.unzoned = t := by
  obtain ⟨_, e₁, variant, h⟩ := bind_eq_ok h
  obtain ⟨node, e₂, first, h⟩ := bind_eq_ok h
  obtain ⟨relay, e₃, second, h⟩ := bind_eq_ok h
  obtain ⟨direct, e₄, third, h⟩ := bind_eq_ok h
  obtain ⟨format, e₅, fourth, h⟩ := bind_eq_ok h
  obtain ⟨digest, e₆, fifth, h⟩ := bind_eq_ok h
  cases h
  have addresses : Respelled e₃ e₄
      (write (.seq ((SocketAddress.sorted direct).map SocketAddress.item))) := by
    rw [SocketAddress.sorted_eq_members]
    exact (respelled_seq (fun _ _ _ h => (respelled_socketAddress h).1) third).members
  refine ⟨?_, Ticket.unzoned_eq_iff.2
    (seq_members (fun _ _ _ h => (respelled_socketAddress h).2) third)⟩
  rw [Ticket.item, write, writeAll_cons, writeAll_cons, writeAll_cons, writeAll_cons,
    writeAll_cons, writeAll_cons, writeAll_nil, andThen_nil]
  exact (respelled_variant variant).andThen ((respelled_peer first).andThen
    ((respelled_option (fun _ _ _ => respelled_text) second).andThen (addresses.andThen
      ((respelled_tagged BlobFormat.tag_of_ofTag? fourth).andThen (respelled_digest fifth)))))

/-! Normal forms. -/

/-- What was read from some octets is written as others: no more of them, which are read as the same
and written as themselves. -/
structure NormalForm {α : Type} (decode : Octets → Except DecodeFault α)
    (encode : α → Except EncodeFault Octets) (bs : Octets) (a : α) (e : Octets) : Prop where
  written : encode a = .ok e
  shorter : e.length ≤ bs.length
  same : decode e = .ok a
  stable : ∀ b, decode e = .ok b → encode b = .ok e

theorem normalForm_of_encode {α : Type} {decode : Octets → Except DecodeFault α}
    {encode : α → Except EncodeFault Octets} {bs e : Octets} {a : α} (written : encode a = .ok e)
    (shorter : e.length ≤ bs.length) (same : decode e = .ok a) :
    NormalForm decode encode bs a e := by
  refine ⟨written, shorter, same, fun b read => ?_⟩
  obtain rfl : a = b := Except.ok.inj (same.symm.trans read)
  exact written

theorem request_normalForm {bs : Octets} {r : Request} (h : decodeRequest bs = .ok r) :
    ∃ e, NormalForm decodeRequest (fun r => r.message.encodeRequest) bs r e := by
  obtain ⟨e, written, shorter⟩ := encode_of_whole (fun _ _ => respelled_request) h
  rw [← r.encode_item] at written
  obtain ⟨r', read, message⟩ := decodeRequest_encodeRequest written
  obtain rfl : r' = r := by
    cases r' <;> cases r <;> cases message <;> rfl
  exact ⟨e, normalForm_of_encode written shorter read⟩

theorem response_normalForm {bs : Octets} {r : QueryResponse} (h : decodeResponse bs = .ok r) :
    ∃ e, NormalForm decodeResponse (fun r => (Message.response r).encodeResponse) bs r e := by
  obtain ⟨e, written, shorter⟩ := encode_of_whole (fun _ _ => respelled_response) h
  obtain ⟨r', read, message⟩ := decodeResponse_encodeResponse (m := .response r) written
  cases message
  exact ⟨e, normalForm_of_encode written shorter read⟩

theorem ticket_normalForm {bs : Octets} {t : Ticket} (h : Ticket.ofOctets bs = .ok t) :
    NormalForm Ticket.ofOctets (fun t => Wire.encode t.item) bs t t.toOctets := by
  obtain ⟨e, written, shorter⟩ := encode_of_whole (fun _ _ h => (respelled_ticket h).1) h
  obtain ⟨unhindered, rfl⟩ := encode_eq_ok written
  have countable : t.Countable := ticket_fault.1 unhindered
  obtain ⟨d, read, _⟩ := whole_eq_ok h
  have returns := ofOctets_toOctets countable
  rw [(respelled_ticket read).2] at returns
  exact normalForm_of_encode written shorter returns

/-- A node and its addresses, made anew from what is printed of each. -/
def NodeAddress.renewed (n : NodeAddress) : Except SocketAddress.Fault NodeAddress :=
  (n.direct.mapM fun a => SocketAddress.ofValue (.list [.text a.ip.text, .int a.port])).map
    (.make n.node n.relay)

theorem NodeAddress.renewed_make (node : PeerId) (relay : Option String)
    (as : List SocketAddress) : (make node relay as).renewed = .ok (make node relay as) := by
  have same (as : List SocketAddress) : as.mapM (fun a =>
      SocketAddress.ofValue (.list [.text a.ip.text, .int a.port])) = .ok as := by
    induction as with
    | nil => rfl
    | cons a as ih =>
        rw [List.mapM_cons, ih, a.ofValue_text]
        rfl
  rw [renewed, same]
  simp only [make, Except.map, SocketAddress.sorted_sorted]

theorem ticket_made {bs : Octets} {t : Ticket} (h : Ticket.ofOctets bs = .ok t) :
    ∃ node relay as content, t = ⟨.make node relay as, content⟩ := by
  obtain ⟨d, read, _⟩ := whole_eq_ok h
  have unzoned := (respelled_ticket read).2
  exact ⟨_, _, _, _, unzoned.symm⟩

/-- Whatever was accepted as a message or ticket can be written again, in a normal form. The
addresses of a ticket also survive being printed and read as those of a new one. -/
theorem accepted_normalForm :
    (∀ bs r, decodeRequest bs = .ok r →
      ∃ e, NormalForm decodeRequest (fun r => r.message.encodeRequest) bs r e) ∧
    (∀ bs r, decodeResponse bs = .ok r →
      ∃ e, NormalForm decodeResponse (fun r => (Message.response r).encodeResponse) bs r e) ∧
    ∀ bs t, Ticket.ofOctets bs = .ok t →
      NormalForm Ticket.ofOctets (fun t => Wire.encode t.item) bs t t.toOctets ∧
        t.node.renewed = .ok t.node := by
  refine ⟨fun _ _ => request_normalForm, fun _ _ => response_normalForm, fun bs t h => ?_⟩
  obtain ⟨node, relay, as, content, rfl⟩ := ticket_made h
  exact ⟨ticket_normalForm h, NodeAddress.renewed_make node relay as⟩

/-- The announce of two hashes, the second one named first and again at the end and their number
spelled in two octets, has a normal form that is at least 34 octets shorter. -/
theorem repeated_normalForm :
    let hash (b : UInt8) : Digest := ⟨List.replicate 32 b, rfl⟩
    let blob (b : UInt8) : ContentAddress := ⟨⟨hash b⟩, .raw⟩
    let r : Request := .announce ⟨⟨hash 7⟩, .ofList [blob 2, blob 1, blob 2], .complete⟩
    let named (b : UInt8) : Octets := (hash b).octets ++ [0]
    let bs := 0 :: (hash 7).octets ++ [131, 0] ++ named 2 ++ named 1 ++ named 2 ++ [1]
    decodeRequest bs = .ok r ∧
      ∃ e, NormalForm decodeRequest (fun r => r.message.encodeRequest) bs r e ∧
        e.length + 34 ≤ bs.length := by
  intro hash blob r named bs
  have read : decodeRequest bs = .ok r := rfl
  have once : decodeRequest (0 :: (hash 7).octets ++ [2] ++ named 1 ++ named 2 ++ [1]) = .ok r :=
    rfl
  obtain ⟨e, normal⟩ := accepted_normalForm.1 _ r read
  obtain ⟨e', normal'⟩ := accepted_normalForm.1 _ r once
  obtain rfl : e' = e := Except.ok.inj (normal'.written.symm.trans normal.written)
  exact ⟨read, e', normal, Nat.add_le_add_right normal'.shorter 34⟩

end ContentTracker
