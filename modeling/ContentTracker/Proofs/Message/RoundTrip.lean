import ContentTracker.Message
import ContentTracker.Proofs.Wire.SelfDelimiting

/-! Requests and responses survive the wire. Whatever can be written is read back as it was, and
what cannot be written is exactly what is no message of the union, has a filter that is no boolean,
or has too many members to be counted. -/

namespace ContentTracker

open Wire

/-! The fields. -/

theorem AnnounceKind.ofTag?_tag (k : AnnounceKind) : ofTag? k.tag = Option.some k := by
  cases k <;> rfl

theorem RequestKind.ofTag?_tag (k : RequestKind) : ofTag? k.tag = some k := by cases k <;> rfl

theorem write_digest (d : Digest) : write d.item = ⟨d.octets, none⟩ := by
  rw [Digest.item, write, if_pos (by rw [d.length_octets]; rfl)]

theorem undoes_digest (d : Digest) : Undoes Digest.read (write d.item) d := by
  rw [write_digest]
  intro _ offset rest
  have enough : 32 ≤ (d.octets ++ rest).length := by
    rw [List.length_append, d.length_octets]
    omega
  obtain ⟨bs, size⟩ := d
  simp only [Digest.read, dif_pos enough]
  simp only [← size, List.take_left', List.drop_left']

theorem undoes_tagged {α : Type} {ofTag? : Nat → Option α} {fault : Nat → DecodeFault} {n : Nat}
    {a : α} (known : ofTag? n = some a) :
    Undoes (Reader.tagged ofTag? fault) (write (natItem n)) a := by
  intro unhindered
  rw [natItem, write] at unhindered ⊢
  have tag : Reads Reader.varint (writeInteger n).octets n := undoes_writeInteger n unhindered
  refine tag.decide ?_
  simpa only [known] using reads_pure a

theorem undoes_address (a : ContentAddress) : Undoes ContentAddress.read (write a.item) a := by
  rw [ContentAddress.item, write, writeAll_cons, writeAll_cons, writeAll_nil]
  refine (undoes_digest a.hash.digest).andThen ?_
  refine (undoes_tagged (BlobFormat.ofTag?_tag a.format)).andThen ?_
  exact undoes_pure a

theorem undoes_peer (p : PeerId) : Undoes PeerId.read (write p.item) p :=
  (undoes_digest p.key).map PeerId.mk

theorem digest_solid (d : Digest) : (write d.item).octets ≠ [] := by
  rw [write_digest]
  exact List.ne_nil_of_length_eq_add_one d.length_octets

theorem address_solid (a : ContentAddress) : (write a.item).octets ≠ [] := by
  rw [ContentAddress.item, write, writeAll_cons, andThen_octets (by rw [write_digest])]
  exact List.append_ne_nil_of_left_ne_nil (digest_solid _) _

/-! The messages. -/

theorem undoes_announce (a : Announce) : Undoes Announce.read (write a.item) a := by
  rw [Announce.item, write, writeAll_cons, writeAll_cons, writeAll_cons, writeAll_nil]
  refine (undoes_peer a.host).andThen ?_
  refine (undoes_seq (fun b _ => undoes_address b) fun b _ _ => address_solid b).andThen ?_
  refine (undoes_tagged (AnnounceKind.ofTag?_tag a.kind)).andThen ?_
  rw [SortedSet.ofList_members]
  exact undoes_pure a

theorem undoes_query (a : ContentAddress) (complete verified : Bool) :
    Undoes Query.read (write (Query.mk a (.bool complete) (.bool verified)).item)
      ⟨a, .bool complete, .bool verified⟩ := by
  rw [Query.item, write, writeAll_cons, writeAll_cons, writeAll_cons, writeAll_nil, write, write]
  refine (undoes_address a).andThen ?_
  refine (undoes_writeFlag complete).andThen ?_
  refine (undoes_writeFlag verified).andThen ?_
  exact undoes_pure _

theorem write_variant (n : Nat) (item : Item) :
    write (.record [natItem n, item]) = (write (natItem n)).andThen (write item) := by
  rw [write, writeAll_cons, writeAll_cons, writeAll_nil, andThen_nil]

theorem undoes_announceRequest (a : Announce) :
    Undoes Request.read (write (.record [natItem RequestKind.announce.tag, a.item]))
      (.announce a) := by
  rw [write_variant]
  refine (undoes_tagged (RequestKind.ofTag?_tag .announce)).andThen ?_
  exact (undoes_announce a).map Request.announce

theorem undoes_queryRequest (a : ContentAddress) (complete verified : Bool) :
    let q : Query := ⟨a, .bool complete, .bool verified⟩
    Undoes Request.read (write (.record [natItem RequestKind.query.tag, q.item])) (.query q) := by
  intro q
  rw [write_variant]
  refine (undoes_tagged (RequestKind.ofTag?_tag .query)).andThen ?_
  exact (undoes_query a complete verified).map Request.query

theorem undoes_response (r : QueryResponse) :
    Undoes QueryResponse.read (write (.record [natItem 0, r.item])) r := by
  rw [write_variant, QueryResponse.item, write, writeAll_cons, writeAll_cons, writeAll_nil]
  have tag : Undoes (Reader.tagged (fun tag => if tag = 0 then some () else none)
      (.unknownVariant .response)) (write (natItem 0)) () := undoes_tagged rfl
  refine tag.andThen ?_
  refine (undoes_address r.content).andThen ?_
  refine (undoes_seq (fun p _ => undoes_peer p) fun p _ _ => digest_solid p.key).andThen ?_
  exact undoes_pure r

/-! The faults. Tags and digests can always be written; only counts and filters can go wrong. -/

theorem writeInteger_fault (n : Nat) : (writeInteger n).fault =
    if n < varintBound then none else some (.outOfRange n) := by
  change (if n < varintBound then (⟨varint n, none⟩ : Written)
    else .stopped (.outOfRange n)).fault = _
  split <;> rfl

theorem write_tag {n : Nat} (h : n ≤ 1) : write (natItem n) = ⟨[UInt8.ofNat n], none⟩ := by
  have small : n < varintBound := Nat.lt_of_le_of_lt h (by decide)
  rw [natItem, write, ← varint_of_lt (show n < 128 by omega)]
  exact if_pos small

theorem write_tag_fault {n : Nat} (h : n ≤ 1) : (write (natItem n)).fault = none := by
  rw [write_tag h]

theorem address_fault (a : ContentAddress) : (write a.item).fault = none := by
  have tag : a.format.tag ≤ 1 := by cases a.format <;> decide
  rw [ContentAddress.item, write, writeAll_cons, writeAll_cons, writeAll_nil, andThen_nil,
    andThen_fault, write_digest, write_tag_fault tag]
  rfl

theorem peer_fault (p : PeerId) : (write p.item).fault = none := by
  rw [PeerId.item, write_digest]

theorem writeAll_fault {items : List Item} (fine : ∀ item ∈ items, (write item).fault = none) :
    (writeAll items).fault = none := by
  induction items with
  | nil => rw [writeAll_nil]
  | cons item items ih =>
      rw [writeAll_cons, andThen_fault, fine item (by simp),
        ih fun other member => fine other (List.mem_cons_of_mem _ member)]
      rfl

theorem seq_fault {items : List Item} (fine : ∀ item ∈ items, (write item).fault = none) :
    (write (.seq items)).fault =
      if items.length < varintBound then none else some (.outOfRange items.length) := by
  rw [write, andThen_fault, writeInteger_fault, writeAll_fault fine, Option.or_none]

theorem announce_fault (a : Announce) : (write a.item).fault =
    if a.content.members.length < varintBound then none
    else some (.outOfRange a.content.members.length) := by
  have tag : a.kind.tag ≤ 1 := by cases a.kind <;> decide
  rw [Announce.item, write, writeAll_cons, writeAll_cons, writeAll_cons, writeAll_nil, andThen_nil,
    andThen_fault, andThen_fault, peer_fault, write_tag_fault tag,
    seq_fault (by simpa using fun b _ => address_fault b), List.length_map]
  simp

theorem query_fault (q : Query) : (write q.item).fault =
    (writeFlag q.complete).fault.or (writeFlag q.verified).fault := by
  rw [Query.item, write, writeAll_cons, writeAll_cons, writeAll_cons, writeAll_nil, andThen_nil,
    andThen_fault, andThen_fault, address_fault, write, write, Option.none_or]

theorem response_fault (r : QueryResponse) : (write r.item).fault =
    if r.hosts.length < varintBound then none else some (.outOfRange r.hosts.length) := by
  rw [QueryResponse.item, write, writeAll_cons, writeAll_cons, writeAll_nil, andThen_nil,
    andThen_fault, address_fault, seq_fault (by simpa using fun p _ => peer_fault p),
    List.length_map, Option.none_or]

theorem variant_error_iff {n : Nat} (h : n ≤ 1) {item : Item} {f : EncodeFault} :
    encode (.record [natItem n, item]) = .error f ↔ (write item).fault = some f := by
  rw [encode_eq_error_iff, write_variant, andThen_fault, write_tag_fault h, Option.none_or]

/-! How requests begin, and that all queries have the same size. -/

theorem address_size (a : ContentAddress) : (write a.item).octets.length = 33 := by
  have tag : a.format.tag ≤ 1 := by cases a.format <;> decide
  rw [ContentAddress.item, write, writeAll_cons, writeAll_cons, writeAll_nil, andThen_nil,
    andThen_octets (by rw [write_digest]), write_digest, write_tag tag, List.length_append,
    Digest.length_octets, List.length_singleton]

theorem writeFlag_size {v : Value} (h : (writeFlag v).fault = none) :
    (writeFlag v).octets.length = 1 := by
  cases v with
  | bool b => rfl
  | _ => cases h

theorem query_size {q : Query} (h : (write q.item).fault = none) :
    (write q.item).octets.length = 35 := by
  rw [query_fault, Option.or_eq_none_iff] at h
  rw [Query.item, write, writeAll_cons, writeAll_cons, writeAll_cons, writeAll_nil, andThen_nil,
    andThen_octets (address_fault _), write, write, andThen_octets h.1, List.length_append,
    List.length_append, address_size, writeFlag_size h.1, writeFlag_size h.2]

theorem variant_octets {n : Nat} (h : n ≤ 1) {item : Item} {bs : Octets}
    (encoded : encode (.record [natItem n, item]) = .ok bs) :
    (write item).fault = none ∧ bs = UInt8.ofNat n :: (write item).octets := by
  obtain ⟨unhindered, rfl⟩ := encode_eq_ok encoded
  rw [write_variant, andThen_fault, write_tag_fault h, Option.none_or] at unhindered
  rw [write_variant, andThen_octets (write_tag_fault h), write_tag h]
  exact ⟨unhindered, rfl⟩

/-- A request begins with the number of its variant, and a query is 36 octets long. -/
theorem request_octets {m : Message} {bs : Octets} (h : m.encodeRequest = .ok bs) :
    ∃ rest, bs = 0 :: rest ∨ bs = 1 :: rest ∧ rest.length = 35 := by
  cases m with
  | announce a => exact ⟨_, .inl (variant_octets (by decide) h).2⟩
  | query q =>
      obtain ⟨unhindered, shape⟩ := variant_octets (by decide) h
      exact ⟨_, .inr ⟨shape, query_size unhindered⟩⟩
  | response r => cases h
  | other v => cases h

/-- A filter can be written, or it is no boolean and its type is named. -/
theorem writeFlag_cases (v : Value) : (∃ b, v = .bool b) ∨
    (∀ b, v ≠ .bool b) ∧ (writeFlag v).fault = some (.notABoolean v.typeName) := by
  cases v with
  | bool b => exact .inl ⟨b, rfl⟩
  | _ => exact .inr ⟨by simp, rfl⟩

/-- Why a message cannot be written as a request. The filters of a query are looked at in order. -/
inductive Message.RequestRefused : Message → EncodeFault → Prop
  | foreign {m : Message} : (∀ r : Request, r.message ≠ m) →
      RequestRefused m (.notARequest m.typeName)
  | tooMany {a : Announce} : 2 ^ 64 ≤ a.content.members.length →
      RequestRefused (.announce a) (.outOfRange a.content.members.length)
  | complete {q : Query} : (∀ b, q.complete ≠ .bool b) →
      RequestRefused (.query q) (.notABoolean q.complete.typeName)
  | verified {q : Query} {b : Bool} : q.complete = .bool b → (∀ c, q.verified ≠ .bool c) →
      RequestRefused (.query q) (.notABoolean q.verified.typeName)

/-- Why a message cannot be written as a response. -/
inductive Message.ResponseRefused : Message → EncodeFault → Prop
  | foreign {m : Message} : (∀ r, Message.response r ≠ m) →
      ResponseRefused m (.notAResponse m.typeName)
  | tooMany {r : QueryResponse} : 2 ^ 64 ≤ r.hosts.length →
      ResponseRefused (.response r) (.outOfRange r.hosts.length)

/-- A count is refused from a bound on. -/
theorem count_refused_iff {n : Nat} {f : EncodeFault} :
    (if n < varintBound then none else some (.outOfRange n)) = some f ↔
      2 ^ 64 ≤ n ∧ f = .outOfRange n := by
  have bound : varintBound = 2 ^ 64 := by decide
  rw [bound]
  by_cases small : n < 2 ^ 64
  · rw [if_pos small]
    constructor
    · intro h
      cases h
    · rintro ⟨big, _⟩
      exact absurd small (Nat.not_lt.2 big)
  · rw [if_neg small]
    constructor
    · intro h
      cases h
      exact ⟨Nat.le_of_not_lt small, rfl⟩
    · rintro ⟨_, rfl⟩
      rfl

theorem announce_refused_iff (a : Announce) (f : EncodeFault) :
    (Message.announce a).encodeRequest = .error f ↔ (Message.announce a).RequestRefused f := by
  rw [Message.encodeRequest, variant_error_iff (by decide), announce_fault, count_refused_iff]
  constructor
  · rintro ⟨big, rfl⟩
    exact .tooMany big
  · intro h
    cases h with
    | foreign other => exact absurd rfl (other (.announce a))
    | tooMany big => exact ⟨big, rfl⟩

theorem query_refused_iff (q : Query) (f : EncodeFault) :
    (Message.query q).encodeRequest = .error f ↔ (Message.query q).RequestRefused f := by
  rw [Message.encodeRequest, variant_error_iff (by decide), query_fault]
  rcases writeFlag_cases q.complete with ⟨b, first⟩ | ⟨first, fault⟩
  · rw [first, writeFlag, Option.none_or]
    rcases writeFlag_cases q.verified with ⟨c, second⟩ | ⟨second, fault⟩
    · rw [second, writeFlag]
      constructor
      · intro h
        cases h
      · intro h
        cases h with
        | foreign other => exact absurd rfl (other (.query q))
        | complete wrong => exact absurd first (wrong b)
        | verified _ wrong => exact absurd second (wrong c)
    · rw [fault]
      constructor
      · intro h
        cases h
        exact .verified first second
      · intro h
        cases h with
        | foreign other => exact absurd rfl (other (.query q))
        | complete wrong => exact absurd first (wrong b)
        | verified => rfl
  · rw [fault, Option.some_or]
    constructor
    · intro h
      cases h
      exact .complete first
    · intro h
      cases h with
      | foreign other => exact absurd rfl (other (.query q))
      | complete => rfl
      | verified right => exact absurd right (first _)

theorem request_refused_iff (m : Message) (f : EncodeFault) :
    m.encodeRequest = .error f ↔ m.RequestRefused f := by
  cases m with
  | announce a => exact announce_refused_iff a f
  | query q => exact query_refused_iff q f
  | response _ | other _ =>
      constructor
      · intro h
        cases h
        exact .foreign fun q => by cases q <;> simp [Request.message]
      · intro h
        cases h
        rfl

theorem response_refused_iff (m : Message) (f : EncodeFault) :
    m.encodeResponse = .error f ↔ m.ResponseRefused f := by
  cases m with
  | response r =>
      rw [Message.encodeResponse, variant_error_iff (by decide), response_fault, count_refused_iff]
      constructor
      · rintro ⟨big, rfl⟩
        exact .tooMany big
      · intro h
        cases h with
        | foreign other => exact absurd rfl (other r)
        | tooMany big => exact ⟨big, rfl⟩
  | announce _ | query _ | other _ =>
      constructor
      · intro h
        cases h
        exact .foreign fun _ => by simp
      · intro h
        cases h
        rfl

theorem decodeRequest_encodeRequest {m : Message} {bs : Octets} (h : m.encodeRequest = .ok bs) :
    ∃ r, decodeRequest bs = .ok r ∧ r.message = m := by
  cases m with
  | announce a => exact ⟨.announce a, whole_encode (undoes_announceRequest a) h, rfl⟩
  | query q =>
      have fine : ∀ f, ¬ (Message.query q).RequestRefused f := by
        intro f refused
        rw [(query_refused_iff q f).2 refused] at h
        cases h
      obtain ⟨a, complete, verified⟩ := q
      rcases writeFlag_cases complete with ⟨b, rfl⟩ | ⟨wrong, _⟩
      · rcases writeFlag_cases verified with ⟨c, rfl⟩ | ⟨wrong, _⟩
        · exact ⟨.query ⟨a, .bool b, .bool c⟩, whole_encode (undoes_queryRequest a b c) h, rfl⟩
        · exact absurd (.verified rfl wrong) (fine _)
      · exact absurd (.complete wrong) (fine _)
  | response r => cases h
  | other v => cases h

theorem decodeResponse_encodeResponse {m : Message} {bs : Octets}
    (h : m.encodeResponse = .ok bs) :
    ∃ r, decodeResponse bs = .ok r ∧ Message.response r = m := by
  cases m with
  | response r => exact ⟨r, whole_encode (undoes_response r) h, rfl⟩
  | announce a => cases h
  | query q => cases h
  | other v => cases h

/-- Encoded messages decode to themselves, and encoding fails with an encoding failure, for the
listed reasons only. -/
theorem messages_survive_wire :
    (∀ (m : Message) bs, m.encodeRequest = .ok bs →
      ∃ r, decodeRequest bs = .ok r ∧ r.message = m) ∧
    (∀ (m : Message) bs, m.encodeResponse = .ok bs →
      ∃ r, decodeResponse bs = .ok r ∧ .response r = m) ∧
    (∀ (m : Message) f, m.encodeRequest = .error f ↔ m.RequestRefused f) ∧
    (∀ (m : Message) f, m.encodeResponse = .error f ↔ m.ResponseRefused f) ∧
    ∀ f : EncodeFault, ∃ text, f.problem = .failure ⟨.encoding, text, []⟩ :=
  ⟨fun _ _ => decodeRequest_encodeRequest, fun _ _ => decodeResponse_encodeResponse,
    request_refused_iff, response_refused_iff, fun f => ⟨f.message, rfl⟩⟩

end ContentTracker
