import ContentTracker.Proofs.Wire.Extent
import ContentTracker.Ticket

/-! Where messages and tickets end. Neither carries its overall length, and still octets that were
cut short or that go on are never taken for another message. -/

namespace ContentTracker

open Wire

theorem steady_tagged {α : Type} (ofTag? : Nat → Option α) (fault : Nat → DecodeFault) :
    Steady 1 (Reader.tagged ofTag? fault) := by
  refine steady_varint.decide fun tag => ?_
  split
  · exact steady_pure _
  · exact steady_throw _

theorem steady_digest : Steady 32 Digest.read := by
  intro c digest d accepted
  unfold Digest.read at accepted
  split at accepted
  · next enough =>
    cases accepted
    have size : (c.rest.take 32).length = 32 := by
      rw [List.length_take]
      omega
    refine ⟨c.rest.take 32, Nat.le_of_eq size.symm, (List.take_append_drop _ _).symm, ?_⟩
    intro offset rest
    have fits : 32 ≤ (c.rest.take 32 ++ rest).length := by
      rw [List.length_append]
      omega
    simp only [Digest.read, dif_pos fits, List.take_left' size, List.drop_left' size, size]
  · cases accepted

theorem steady_peer : Steady 32 PeerId.read := steady_digest.map PeerId.mk

theorem steady_address : Steady 33 ContentAddress.read :=
  steady_digest.bind fun _ => (steady_tagged _ _).decide fun _ => steady_pure _

theorem steady_announce : Steady 34 Announce.read :=
  steady_peer.bind fun _ => (steady_seq (steady_address.weaken (by decide))).bind fun _ =>
    (steady_tagged _ _).decide fun _ => steady_pure _

theorem steady_query : Steady 35 Query.read :=
  steady_address.bind fun _ => steady_flag.bind fun _ => steady_flag.decide fun _ => steady_pure _

theorem steady_request : Steady 35 Request.read := by
  change Steady (1 + 34) _
  refine (steady_tagged _ _).bind fun kind => ?_
  cases kind with
  | announce => exact steady_announce.map Request.announce
  | query => exact (steady_query.map Request.query).weaken (by decide)

theorem steady_response : Steady 35 QueryResponse.read :=
  (steady_tagged _ _).bind fun _ => steady_address.bind fun _ =>
    (steady_seq (steady_peer.weaken (by decide))).decide fun _ => steady_pure _

/-- The octets of an address, once the number in front of them has been read. -/
def IpAddress.unpack (tag size : Nat) : Reader IpAddress := do
  match ofPacked? (← Reader.take size) with
  | some ip => pure ip
  | none => throw (.unknownFamily tag)

theorem steady_unpack (tag size : Nat) : Steady 0 (IpAddress.unpack tag size) := by
  refine ((steady_take size).weaken (Nat.zero_le size)).decide fun bs => ?_
  split
  · exact steady_pure _
  · exact steady_throw _

theorem steady_ipAddress : Steady 1 IpAddress.read := by
  refine steady_varint.decide fun tag => ?_
  split
  · exact (steady_pure 4).decide (steady_unpack _)
  · exact (steady_pure 16).decide (steady_unpack _)
  · exact (steady_throw _ : Steady 0 _).decide (steady_unpack _)

theorem steady_socketAddress : Steady 2 SocketAddress.read := by
  refine steady_ipAddress.bind fun ip => steady_varint.decide fun port => ?_
  split
  · exact steady_pure _
  · exact steady_throw _

theorem steady_ticket : Steady 68 Ticket.read :=
  (steady_tagged _ _).bind fun _ => steady_peer.bind fun _ =>
    (steady_option steady_text).bind fun _ =>
      (steady_seq (steady_socketAddress.weaken (by decide))).bind fun _ =>
        (steady_tagged _ _).bind fun _ => steady_digest.decide fun _ => steady_pure _

/-- The octets are refused, and the failure is one of decoding. -/
def Refuses {α : Type} (decode : Octets → Except DecodeFault α) (bs : Octets) : Prop :=
  ∃ fault text details, decode bs = .error fault ∧
    fault.problem = .failure ⟨.decoding, text, details⟩

theorem refuses_of_error {α : Type} {decode : Octets → Except DecodeFault α} {bs : Octets}
    {fault : DecodeFault} (h : decode bs = .error fault) : Refuses decode bs :=
  ⟨fault, fault.message, fault.details, h, rfl⟩

/-- Of these octets no proper beginning is accepted, nor anything that goes on after them. -/
structure StandsAlone {α : Type} (decode : Octets → Except DecodeFault α) (bs : Octets) :
    Prop where
  beginning : ∀ part lacking, part ++ lacking = bs → lacking ≠ [] → Refuses decode part
  extension : ∀ extra, extra ≠ [] → Refuses decode (bs ++ extra)

theorem Wire.Steady.standsAlone {α : Type} {r : Reader α} {least : Nat} (steady : Steady least r)
    {bs : Octets} {a : α} (h : Reader.whole r bs = .ok a) : StandsAlone (Reader.whole r) bs where
  beginning := by
    rintro part lacking rfl some
    obtain ⟨fault, refused⟩ := steady.whole_beginning h some
    exact refuses_of_error refused
  extension := fun _ some => refuses_of_error (steady.whole_append h some)

/-- A message or ticket that was cut or extended is never mistaken for another one, canonical or
not. -/
theorem accepted_standsAlone :
    (∀ bs m, decodeRequest bs = .ok m → StandsAlone decodeRequest bs) ∧
    (∀ bs m, decodeResponse bs = .ok m → StandsAlone decodeResponse bs) ∧
    ∀ bs t, Ticket.ofOctets bs = .ok t → StandsAlone Ticket.ofOctets bs :=
  ⟨fun _ _ => steady_request.standsAlone, fun _ _ => steady_response.standsAlone,
    fun _ _ => steady_ticket.standsAlone⟩

/-- A response in which two zeros, the format and the number of hosts, are spelled in two octets. -/
theorem padded_standsAlone : let bs := 0 :: (List.replicate 32 7 ++ [128, 0, 128, 0])
    (∃ m, decodeResponse bs = .ok m) ∧ StandsAlone decodeResponse bs :=
  ⟨⟨_, rfl⟩, accepted_standsAlone.2.1 _ _ rfl⟩

end ContentTracker
