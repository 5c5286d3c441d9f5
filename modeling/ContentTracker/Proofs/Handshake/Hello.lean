import ContentTracker.Proofs.Endpoint.Dialing
import ContentTracker.Proofs.Handshake.Meeting
import ContentTracker.Proofs.Octets

/-! Reading a hello. It says where it ends, so a side takes exactly the hello of the other one,
however that was cut, and asks for no more than it has. -/

namespace ContentTracker

open Dialogue

variable {α : Type}

/-! Hellos. -/

theorem length_greetingOf (protocol : Octets) (peer : PeerId) :
    (greetingOf protocol peer).length = protocol.length + 33 := by
  simp [greetingOf, peer.key.length_octets]

theorem toNat_size {protocol : Octets} (short : protocol.length ≤ 255) :
    (UInt8.ofNat protocol.length).toNat = protocol.length :=
  UInt8.toNat_ofNat_of_lt' (show protocol.length < 256 by omega)

/-- No hello is the beginning of another one. -/
theorem greetingOf_append_inj {protocol protocol' more more' : Octets} {peer peer' : PeerId}
    (short : protocol.length ≤ 255) (short' : protocol'.length ≤ 255)
    (same : greetingOf protocol peer ++ more = greetingOf protocol' peer' ++ more') :
    protocol = protocol' ∧ peer = peer' ∧ more = more' := by
  simp only [greetingOf, List.cons_append, List.cons.injEq, List.append_assoc] at same
  obtain ⟨size, rest⟩ := same
  have lengths := congrArg UInt8.toNat size
  rw [toNat_size short, toNat_size short'] at lengths
  obtain ⟨rfl, keys⟩ := List.append_inj rest lengths
  obtain ⟨key, rfl⟩ := List.append_inj keys (by
    rw [peer.key.length_octets, peer'.key.length_octets])
  obtain ⟨⟨bs, whole⟩⟩ := peer
  obtain ⟨⟨bs', whole'⟩⟩ := peer'
  cases key
  exact ⟨rfl, rfl, rfl⟩

/-- The octet that a hello begins with is the length of its protocol tag. -/
theorem toNat_of_prefix {protocol took : Octets} {peer : PeerId} {n : UInt8}
    (short : protocol.length ≤ 255) (whole : greetingOf protocol peer <+: n :: took) :
    n.toNat = protocol.length := by
  rw [greetingOf, List.cons_prefix_cons] at whole
  rw [← whole.1, toNat_size short]

/-- A hello that arrives is the one that was said. -/
theorem greeting_eq {protocol protocol' said heard : Octets} {node node' : PeerId}
    (short : protocol.length ≤ 255) (short' : protocol'.length ≤ 255)
    (spoken : greetingOf protocol node <+: said) (arrived : heard <+: said)
    (whole : greetingOf protocol' node' <+: heard) : protocol' = protocol ∧ node' = node := by
  obtain ⟨more, rfl⟩ := spoken
  obtain ⟨more', same⟩ := whole.trans arrived
  obtain ⟨rfl, rfl, _⟩ := greetingOf_append_inj short' short same
  exact ⟨rfl, rfl⟩

theorem not_greetingOf_prefix_nil (protocol : Octets) (peer : PeerId) :
    ¬ greetingOf protocol peer <+: [] := by
  simp [greetingOf]

/-- A side is reading a hello of which it has taken `took`, and goes on with `next`. -/
inductive Listening (next : Except Problem (Octets × PeerId) → Dialogue α) :
    Octets → Dialogue α → Prop
  | size : Listening next [] (readingHello next)
  | tag (n : UInt8) : Listening next [n] (readingTag next [n])
  | key (n : UInt8) {protocol : Octets} : protocol.length = n.toNat →
      Listening next (n :: protocol) (readingKey next protocol)

section Listening

variable {next : Except Problem (Octets × PeerId) → Dialogue α} {took heard taken : Octets}
  {ended : Bool} {t u : Dialogue α} {made : Option WriterCall}

theorem Listening.asks (h : Listening next took t) : ∃ count goes, t = .read count goes ∧
    ∀ protocol peer heard, protocol.length ≤ 255 → greetingOf protocol peer <+: took ++ heard →
      count ≤ heard.length := by
  cases h with
  | size =>
      refine ⟨_, _, rfl, fun protocol peer heard short whole => ?_⟩
      have enough := whole.length_le
      rw [length_greetingOf, List.nil_append] at enough
      omega
  | tag n =>
      refine ⟨Octets.toNat [n], _, rfl, fun protocol peer heard short whole => ?_⟩
      have enough := whole.length_le
      have size := toNat_of_prefix short whole
      rw [length_greetingOf, List.length_append, List.length_singleton] at enough
      rw [Octets.toNat_singleton]
      omega
  | key n size =>
      refine ⟨_, _, rfl, fun protocol peer heard short whole => ?_⟩
      have enough := whole.length_le
      have size' := toNat_of_prefix short whole
      rw [length_greetingOf, List.length_append, List.length_cons] at enough
      omega

/-- It goes on until it has taken a hello, or the stream ends within one. -/
theorem Listening.moves (h : Listening next took t) (moves : t.Moves heard ended u taken made) :
    made = none ∧ (Listening next (took ++ taken) u ∨
      (∃ protocol peer, protocol.length ≤ 255 ∧ took ++ taken = greetingOf protocol peer ∧
        u = next (.ok (protocol, peer))) ∨
      ended = true ∧ (∃ p, u = next (.error p)) ∧
        ∀ protocol peer, protocol.length ≤ 255 → ¬ greetingOf protocol peer <+: took ++ heard) := by
  obtain ⟨count, goes, rfl, enough⟩ := h.asks
  cases moves with
  | cut _ short last =>
      refine ⟨rfl, .inr (.inr ⟨last, ?_, fun protocol peer fits whole => ?_⟩)⟩
      · cases h <;> exact ⟨_, rfl⟩
      · exact Nat.not_le.2 short (enough protocol peer heard fits whole)
  | read _ ready =>
      refine ⟨rfl, ?_⟩
      have size := List.length_take_of_le ready
      cases h with
      | size =>
          obtain ⟨n, one⟩ := List.length_eq_one_iff.1 size
          rw [one]
          exact .inl (.tag n)
      | tag n =>
          exact .inl (.key n (size.trans (Octets.toNat_singleton n)))
      | @key n protocol protocolSize =>
          refine .inr (.inl ⟨protocol, ⟨⟨heard.take 32, size⟩⟩, ?_, ?_, ?_⟩)
          · have octet := n.toNat_lt
            omega
          · rw [greetingOf, protocolSize, UInt8.ofNat_toNat]
            rfl
          · simp only [PeerId.ofOctets, Digest.ofOctets?, dif_pos size]

theorem Listening.waits (h : Listening next took t) (waits : t.Waits heard ended)
    {theirs : Octets} (short : theirs.length ≤ 255) (other : PeerId) :
    ¬ greetingOf theirs other <+: took ++ heard := by
  obtain ⟨count, goes, rfl, enough⟩ := h.asks
  exact fun whole => Nat.not_le.2 waits.1 (enough theirs other heard short whole)

end Listening

end ContentTracker
