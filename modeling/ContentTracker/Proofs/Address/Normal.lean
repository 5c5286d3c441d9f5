import ContentTracker.Proofs.Message.NormalForm
import ContentTracker.Proofs.Ticket.Canonical
import ContentTracker.Proofs.Ticket.Checked

/-! Socket addresses as they are handed on: a canonical text and a port. Whoever needs the address reads
the text once more, and that always gives the address that was meant. -/

namespace ContentTracker.SocketAddress

open Wire

/-- The pair that a host and a port are handed on as. -/
def normalized (host port : Value) : Except Fault (String × Nat) :=
  (normalize host port).map printed

/-- What a pair is ordered by, once its host has been read again. -/
def orderKey? (p : String × Nat) : Option Entry :=
  (IpAddress.parse? p.1).map fun ip => ⟨ip.family, ip.packed, p.2⟩

/-- What is written of a pair on the wire. -/
def written? (p : String × Nat) : Option Written := (orderKey? p).map fun e => write e.item

/-- A pair that stays as it is, and has the entry that it is written by. -/
structure Settled (p : String × Nat) (e : Entry) : Prop where
  kept : normalized (.text p.1) (.int p.2) = .ok p
  ordered : orderKey? p = some e
  written : written? p = some ⟨e.octets, none⟩

theorem settled_printed (a : SocketAddress) : Settled a.printed a.entry := by
  have read : orderKey? a.printed = some a.entry := by
    rw [orderKey?, printed, IpAddress.parse?_text]
    rfl
  refine ⟨?_, read, ?_⟩
  · have normal : normalize (.text a.ip.text) (.int a.port) = .ok a := a.ofValue_text
    rw [printed, normalized, normal]
    rfl
  · rw [written?, read, ← a.write_item]
    rfl

theorem normalized_eq_ok {host port : Value} {p : String × Nat} :
    normalized host port = .ok p ↔ ∃ a : SocketAddress, IpAddress.ofValue? host = some a.ip ∧
      Conversion.toInteger port = .ok a.port ∧ p = a.printed := by
  rw [normalized]
  constructor
  · intro h
    cases normal : normalize host port with
    | error fault =>
        rw [normal] at h
        cases h
    | ok a =>
        rw [normal] at h
        cases h
        obtain ⟨named, number⟩ := normalize_eq_ok.1 normal
        exact ⟨a, named, number, rfl⟩
  · rintro ⟨a, named, number, rfl⟩
    rw [normalize_eq_ok.2 ⟨named, number⟩]
    rfl

/-- A pair that was read from the wire is that of an address without a zone. -/
theorem checked_eq_ok {c d : Cursor} {p : String × Nat} (h : SocketAddress.checked c = .ok p d) :
    ∃ a : SocketAddress, SocketAddress.read c = .ok a d ∧ p = a.printed := by
  rw [← wire_socketAddress, Checked.wire_map] at h
  change EStateM.map printed (Checked.wire SocketAddress.read) c = _ at h
  unfold EStateM.map Checked.wire at h
  cases read : SocketAddress.read c with
  | error fault e =>
      rw [read] at h
      cases h
  | ok a e =>
      rw [read] at h
      cases h
      exact ⟨a, rfl, rfl⟩

/-- A pair made from any accepted spelling of a host and any accepted form of a port stays as it is when
it is made again. It can be ordered and written, and is so by the family and the octets of the host that
was given, and by the number of the port. So does every pair that was read from the wire, where only the
host has lost its zone. -/
theorem normalized_settled :
    (∀ host port p, normalized host port = .ok p → ∃ ip, IpAddress.ofValue? host = some ip ∧
      Conversion.toInteger port = .ok (p.2 : Int) ∧ p.2 < 65536 ∧ p.1 = ip.text ∧
      Settled p ⟨ip.family, ip.packed, p.2⟩) ∧
    ∀ c d p, SocketAddress.checked c = .ok p d → ∃ ip : IpAddress, ip.zoneText = "" ∧
      p.1 = ip.text ∧ Settled p ⟨ip.family, ip.packed, p.2⟩ := by
  constructor
  · intro host port p h
    obtain ⟨a, named, number, rfl⟩ := normalized_eq_ok.1 h
    exact ⟨a.ip, named, number, a.port_lt, rfl, settled_printed a⟩
  · intro c d p h
    obtain ⟨a, read, rfl⟩ := checked_eq_ok h
    exact ⟨a.ip, (respelled_socketAddress read).2, rfl, settled_printed a⟩

/-- A host in capitals whose last groups are given as an address of version 4, with a zone, and a pair
from the wire that a port in two octets is read for. -/
theorem normalized_settled_zoned :
    normalized (.text "FE80:0::FFFF:1.2.3.4%Eth0") (.text " 8_0\n") =
      .ok ("fe80::ffff:102:304%Eth0", 80) ∧
    Settled ("fe80::ffff:102:304%Eth0", 80)
      ⟨1, [0xfe, 0x80, 0, 0, 0, 0, 0, 0, 0, 0, 0xff, 0xff, 1, 2, 3, 4], 80⟩ ∧
    SocketAddress.checked (.start (1 :: List.replicate 16 0 ++ [0xbb, 0x03])) =
      .ok ("::", 443) ⟨19, []⟩ ∧
    Settled ("::", 443) ⟨1, List.replicate 16 0, 443⟩ := by
  have made : normalized (.text "FE80:0::FFFF:1.2.3.4%Eth0") (.text " 8_0\n") =
      .ok ("fe80::ffff:102:304%Eth0", 80) := by rfl
  have read : SocketAddress.checked (.start (1 :: List.replicate 16 0 ++ [0xbb, 0x03])) =
      .ok ("::", 443) ⟨19, []⟩ := by rfl
  obtain ⟨_, _, _, _, _, settled⟩ := normalized_settled.1 _ _ _ made
  obtain ⟨_, _, _, settled'⟩ := normalized_settled.2 _ _ _ read
  have first : orderKey? ("fe80::ffff:102:304%Eth0", 80) =
      some ⟨1, [0xfe, 0x80, 0, 0, 0, 0, 0, 0, 0, 0, 0xff, 0xff, 1, 2, 3, 4], 80⟩ := by rfl
  have second : orderKey? ("::", 443) = some ⟨1, List.replicate 16 0, 443⟩ := by rfl
  rw [settled.ordered] at first
  rw [settled'.ordered] at second
  exact ⟨made, Option.some.inj first ▸ settled, read, Option.some.inj second ▸ settled'⟩

end ContentTracker.SocketAddress
