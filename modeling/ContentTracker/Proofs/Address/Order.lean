import ContentTracker.Proofs.Address.Packed
import ContentTracker.Proofs.Octets
import ContentTracker.Proofs.Text.Utf8
import ContentTracker.SocketAddress

/-! The order of socket addresses. Their keys tell them apart, so the addresses of a node are the
rising list of a finite set. -/

namespace ContentTracker

namespace SocketAddress

theorem family_of_octet {a b : IpAddress} (h : UInt8.ofNat a.family = UInt8.ofNat b.family) :
    a.family = b.family := by
  have differ : UInt8.ofNat 0 ≠ UInt8.ofNat 1 := by decide
  cases a with
  | v4 => cases b with
    | v4 => rfl
    | v6 => exact absurd h differ
  | v6 => cases b with
    | v4 => exact absurd h.symm differ
    | v6 => rfl

theorem key_injective (a b : SocketAddress) (h : a.key = b.key) : a = b := by
  simp only [key, List.cons_append, List.cons.injEq] at h
  obtain ⟨family, rest⟩ := h
  have sizes : a.ip.packed.length = b.ip.packed.length := by
    rw [IpAddress.length_packed, IpAddress.length_packed, family_of_octet family]
  have ports : (Octets.ofNat 2 a.port).length = (Octets.ofNat 2 b.port).length := by
    rw [Octets.length_ofNat, Octets.length_ofNat]
  obtain ⟨front, zones⟩ := List.append_inj rest (by
    rw [List.length_append, List.length_append, sizes, ports])
  obtain ⟨packed, port⟩ := List.append_inj front sizes
  have ip : a.ip = b.ip := IpAddress.eq_of_unzoned (IpAddress.unzoned_of_packed packed)
    (Utf8.encode_injective zones)
  have port : a.port = b.port := Octets.ofNat_injective a.port_lt b.port_lt port
  cases a
  cases b
  simp_all

instance : Ranked SocketAddress := .byKey key key_injective

theorem insert_eq_insertRising (a : SocketAddress) (as : List SocketAddress) :
    insert a as = SortedSet.insertRising a as := by
  induction as with
  | nil => rfl
  | cons b rest ih =>
      rw [insert, SortedSet.insertRising, ih]
      change _ = if precedes a b then _ else if precedes b a then _ else _
      by_cases same : a = b
      · subst same
        have never : precedes a a = false := Octets.before_irrefl a.key
        simp [never]
      · rw [if_neg same]
        split
        · rfl
        · next notBefore =>
          have after : precedes b a = true := by
            by_contra notAfter
            rw [Bool.not_eq_true] at notBefore notAfter
            exact same (key_injective a b (Octets.before_total _ _ notBefore notAfter))
          rw [if_pos after]

/-- The addresses of a node are the members of a finite set. -/
theorem sorted_eq_members (as : List SocketAddress) : sorted as = (SortedSet.ofList as).members := by
  have general (as : List SocketAddress) (s : SortedSet SocketAddress) :
      as.foldl (fun rising a => insert a rising) s.members = (as.foldl SortedSet.insert s).members := by
    induction as generalizing s with
    | nil => rfl
    | cons a as ih =>
        rw [List.foldl_cons, List.foldl_cons, ← ih, insert_eq_insertRising]
        rfl
  exact general as .empty

theorem mem_sorted {as : List SocketAddress} {a : SocketAddress} : a ∈ sorted as ↔ a ∈ as := by
  rw [sorted_eq_members]
  exact SortedSet.mem_ofList

theorem sorted_sorted (as : List SocketAddress) : sorted (sorted as) = sorted as := by
  rw [sorted_eq_members (sorted as), sorted_eq_members as, SortedSet.ofList_members]

end SocketAddress

end ContentTracker
