import ContentTracker.Proofs.Address.IpText

/-! The octets of an address. They are read as the address they were taken from, but for its zone,
and every four or sixteen octets are those of an address. -/

namespace ContentTracker

namespace IpAddress

/-- The address without its zone, which is all that its octets tell. -/
def unzoned : IpAddress → IpAddress
  | .v6 groups _ => .v6 groups none
  | ip => ip

theorem groupsOf_octets (gs : List UInt16) : groupsOf (gs.flatMap fun g =>
    [UInt8.ofNat (g.toNat / 256), UInt8.ofNat (g.toNat % 256)]) = gs := by
  induction gs with
  | nil => rfl
  | cons g gs ih =>
      have bound := g.toNat_lt
      have high : (UInt8.ofNat (g.toNat / 256)).toNat = g.toNat / 256 :=
        UInt8.toNat_ofNat_of_lt' (show g.toNat / 256 < 256 by omega)
      have low : (UInt8.ofNat (g.toNat % 256)).toNat = g.toNat % 256 :=
        UInt8.toNat_ofNat_of_lt' (show g.toNat % 256 < 256 by omega)
      rw [List.flatMap_cons, List.cons_append, List.singleton_append, groupsOf, high, low, ih,
        Nat.div_add_mod', UInt16.ofNat_toNat]

theorem length_octets (gs : List UInt16) : (gs.flatMap fun g =>
    [UInt8.ofNat (g.toNat / 256), UInt8.ofNat (g.toNat % 256)]).length = 2 * gs.length := by
  induction gs with
  | nil => rfl
  | cons g gs ih =>
      simp only [List.flatMap_cons, List.length_append, List.length_cons, List.length_nil, ih]
      omega

theorem length_packed (ip : IpAddress) : ip.packed.length = 4 + 12 * ip.family := by
  cases ip with
  | v4 => rfl
  | v6 groups zone =>
      have eight : groups.toList.length = 8 := groups.length_toList
      rw [packed, length_octets, eight]
      rfl

theorem ofPacked?_packed (ip : IpAddress) : ofPacked? ip.packed = some ip.unzoned := by
  cases ip with
  | v4 => rfl
  | v6 groups zone =>
      have size : (packed (.v6 groups zone)).length = 16 := length_packed _
      unfold ofPacked?
      split
      · next four =>
        rw [four] at size
        cases size
      · rw [if_pos size, packed, groupsOf_octets]
        exact ofGroups?_toList groups none

/-- An even number of octets is split into groups and put together again. -/
theorem octets_groupsOf (bs : Octets) (n : Nat) (even : bs.length = 2 * n) :
    (groupsOf bs).length = n ∧ ((groupsOf bs).flatMap fun g =>
      [UInt8.ofNat (g.toNat / 256), UInt8.ofNat (g.toNat % 256)]) = bs := by
  induction n generalizing bs with
  | zero =>
      obtain rfl := List.length_eq_zero_iff.1 even
      exact ⟨rfl, rfl⟩
  | succ n ih =>
      match bs, even with
      | a :: b :: rest, even =>
          have ha := a.toNat_lt
          have hb := b.toNat_lt
          obtain ⟨length, octets⟩ := ih rest (by simp only [List.length_cons] at even; omega)
          have value : (UInt16.ofNat (a.toNat * 256 + b.toNat)).toNat = a.toNat * 256 + b.toNat :=
            UInt16.toNat_ofNat_of_lt' (show a.toNat * 256 + b.toNat < 65536 by omega)
          have high : (a.toNat * 256 + b.toNat) / 256 = a.toNat := by omega
          have low : (a.toNat * 256 + b.toNat) % 256 = b.toNat := by omega
          rw [groupsOf, List.length_cons, length, List.flatMap_cons, octets, value, high, low,
            UInt8.ofNat_toNat, UInt8.ofNat_toNat]
          exact ⟨rfl, rfl⟩

/-- An address that was read from octets has these octets, and no zone. -/
theorem packed_of_ofPacked? {bs : Octets} {ip : IpAddress} (h : ofPacked? bs = some ip) :
    ip.packed = bs ∧ ip.unzoned = ip := by
  unfold ofPacked? at h
  split at h
  · cases h
    exact ⟨rfl, rfl⟩
  · split at h
    · next size =>
      obtain ⟨length, octets⟩ := octets_groupsOf bs 8 size
      rw [ofGroups?, dif_pos length] at h
      cases h
      exact ⟨octets, rfl⟩
    · cases h

theorem unzoned_of_packed {a b : IpAddress} (h : a.packed = b.packed) : a.unzoned = b.unzoned := by
  have read := ofPacked?_packed a
  rw [h, ofPacked?_packed] at read
  exact (Option.some.inj read).symm

/-- An address is its octets and its zone. -/
theorem eq_of_unzoned {a b : IpAddress} (octets : a.unzoned = b.unzoned)
    (zones : a.zoneText = b.zoneText) : a = b := by
  cases a with
  | v4 => cases b with
    | v4 => exact octets
    | v6 => cases octets
  | v6 groups zone => cases b with
    | v4 => cases octets
    | v6 groups' zone' =>
        cases octets
        congr 1
        cases zone with
        | none => cases zone' with
          | none => rfl
          | some z' => exact absurd zones.symm z'.name_ne
        | some z => cases zone' with
          | none => exact absurd zones z.name_ne
          | some z' =>
              obtain ⟨name, _, _, _⟩ := z
              obtain ⟨name', _, _, _⟩ := z'
              obtain rfl : name = name' := zones
              rfl

end IpAddress

end ContentTracker
