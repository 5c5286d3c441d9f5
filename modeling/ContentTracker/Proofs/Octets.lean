import ContentTracker.SortedSet
import Mathlib.Algebra.Group.Nat.Defs
import Mathlib.Data.List.Induction

/-! Octet strings as numbers of base 256, in both directions. -/

namespace ContentTracker.Octets

theorem toNat_concat (bs : Octets) (b : UInt8) : toNat (bs ++ [b]) = toNat bs * 256 + b.toNat := by
  simp [toNat]

theorem toNat_singleton (b : UInt8) : toNat [b] = b.toNat := by
  simp [toNat]

theorem toNat_append (as bs : Octets) :
    toNat (as ++ bs) = toNat as * 256 ^ bs.length + toNat bs := by
  induction bs using List.reverseRecOn with
  | nil => simp [toNat]
  | append_singleton bs b ih =>
      rw [← List.append_assoc, toNat_concat, toNat_concat, ih, List.length_append,
        List.length_singleton, Nat.pow_succ, Nat.add_mul, Nat.mul_assoc, Nat.add_assoc]

/-- As many octets as the string has spell it again. -/
theorem ofNat_toNat (bs : Octets) : ofNat bs.length (toNat bs) = bs := by
  induction bs using List.reverseRecOn with
  | nil => rfl
  | append_singleton bs b ih =>
      have octet := b.toNat_lt
      have high : (toNat bs * 256 + b.toNat) / 256 = toNat bs := by omega
      have low : (toNat bs * 256 + b.toNat) % 256 = b.toNat := by omega
      rw [toNat_concat, List.length_append, List.length_singleton, ofNat, high, low, ih,
        UInt8.ofNat_toNat]

theorem toNat_ofNat (size n : Nat) : toNat (ofNat size n) = n % 256 ^ size := by
  induction size generalizing n with
  | zero => simp [ofNat, toNat, Nat.mod_one]
  | succ size ih =>
      have octet : (UInt8.ofNat (n % 256)).toNat = n % 256 :=
        UInt8.toNat_ofNat_of_lt' (show n % 256 < 256 by omega)
      rw [ofNat, toNat_concat, ih, octet, Nat.pow_succ, Nat.mul_comm (256 ^ size), Nat.mod_mul]
      omega

theorem toNat_lt (bs : Octets) : toNat bs < 256 ^ bs.length := by
  have spelled := toNat_ofNat bs.length (toNat bs)
  rw [ofNat_toNat] at spelled
  rw [spelled]
  exact Nat.mod_lt _ (Nat.pow_pos (by decide))

theorem ofNat_injective {size m n : Nat} (hm : m < 256 ^ size) (hn : n < 256 ^ size)
    (same : ofNat size m = ofNat size n) : m = n := by
  have values := congrArg toNat same
  rwa [toNat_ofNat, toNat_ofNat, Nat.mod_eq_of_lt hm, Nat.mod_eq_of_lt hn] at values

/-! Dictionary order. -/

theorem before_iff_lt {as bs : Octets} : Octets.before as bs = true ↔ as < bs := by
  induction as generalizing bs with
  | nil => cases bs <;> simp [Octets.before]
  | cons a as ih =>
      cases bs with
      | nil => simp [Octets.before]
      | cons b bs => simp [Octets.before, List.cons_lt_cons_iff, ih]

/-- Of octets of one length, those in front decide first. -/
theorem append_lt_append {as bs xs ys : Octets} (same : as.length = bs.length) :
    as ++ xs < bs ++ ys ↔ as < bs ∨ as = bs ∧ xs < ys := by
  induction as generalizing bs with
  | nil =>
      obtain rfl := List.length_eq_zero_iff.1 same.symm
      simp
  | cons a as ih =>
      cases bs with
      | nil => cases same
      | cons b bs =>
          rw [List.cons_append, List.cons_append, List.cons_lt_cons_iff, List.cons_lt_cons_iff,
            ih (by simpa using same), List.cons.injEq]
          constructor
          · rintro (h | ⟨rfl, h | ⟨rfl, h⟩⟩)
            · exact .inl (.inl h)
            · exact .inl (.inr ⟨rfl, h⟩)
            · exact .inr ⟨⟨rfl, rfl⟩, h⟩
          · rintro ((h | ⟨rfl, h⟩) | ⟨⟨rfl, rfl⟩, h⟩)
            · exact .inl h
            · exact .inr ⟨rfl, .inl h⟩
            · exact .inr ⟨rfl, .inr ⟨rfl, h⟩⟩

/-- Of numbers with one number of octets, the lower one has the lower octets. -/
theorem ofNat_lt_ofNat {size m n : Nat} (hm : m < 256 ^ size) (hn : n < 256 ^ size) :
    ofNat size m < ofNat size n ↔ m < n := by
  induction size generalizing m n with
  | zero =>
      rw [Nat.pow_zero] at hm hn
      simp only [ofNat, List.lt_irrefl, false_iff]
      omega
  | succ size ih =>
      rw [Nat.pow_succ] at hm hn
      have hm := Nat.div_lt_of_lt_mul (Nat.mul_comm _ _ ▸ hm)
      have hn := Nat.div_lt_of_lt_mul (Nat.mul_comm _ _ ▸ hn)
      have low (k : Nat) : (UInt8.ofNat (k % 256)).toNat = k % 256 :=
        UInt8.toNat_ofNat_of_lt' (Nat.mod_lt k (by decide))
      have high : ofNat size (m / 256) = ofNat size (n / 256) ↔ m / 256 = n / 256 :=
        ⟨ofNat_injective hm hn, fun same => by rw [same]⟩
      rw [ofNat, ofNat, append_lt_append (by rw [length_ofNat, length_ofNat]), ih hm hn, high,
        List.cons_lt_cons_iff, UInt8.lt_iff_toNat_lt, low, low]
      simp only [List.lt_irrefl, and_false, or_false]
      omega

end ContentTracker.Octets
