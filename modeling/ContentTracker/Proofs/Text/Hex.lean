import ContentTracker.Octets
import ContentTracker.Proofs.Text.Blank

/-! Hexadecimal text. What is written is read again, and a text that is as long as its octets need
is what is written for them, up to case, though blanks may stand between octets. -/

namespace ContentTracker.Octets

theorem hexValue?_hexDigit {n : Nat} (h : n < 16) : hexValue? (hexDigit n) = some n := by
  revert n
  decide

theorem hexDigit_lt {n : Nat} (h : n < 16) : (hexDigit n).toNat < 128 := by
  revert n
  decide

theorem isHexBlank_of_value {c : Char} {n : Nat} (h : hexValue? c = some n) :
    isHexBlank c = false := by
  unfold hexValue? at h
  unfold isHexBlank
  grind

/-- Two digits are one octet. -/
theorem readPairs_pair {c d : Char} {high low : Nat} (first : hexValue? c = some high)
    (second : hexValue? d = some low) (position : Nat) (rest : List Char) :
    readPairs position (c :: d :: rest) =
      (readPairs (position + 2) rest).map (UInt8.ofNat (high * 16 + low) :: ·) := by
  conv => lhs; unfold readPairs
  simp only [isHexBlank_of_value first, Bool.false_eq_true, if_false, first, second]

theorem mem_hexChars {bs : Octets} {c : Char} (h : c ∈ bs.hexChars) :
    ∃ n, n < 16 ∧ c = hexDigit n := by
  induction bs with
  | nil => exact absurd h List.not_mem_nil
  | cons b bs ih =>
      have octet := b.toNat_lt
      rcases List.mem_cons.1 h with rfl | h
      · exact ⟨_, by omega, rfl⟩
      rcases List.mem_cons.1 h with rfl | later
      · exact ⟨_, by omega, rfl⟩
      · exact ih later

theorem readPairs_hexChars (bs : Octets) (position : Nat) :
    readPairs position bs.hexChars = .ok bs := by
  induction bs generalizing position with
  | nil => rfl
  | cons b bs ih =>
      have octet := b.toNat_lt
      have whole : b.toNat / 16 * 16 + b.toNat % 16 = b.toNat := by omega
      rw [hexChars, readPairs_pair (hexValue?_hexDigit (by omega)) (hexValue?_hexDigit (by omega)),
        ih, whole, UInt8.ofNat_toNat]
      rfl

theorem ofHex_of_ascii {text : String} (ascii : ∀ c ∈ text.toList, c.toNat < 128) :
    ofHex text = readPairs 0 text.toList := by
  have none : text.toList.findIdx? (fun c => 128 ≤ c.toNat) = none := by
    rw [List.findIdx?_eq_none_iff]
    intro c member
    simpa using ascii c member
  rw [ofHex, none]

theorem ofHex_toHex (bs : Octets) : ofHex bs.toHex = .ok bs := by
  rw [ofHex_of_ascii, toHex, String.toList_ofList, readPairs_hexChars]
  intro c member
  rw [toHex, String.toList_ofList] at member
  obtain ⟨n, small, rfl⟩ := mem_hexChars member
  exact hexDigit_lt small

/-- Two digits make an octet, and blanks make none. -/
theorem digits_of_readPairs {cs : List Char} {position : Nat} {bs : Octets}
    (h : readPairs position cs = .ok bs) : 2 * bs.length ≤ cs.length ∧
      (cs.length = 2 * bs.length → ∀ c ∈ cs, (hexValue? c).isSome) := by
  fun_induction readPairs position cs generalizing bs with
  | case1 => cases h; simp
  | case2 position c rest blank ih =>
      -- A blank makes the text longer than its octets need.
      have fewer := (ih h).1
      rw [List.length_cons]
      exact ⟨by omega, fun full => by omega⟩
  | case3 => cases h
  | case4 => cases h
  | case5 => cases h
  | case6 position c blank high d rest first low second ih =>
      cases read : readPairs (position + 2) rest with
      | error fault =>
          rw [read] at h
          cases h
      | ok more =>
          rw [read] at h
          cases h
          obtain ⟨fewer, digits⟩ := ih read
          simp only [List.length_cons]
          refine ⟨by omega, fun full => ?_⟩
          simp only [List.forall_mem_cons, first, second, Option.isSome_some, true_and]
          exact digits (by omega)

/-- Digits alone are read, if no octet is cut in two. -/
theorem readPairs_of_digits {size : Nat} {cs : List Char}
    (digits : ∀ c ∈ cs, (hexValue? c).isSome) (whole : cs.length = 2 * size) (position : Nat) :
    ∃ bs, readPairs position cs = .ok bs ∧ bs.length = size := by
  induction size generalizing cs position with
  | zero =>
      obtain rfl := List.length_eq_zero_iff.1 whole
      exact ⟨[], rfl, rfl⟩
  | succ size ih =>
      match cs, whole, digits with
      | c :: d :: rest, whole, digits =>
        simp only [List.forall_mem_cons] at digits
        obtain ⟨high, first⟩ := Option.isSome_iff_exists.1 digits.1
        obtain ⟨low, second⟩ := Option.isSome_iff_exists.1 digits.2.1
        obtain ⟨bs, read, length⟩ := ih digits.2.2 (by simp at whole; omega) (position + 2)
        rw [readPairs_pair first second, read]
        exact ⟨_, rfl, by rw [List.length_cons, length]⟩

theorem lt_of_hexValue? {c : Char} (h : (hexValue? c).isSome) : c.toNat < 128 := by
  unfold hexValue? at h
  grind

/-- A text of twice as many characters as octets is asked for gives them exactly if it is made of
digits. -/
theorem ofHex_full {text : String} (size : Nat) (full : text.length = 2 * size) :
    (∃ bs, ofHex text = .ok bs ∧ bs.length = size) ↔
      ∀ c ∈ text.toList, (hexValue? c).isSome := by
  rw [← String.length_toList] at full
  constructor
  · rintro ⟨bs, read, length⟩
    unfold ofHex at read
    split at read
    · cases read
    · exact (digits_of_readPairs read).2 (by omega)
  · intro digits
    rw [ofHex_of_ascii fun c member => lt_of_hexValue? (digits c member)]
    exact readPairs_of_digits digits full 0

/-- In lower case a digit is the one that is written for its value. -/
theorem toLower_of_hexValue? {c : Char} {n : Nat} (h : hexValue? c = some n) :
    n < 16 ∧ c.toLower = hexDigit n := by
  -- All digits are ASCII, of which there are few enough to look at each.
  have each : ∀ k < 128, ∀ n, hexValue? (Char.ofNat k) = some n →
      n < 16 ∧ (Char.ofNat k).toLower = hexDigit n := by
    decide
  have small := lt_of_hexValue? (c := c) (by rw [h]; rfl)
  have found := each c.toNat small n
  rw [Char.ofNat_toNat] at found
  exact found h

theorem toLower_of_readPairs {cs : List Char} {position : Nat} {bs : Octets}
    (h : readPairs position cs = .ok bs) (digits : ∀ c ∈ cs, (hexValue? c).isSome) :
    cs.map Char.toLower = bs.hexChars := by
  fun_induction readPairs position cs generalizing bs with
  | case1 => cases h; rfl
  | case2 position c rest blank ih =>
      obtain ⟨n, value⟩ := Option.isSome_iff_exists.1 (digits c List.mem_cons_self)
      rw [isHexBlank_of_value value] at blank
      cases blank
  | case3 => cases h
  | case4 => cases h
  | case5 => cases h
  | case6 position c blank high d rest first low second ih =>
      cases read : readPairs (position + 2) rest with
      | error fault =>
          rw [read] at h
          cases h
      | ok more =>
          rw [read] at h
          cases h
          obtain ⟨small, upper⟩ := toLower_of_hexValue? first
          obtain ⟨small', lower⟩ := toLower_of_hexValue? second
          have octet : (UInt8.ofNat (high * 16 + low)).toNat = high * 16 + low :=
            UInt8.toNat_ofNat_of_lt' (show high * 16 + low < 256 by omega)
          rw [List.map_cons, List.map_cons, hexChars, octet, upper, lower,
            ih read fun c member => digits c (by simp [member])]
          congr 3 <;> omega

theorem toHex_injective {as bs : Octets} (same : as.toHex = bs.toHex) : as = bs :=
  Except.ok.inj ((ofHex_toHex as).symm.trans (same ▸ ofHex_toHex bs))

/-- As many octets as a text of digits has pairs are read from their spellings only. -/
theorem ofHex_eq_ok {text : String} {bs : Octets} (full : text.length = 2 * bs.length) :
    ofHex text = .ok bs ↔ (∀ c ∈ text.toList, (hexValue? c).isSome) ∧ text.toLower = bs.toHex := by
  have spelled {other : Octets} (digits : ∀ c ∈ text.toList, (hexValue? c).isSome)
      (read : ofHex text = .ok other) : text.toLower = other.toHex := by
    rw [ofHex_of_ascii fun c member => lt_of_hexValue? (digits c member)] at read
    rw [← String.toList_inj, Text.toList_toLower, toLower_of_readPairs read digits, toHex,
      String.toList_ofList]
  constructor
  · intro read
    have digits := (ofHex_full bs.length full).1 ⟨bs, read, rfl⟩
    exact ⟨digits, spelled digits read⟩
  · rintro ⟨digits, same⟩
    obtain ⟨other, read, _⟩ := (ofHex_full bs.length full).2 digits
    obtain rfl := toHex_injective ((spelled digits read).symm.trans same)
    exact read

end ContentTracker.Octets
