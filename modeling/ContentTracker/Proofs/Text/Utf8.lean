import ContentTracker.Text.Utf8
import Mathlib.Tactic.SplitIfs

/-! UTF-8 reads back what it wrote, and it reads nothing else: every text has one spelling. -/

namespace ContentTracker.Utf8

variable {position taken count low high bits code : Nat} {b : UInt8} {rest after : Octets}

/-! The spelling of a character, by the number of its octets. -/

section Spelling

variable {c : Char}

theorem encodeChar_one (h : c.toNat < 0x80) :
    String.utf8EncodeChar c = [UInt8.ofNat c.toNat] := by
  simp only [String.utf8EncodeChar, Char.toNat_val]
  rw [if_pos (by omega)]

theorem encodeChar_two (least : 0x80 ≤ c.toNat) (most : c.toNat < 0x800) :
    String.utf8EncodeChar c =
      [UInt8.ofNat (0xc0 + c.toNat / 64), UInt8.ofNat (0x80 + c.toNat % 64)] := by
  have first : c.toNat / 64 % 32 + 192 = 0xc0 + c.toNat / 64 := by omega
  simp only [String.utf8EncodeChar, Char.toNat_val]
  rw [if_neg (by omega), if_pos (by omega), first, Nat.add_comm 0x80]

theorem encodeChar_three (least : 0x800 ≤ c.toNat) (most : c.toNat < 0x10000) :
    String.utf8EncodeChar c =
      [UInt8.ofNat (0xe0 + c.toNat / 4096), UInt8.ofNat (0x80 + c.toNat / 64 % 64),
        UInt8.ofNat (0x80 + c.toNat % 64)] := by
  have first : c.toNat / 4096 % 16 + 224 = 0xe0 + c.toNat / 4096 := by omega
  simp only [String.utf8EncodeChar, Char.toNat_val]
  rw [if_neg (by omega), if_neg (by omega), if_pos (by omega), first, Nat.add_comm 0x80,
    Nat.add_comm 0x80]

theorem encodeChar_four (least : 0x10000 ≤ c.toNat) :
    String.utf8EncodeChar c =
      [UInt8.ofNat (0xf0 + c.toNat / 262144), UInt8.ofNat (0x80 + c.toNat / 4096 % 64),
        UInt8.ofNat (0x80 + c.toNat / 64 % 64), UInt8.ofNat (0x80 + c.toNat % 64)] := by
  have valid : c.toNat.isValidChar := c.valid
  have first : c.toNat / 262144 % 8 + 240 = 0xf0 + c.toNat / 262144 := by
    unfold Nat.isValidChar at valid
    omega
  simp only [String.utf8EncodeChar, Char.toNat_val]
  rw [if_neg (by omega), if_neg (by omega), if_neg (by omega), first, Nat.add_comm 0x80,
    Nat.add_comm 0x80, Nat.add_comm 0x80]

end Spelling

/-! The steps of the reader. -/

theorem lead_ofNat {n : Nat} (octet : n < 256) : lead? (UInt8.ofNat n) =
    if n < 0xc2 then none
    else if n < 0xe0 then some (1, 0x80, 0xbf, n - 0xc0)
    else if n = 0xe0 then some (2, 0xa0, 0xbf, 0)
    else if n = 0xed then some (2, 0x80, 0x9f, 13)
    else if n < 0xf0 then some (2, 0x80, 0xbf, n - 0xe0)
    else if n = 0xf0 then some (3, 0x90, 0xbf, 0)
    else if n < 0xf4 then some (3, 0x80, 0xbf, n - 0xf0)
    else if n = 0xf4 then some (3, 0x80, 0x8f, 4)
    else none := by
  have value : (UInt8.ofNat n).toNat = n := UInt8.toNat_ofNat_of_lt' octet
  simp only [lead?, value]

/-- What a first octet of several tells: how many follow, the bits it gives, and bounds that keep
out spellings longer than needed, surrogates, and numbers beyond the last character. -/
theorem lead_cases (h : lead? b = some (count, low, high, bits)) : 0x80 ≤ low ∧ high ≤ 0xbf ∧
    (count = 1 ∧ b.toNat = 0xc0 + bits ∧ 2 ≤ bits ∧ bits < 32 ∨
      count = 2 ∧ b.toNat = 0xe0 + bits ∧ bits < 16 ∧ (bits = 0 → 0xa0 ≤ low) ∧
        (bits = 13 → high ≤ 0x9f) ∨
      count = 3 ∧ b.toNat = 0xf0 + bits ∧ bits ≤ 4 ∧ (bits = 0 → 0x90 ≤ low) ∧
        (bits = 4 → high ≤ 0x8f)) := by
  simp only [lead?] at h
  split_ifs at h <;> cases h <;> omega

theorem lead_ge (h : lead? b = some (count, low, high, bits)) : 0x80 ≤ b.toNat := by
  obtain ⟨_, _, two | three | four⟩ := lead_cases h <;> omega

theorem follow_octet {n : Nat} (least : low ≤ n) (most : n ≤ high) (octet : n < 256) :
    follow taken (count + 1) low high bits (UInt8.ofNat n :: rest) =
      follow (taken + 1) count 0x80 0xbf (bits * 64 + (n - 0x80)) rest := by
  have value : (UInt8.ofNat n).toNat = n := UInt8.toNat_ofNat_of_lt' octet
  rw [follow, value, if_pos ⟨least, most⟩]

theorem follow_zero : follow taken 0 low high bits rest = .ok (bits, rest) := rfl

theorem follow_eq_ok (h : follow taken (count + 1) low high bits rest = .ok (code, after)) :
    ∃ (c : UInt8) (later : Octets), rest = c :: later ∧ low ≤ c.toNat ∧ c.toNat ≤ high ∧
      follow (taken + 1) count 0x80 0xbf (bits * 64 + (c.toNat - 0x80)) later =
        .ok (code, after) := by
  cases rest with
  | nil => cases h
  | cons c later =>
      rw [follow] at h
      split at h
      · next within => exact ⟨c, later, rfl, within.1, within.2, h⟩
      · cases h

theorem follow_zero_eq_ok (h : follow taken 0 low high bits rest = .ok (code, after)) :
    code = bits ∧ after = rest := by
  cases h
  exact ⟨rfl, rfl⟩

/-- A character of several octets: the first one announces those that follow. -/
theorem decodeFrom_lead (lead : lead? b = some (count, low, high, bits))
    (followed : follow 1 count low high bits rest = .ok (code, after)) :
    decodeFrom position (b :: rest) =
      (decodeFrom (position + 1 + count) after).map (Char.ofNat code :: ·) := by
  rw [decodeFrom, if_neg (Nat.not_lt.2 (lead_ge lead))]
  split
  · next none => simp [lead] at none
  · next announced =>
    rw [lead] at announced
    cases announced
    split
    · next wrong => simp [followed] at wrong
    · next right =>
      rw [followed] at right
      cases right
      rfl

/-! First octets that are written. The bounds that they set for the next one are met, since the
character is no surrogate, within the range, and not small enough for fewer octets. -/

theorem lead_two {n : Nat} (least : 0x80 ≤ n) (most : n < 0x800) :
    lead? (UInt8.ofNat (0xc0 + n / 64)) = some (1, 0x80, 0xbf, n / 64) := by
  rw [lead_ofNat (by omega), if_neg (by omega), if_pos (by omega), Nat.add_sub_cancel_left]

theorem lead_three {n : Nat} (valid : n.isValidChar) (least : 0x800 ≤ n) (most : n < 0x10000) :
    ∃ low high, lead? (UInt8.ofNat (0xe0 + n / 4096)) = some (2, low, high, n / 4096) ∧
      low ≤ 0x80 + n / 64 % 64 ∧ 0x80 + n / 64 % 64 ≤ high := by
  unfold Nat.isValidChar at valid
  rw [lead_ofNat (by omega)]
  by_cases shortest : n / 4096 = 0
  · exact ⟨0xa0, 0xbf, by simp [shortest], by omega, by omega⟩
  by_cases surrogates : n / 4096 = 13
  · exact ⟨0x80, 0x9f, by simp [surrogates], by omega, by omega⟩
  refine ⟨0x80, 0xbf, ?_, by omega, by omega⟩
  rw [if_neg (by omega), if_neg (by omega), if_neg (by omega), if_neg (by omega),
    if_pos (by omega), Nat.add_sub_cancel_left]

theorem lead_four {n : Nat} (valid : n.isValidChar) (least : 0x10000 ≤ n) :
    ∃ low high, lead? (UInt8.ofNat (0xf0 + n / 262144)) = some (3, low, high, n / 262144) ∧
      low ≤ 0x80 + n / 4096 % 64 ∧ 0x80 + n / 4096 % 64 ≤ high := by
  unfold Nat.isValidChar at valid
  rw [lead_ofNat (by omega)]
  by_cases shortest : n / 262144 = 0
  · exact ⟨0x90, 0xbf, by simp [shortest], by omega, by omega⟩
  by_cases highest : n / 262144 = 4
  · exact ⟨0x80, 0x8f, by simp [highest], by omega, by omega⟩
  refine ⟨0x80, 0xbf, ?_, by omega, by omega⟩
  rw [if_neg (by omega), if_neg (by omega), if_neg (by omega), if_neg (by omega),
    if_neg (by omega), if_neg (by omega), if_pos (by omega), Nat.add_sub_cancel_left]

/-! Reading undoes writing. -/

theorem decodeFrom_encodeChar (c : Char) (position : Nat) (rest : Octets) :
    decodeFrom position (String.utf8EncodeChar c ++ rest) =
      (decodeFrom (position + (String.utf8EncodeChar c).length) rest).map (c :: ·) := by
  have valid : c.toNat.isValidChar := c.valid
  by_cases one : c.toNat < 0x80
  · have value : (UInt8.ofNat c.toNat).toNat = c.toNat :=
      UInt8.toNat_ofNat_of_lt' (show c.toNat < 256 by omega)
    rw [encodeChar_one one, List.singleton_append, decodeFrom, value, if_pos one, Char.ofNat_toNat]
    rfl
  by_cases two : c.toNat < 0x800
  · have lead := lead_two (Nat.le_of_not_lt one) two
    have code : c.toNat / 64 * 64 + (0x80 + c.toNat % 64 - 0x80) = c.toNat := by omega
    have followed : follow 1 1 0x80 0xbf (c.toNat / 64)
        (UInt8.ofNat (0x80 + c.toNat % 64) :: rest) = .ok (c.toNat, rest) := by
      rw [follow_octet (by omega) (by omega) (by omega), follow_zero, code]
    rw [encodeChar_two (by omega) two, List.cons_append, List.singleton_append,
      decodeFrom_lead lead followed, Char.ofNat_toNat]
    rfl
  by_cases three : c.toNat < 0x10000
  · obtain ⟨low, high, lead, least, most⟩ := lead_three valid (Nat.le_of_not_lt two) three
    have code : (c.toNat / 4096 * 64 + (0x80 + c.toNat / 64 % 64 - 0x80)) * 64 +
        (0x80 + c.toNat % 64 - 0x80) = c.toNat := by omega
    have followed : follow 1 2 low high (c.toNat / 4096)
        (UInt8.ofNat (0x80 + c.toNat / 64 % 64) :: UInt8.ofNat (0x80 + c.toNat % 64) :: rest) =
          .ok (c.toNat, rest) := by
      rw [follow_octet least most (by omega), follow_octet (by omega) (by omega) (by omega),
        follow_zero, code]
    rw [encodeChar_three (by omega) three, List.cons_append, List.cons_append,
      List.singleton_append, decodeFrom_lead lead followed, Char.ofNat_toNat]
    rfl
  · obtain ⟨low, high, lead, least, most⟩ := lead_four valid (Nat.le_of_not_lt three)
    have code : ((c.toNat / 262144 * 64 + (0x80 + c.toNat / 4096 % 64 - 0x80)) * 64 +
        (0x80 + c.toNat / 64 % 64 - 0x80)) * 64 + (0x80 + c.toNat % 64 - 0x80) = c.toNat := by
      omega
    have followed : follow 1 3 low high (c.toNat / 262144)
        (UInt8.ofNat (0x80 + c.toNat / 4096 % 64) :: UInt8.ofNat (0x80 + c.toNat / 64 % 64) ::
          UInt8.ofNat (0x80 + c.toNat % 64) :: rest) = .ok (c.toNat, rest) := by
      rw [follow_octet least most (by omega), follow_octet (by omega) (by omega) (by omega),
        follow_octet (by omega) (by omega) (by omega), follow_zero, code]
    rw [encodeChar_four (by omega), List.cons_append, List.cons_append, List.cons_append,
      List.singleton_append, decodeFrom_lead lead followed, Char.ofNat_toNat]
    rfl

theorem decodeFrom_encodeChars (cs : List Char) (position : Nat) :
    decodeFrom position (encodeChars cs) = .ok cs := by
  induction cs generalizing position with
  | nil => rw [encodeChars, List.flatMap_nil, decodeFrom]
  | cons c cs ih =>
      have parts : encodeChars (c :: cs) = String.utf8EncodeChar c ++ encodeChars cs := rfl
      rw [parts, decodeFrom_encodeChar, ih]
      rfl

theorem decode_encode (text : String) : decode (encode text) = .ok text := by
  rw [decode, encode, decodeFrom_encodeChars]
  exact congrArg Except.ok text.ofList_toList

theorem encode_injective {s t : String} (h : encode s = encode t) : s = t := by
  have same := (decode_encode s).symm.trans (h ▸ decode_encode t)
  cases same
  rfl

/-! What is read is what would be written. -/

theorem toNat_ofNat {n : Nat} (h : n.isValidChar) : (Char.ofNat n).toNat = n := by
  rw [Char.ofNat, dif_pos h]
  rfl

theorem eq_ofNat {n : Nat} (h : b.toNat = n) : b = UInt8.ofNat n := by
  rw [← h, UInt8.ofNat_toNat]

/-- Several octets that are read as a character are the spelling of that character. -/
theorem encodeChar_of_follow (lead : lead? b = some (count, low, high, bits))
    (followed : follow 1 count low high bits rest = .ok (code, after)) :
    String.utf8EncodeChar (Char.ofNat code) ++ after = b :: rest := by
  obtain ⟨least, most, two | three | four⟩ := lead_cases lead
  · obtain ⟨rfl, first, lower, upper⟩ := two
    obtain ⟨c, later, rfl, low1, high1, followed⟩ := follow_eq_ok followed
    obtain ⟨sum, ends⟩ := follow_zero_eq_ok followed
    have value := toNat_ofNat (n := code) (by unfold Nat.isValidChar; omega)
    rw [encodeChar_two (by omega) (by omega), value, ends,
      eq_ofNat (b := b) (n := 0xc0 + code / 64) (by omega),
      eq_ofNat (b := c) (n := 0x80 + code % 64) (by omega)]
    rfl
  · obtain ⟨rfl, first, upper, shortest, surrogates⟩ := three
    obtain ⟨c, _, rfl, low1, high1, followed⟩ := follow_eq_ok followed
    obtain ⟨d, later, rfl, low2, high2, followed⟩ := follow_eq_ok followed
    obtain ⟨sum, ends⟩ := follow_zero_eq_ok followed
    have value := toNat_ofNat (n := code) (by unfold Nat.isValidChar; omega)
    rw [encodeChar_three (by omega) (by omega), value, ends,
      eq_ofNat (b := b) (n := 0xe0 + code / 4096) (by omega),
      eq_ofNat (b := c) (n := 0x80 + code / 64 % 64) (by omega),
      eq_ofNat (b := d) (n := 0x80 + code % 64) (by omega)]
    rfl
  · obtain ⟨rfl, first, upper, shortest, highest⟩ := four
    obtain ⟨c, _, rfl, low1, high1, followed⟩ := follow_eq_ok followed
    obtain ⟨d, _, rfl, low2, high2, followed⟩ := follow_eq_ok followed
    obtain ⟨e, later, rfl, low3, high3, followed⟩ := follow_eq_ok followed
    obtain ⟨sum, ends⟩ := follow_zero_eq_ok followed
    have value := toNat_ofNat (n := code) (by unfold Nat.isValidChar; omega)
    rw [encodeChar_four (by omega), value, ends,
      eq_ofNat (b := b) (n := 0xf0 + code / 262144) (by omega),
      eq_ofNat (b := c) (n := 0x80 + code / 4096 % 64) (by omega),
      eq_ofNat (b := d) (n := 0x80 + code / 64 % 64) (by omega),
      eq_ofNat (b := e) (n := 0x80 + code % 64) (by omega)]
    rfl

theorem cons_eq_ok {r : Except Fault (List Char)} {c : Char} {cs : List Char}
    (h : r.map (c :: ·) = .ok cs) : ∃ ds, r = .ok ds ∧ cs = c :: ds := by
  cases r with
  | error fault => cases h
  | ok ds =>
      cases h
      exact ⟨ds, rfl, rfl⟩

theorem encodeChars_of_decodeFrom {bs : Octets} {cs : List Char}
    (h : decodeFrom position bs = .ok cs) : encodeChars cs = bs := by
  fun_induction decodeFrom position bs generalizing cs with
  | case1 =>
      cases h
      rfl
  | case2 position b rest one ih =>
      obtain ⟨ds, read, rfl⟩ := cons_eq_ok h
      have value := toNat_ofNat (n := b.toNat) (by unfold Nat.isValidChar; omega)
      have parts : encodeChars (Char.ofNat b.toNat :: ds) =
          String.utf8EncodeChar (Char.ofNat b.toNat) ++ encodeChars ds := rfl
      rw [parts, ih read, encodeChar_one (by omega), value, UInt8.ofNat_toNat]
      rfl
  | case3 => cases h
  | case4 => cases h
  | case5 position b rest several count low high bits lead code after followed ih =>
      obtain ⟨ds, read, rfl⟩ := cons_eq_ok h
      have parts : encodeChars (Char.ofNat code :: ds) =
          String.utf8EncodeChar (Char.ofNat code) ++ encodeChars ds := rfl
      rw [parts, ih read]
      exact encodeChar_of_follow lead followed

theorem encode_of_decode {bs : Octets} {text : String} (h : decode bs = .ok text) :
    encode text = bs := by
  unfold decode at h
  cases read : decodeFrom 0 bs with
  | error fault => simp [read, Except.map] at h
  | ok cs =>
      rw [read] at h
      cases h
      rw [encode, String.toList_ofList, encodeChars_of_decodeFrom read]

end ContentTracker.Utf8
