import ContentTracker.Base32
import ContentTracker.Proofs.Octets
import ContentTracker.Proofs.Text.Blank

/-! Base32 text reads back as the octets that it spells. -/

namespace ContentTracker.Base32

/-- The values of the `count` digits of a number, most significant first. -/
def values : (count : Nat) → Nat → List Nat
  | 0, _ => []
  | count + 1, n => values count (n / 32) ++ [n % 32]

theorem digits_eq_map (count n : Nat) : digits count n = (values count n).map digit := by
  induction count generalizing n with
  | zero => rfl
  | succ count ih => rw [digits, values, ih, List.map_append, List.map_singleton]

theorem values_lt {count n v : Nat} (h : v ∈ values count n) : v < 32 := by
  induction count generalizing n with
  | zero => simp [values] at h
  | succ count ih =>
      rcases List.mem_append.1 h with earlier | last
      · exact ih earlier
      · rw [List.mem_singleton.1 last]
        exact Nat.mod_lt _ (by decide)

theorem number_concat (vs : List Nat) (v : Nat) : number (vs ++ [v]) = number vs * 32 + v := by
  simp [number]

theorem number_append (vs us : List Nat) :
    number (vs ++ us) = number vs * 32 ^ us.length + number us := by
  induction us using List.reverseRecOn with
  | nil => simp [number]
  | append_singleton us u ih =>
      rw [← List.append_assoc, number_concat, number_concat, ih, List.length_append,
        List.length_singleton, Nat.pow_succ, Nat.add_mul, Nat.mul_assoc, Nat.add_assoc]

theorem number_values {count n : Nat} (h : n < 32 ^ count) : number (values count n) = n := by
  induction count generalizing n with
  | zero =>
      have : n = 0 := by simpa using h
      subst this
      rfl
  | succ count ih =>
      have smaller : n / 32 < 32 ^ count := by
        rw [Nat.div_lt_iff_lt_mul (by decide)]
        rwa [Nat.pow_succ] at h
      rw [values, number_concat, ih smaller]
      omega

/-- Each digit is ASCII, stands for its own value, and is in lower case already. -/
theorem digit_spec {v : Nat} (h : v < 32) : ((128 ≤ (digit v).toNat || digit v = '=') = false) ∧
    value? (digit v) = some v ∧ lowerChar (digit v) = digit v := by
  revert v
  decide

theorem mapM_value? {vs : List Nat} (h : ∀ v ∈ vs, v < 32) :
    (vs.map digit).mapM value? = some vs := by
  induction vs with
  | nil => rfl
  | cons v vs ih =>
      rw [List.map_cons, List.mapM_cons, (digit_spec (h v (by simp))).2.1,
        ih fun u member => h u (List.mem_cons_of_mem v member)]
      rfl

theorem length_values (count n : Nat) : (values count n).length = count := by
  induction count generalizing n with
  | zero => rfl
  | succ count ih => simp [values, ih]

theorem octetsOf_group (n : Nat) (vs : List Nat) :
    octetsOf (values 8 n ++ vs) = Octets.ofNat 5 (number (values 8 n)) ++ octetsOf vs := by
  simp only [values, List.nil_append, List.cons_append, octetsOf]

theorem octetsOf_short {vs : List Nat} (short : vs.length < 8) :
    octetsOf vs = Octets.ofNat (vs.length * 5 / 8)
      (number vs / twoTo (vs.length * 5 - vs.length * 5 / 8 * 8)) := by
  unfold octetsOf
  split
  · simp only [List.length_cons] at short
    omega
  · rfl

/-- The digits `vs` are those of some octets. As one number they are that of the octets with zero
bits behind it, and the octets can be taken out of them again. -/
structure Spell (vs : List Nat) (bs : Octets) : Prop where
  small : ∀ v ∈ vs, v < 32
  room : bs.length * 8 ≤ vs.length * 5
  number : number vs = Octets.toNat bs * 2 ^ (vs.length * 5 - bs.length * 8)
  octets : octetsOf vs = bs
  possible : ¬ (vs.length % 8 = 1 ∨ vs.length % 8 = 3 ∨ vs.length % 8 = 6)

/-- A last group of fewer than five octets: the bits that fill it up to a whole digit are dropped
again. -/
theorem spell_filled (count size fill : Nat) {bs : Octets} (short : count < 8)
    (octets : bs.length = size) (whole : count * 5 / 8 = size) (rest : count * 5 - size * 8 = fill)
    (fits : 256 ^ size * twoTo fill = 32 ^ count)
    (possible : ¬ (count % 8 = 1 ∨ count % 8 = 3 ∨ count % 8 = 6)) :
    Spell (values count (Octets.toNat bs * twoTo fill)) bs := by
  subst octets
  have small : Octets.toNat bs * twoTo fill < 32 ^ count := by
    rw [← fits]
    exact Nat.mul_lt_mul_of_pos_right bs.toNat_lt (twoTo_pos fill)
  refine ⟨fun _ => values_lt, ?_, ?_, ?_, ?_⟩
  · rw [length_values]
    omega
  · rw [number_values small, length_values, rest]
    rfl
  · rw [octetsOf_short (by rwa [length_values]), length_values, number_values small, whole, rest,
      Nat.mul_div_cancel _ (twoTo_pos fill), Octets.ofNat_toNat]
  · rwa [length_values]

/-- Five octets in front are eight digits in front. -/
theorem Spell.behind {vs : List Nat} {first bs : Octets} (h : Spell vs bs)
    (five : first.length = 5) :
    Spell (values 8 (Octets.toNat first) ++ vs) (first ++ bs) := by
  have fits : Octets.toNat first < 32 ^ 8 := by
    have bound := first.toNat_lt
    rw [five] at bound
    exact Nat.lt_of_lt_of_eq bound (by decide)
  have room := h.room
  refine ⟨fun v member => ?_, ?_, ?_, ?_, ?_⟩
  · rcases List.mem_append.1 member with early | late
    · exact values_lt early
    · exact h.small v late
  · rw [List.length_append, List.length_append, length_values, five]
    omega
  · have digits : (32 : Nat) ^ vs.length =
        256 ^ bs.length * 2 ^ (vs.length * 5 - bs.length * 8) := by
      rw [show (32 : Nat) = 2 ^ 5 from rfl, show (256 : Nat) = 2 ^ 8 from rfl, ← Nat.pow_mul,
        ← Nat.pow_mul, ← Nat.pow_add]
      congr 1
      omega
    have fill : (8 + vs.length) * 5 - (5 + bs.length) * 8 = vs.length * 5 - bs.length * 8 := by
      omega
    rw [number_append, number_values fits, h.number, digits, List.length_append, length_values,
      List.length_append, five, fill, Octets.toNat_append, Nat.add_mul, Nat.mul_assoc]
  · rw [octetsOf_group, number_values fits, h.octets, ← five, Octets.ofNat_toNat]
  · rw [List.length_append, length_values, Nat.add_mod_left]
    exact h.possible

theorem encodeChars_spell (bs : Octets) : ∃ vs, encodeChars bs = vs.map digit ∧ Spell vs bs := by
  fun_induction encodeChars bs with
  | case1 => exact ⟨[], rfl, by simp, Nat.le_refl _, rfl, rfl, by decide⟩
  | case2 a =>
      exact ⟨_, digits_eq_map 2 _,
        spell_filled 2 1 2 (by decide) rfl rfl rfl (by decide) (by decide)⟩
  | case3 a b =>
      exact ⟨_, digits_eq_map 4 _,
        spell_filled 4 2 4 (by decide) rfl rfl rfl (by decide) (by decide)⟩
  | case4 a b c =>
      exact ⟨_, digits_eq_map 5 _,
        spell_filled 5 3 1 (by decide) rfl rfl rfl (by decide) (by decide)⟩
  | case5 a b c d =>
      exact ⟨_, digits_eq_map 7 _,
        spell_filled 7 4 3 (by decide) rfl rfl rfl (by decide) (by decide)⟩
  | case6 a b c d e rest ih =>
      obtain ⟨vs, spelled, spell⟩ := ih
      have behind := spell.behind (show [a, b, c, d, e].length = 5 from rfl)
      exact ⟨_, by rw [digits_eq_map, spelled, List.map_append], behind⟩

/-! Case. The digits of a text in any case have the values of those in lower case. -/

theorem lowerChar_eq_toLower (c : Char) : lowerChar c = c.toLower :=
  (Text.toLower_eq c).symm

theorem toList_toLower (text : String) : text.toLower.toList = text.toList.map lowerChar := by
  rw [Text.toList_toLower]
  exact List.map_congr_left fun c _ => (lowerChar_eq_toLower c).symm

theorem value?_lowerChar (c : Char) : value? (lowerChar c) = value? c := by
  unfold lowerChar
  split
  · next upper =>
    unfold value?
    rw [Text.toNat_lower upper]
    grind
  · rfl

/-- Lower case takes no character into ASCII, and none to the sign of padding. -/
theorem native_of_lowerChar {c : Char}
    (h : (128 ≤ (lowerChar c).toNat || lowerChar c = '=') = false) :
    (128 ≤ c.toNat || c = '=') = false := by
  unfold lowerChar at h
  split at h
  · next upper =>
    have letter : c ≠ '=' := by
      rintro rfl
      exact absurd upper.1 (by decide)
    simp [letter]
    omega
  · exact h

theorem native_of_spelled {cs : List Char} {bs : Octets}
    (spelled : cs.map lowerChar = encodeChars bs) {c : Char} (member : c ∈ cs) :
    (128 ≤ c.toNat || c = '=') = false := by
  obtain ⟨vs, digits, spell⟩ := encodeChars_spell bs
  have low : lowerChar c ∈ vs.map digit := digits ▸ spelled ▸ List.mem_map_of_mem member
  obtain ⟨v, place, same⟩ := List.mem_map.1 low
  have fits := (digit_spec (spell.small v place)).1
  rw [same] at fits
  exact native_of_lowerChar fits

/-- A text is read as the octets that it is the spelling of, in whatever case. -/
theorem decodeChars_eq_ok {cs : List Char} {bs : Octets} :
    decodeChars cs = .ok bs ↔ cs.map lowerChar = encodeChars bs := by
  constructor
  · intro h
    unfold decodeChars at h
    split at h
    · cases h
    split at h
    · cases h
    split at h
    · cases h
    dsimp only at h
    split at h
    · next spelled =>
      cases h
      exact spelled.symm
    · cases h
  · intro spelled
    obtain ⟨vs, digits, spell⟩ := encodeChars_spell bs
    have lower := spelled.trans digits
    have native : cs.any (fun c => 128 ≤ c.toNat || c = '=') = false :=
      List.any_eq_false.2 fun c member => by simpa using native_of_spelled spelled member
    have read : cs.mapM value? = some vs := by
      rw [← mapM_value? spell.small, ← lower, List.mapM_map]
      exact congrArg (cs.mapM ·) (funext value?_lowerChar).symm
    have size : cs.length = vs.length := by simpa using congrArg List.length lower
    rw [decodeChars, native, read]
    simp only [Bool.false_eq_true, if_false, size, if_neg spell.possible, spell.octets,
      ← spelled, if_true]

theorem decode_eq_ok {text : String} {bs : Octets} :
    decode text = .ok bs ↔ text.toLower = encode bs := by
  rw [decode, decodeChars_eq_ok, ← toList_toLower, encode, ← String.toList_inj,
    String.toList_ofList]

theorem ascii_of_decode {text : String} {bs : Octets} (h : decode text = .ok bs) :
    ∀ c ∈ text.toList, c.toNat < 128 := by
  intro c member
  have native := native_of_spelled (decodeChars_eq_ok.1 h) member
  simp only [Bool.or_eq_false_iff, decide_eq_false_iff_not] at native
  exact Nat.lt_of_not_le native.1

theorem toLower_encode (bs : Octets) : (encode bs).toLower = encode bs := by
  obtain ⟨vs, spelled, spell⟩ := encodeChars_spell bs
  rw [← String.toList_inj, toList_toLower, encode, String.toList_ofList, spelled, List.map_map]
  exact List.map_congr_left fun v member => (digit_spec (spell.small v member)).2.2

theorem decode_encode (bs : Octets) : decode (encode bs) = .ok bs :=
  decode_eq_ok.2 (toLower_encode bs)

/-- Eight bits an octet and five a digit, rounded up. -/
theorem length_encodeChars (bs : Octets) :
    (encodeChars bs).length = (bs.length * 8 + 4) / 5 := by
  fun_induction encodeChars bs with
  | case1 => rfl
  | case2 | case3 | case4 | case5 => simp [length_digits]
  | case6 a b c d e rest ih =>
      rw [List.length_append, length_digits, ih]
      simp only [List.length_cons]
      omega

theorem length_encode (bs : Octets) : (encode bs).length = (bs.length * 8 + 4) / 5 := by
  rw [encode, String.length_ofList, length_encodeChars]

theorem length_toLower (text : String) : text.toLower.length = text.length := by
  rw [← String.length_toList, toList_toLower, List.length_map, String.length_toList]

/-- A text that is read is as long as what is written for its octets. -/
theorem length_of_decode {text : String} {bs : Octets} (h : decode text = .ok bs) :
    text.length = (bs.length * 8 + 4) / 5 := by
  rw [← length_toLower, decode_eq_ok.1 h, length_encode]

end ContentTracker.Base32
