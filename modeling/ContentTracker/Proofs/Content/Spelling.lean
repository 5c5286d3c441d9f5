import ContentTracker.Proofs.Specifier.RoundTrip

/-! Which texts spell which octets. Base32 text, digests and content addresses are read from their
spellings only, in either case of their letters, and every other text is refused by an error of
value. -/

namespace ContentTracker

open Specifier (IsHex)

/-! Refusals. -/

/-- A reading fails, and the same with every check in its place ends in an error of value. -/
def Declined {ε α : Type} (plain : Except ε α) (checked : Except Problem α)
    (message : ε → String) : Prop :=
  ∃ fault, plain = .error fault ∧ checked = .error (.badValue (message fault))

theorem declined_of_none {ε α : Type} {plain : Except ε α} {checked : Except Problem α}
    {message : ε → String} (same : checked = plain.mapError fun fault => .badValue (message fault))
    (none : ∀ a, plain ≠ .ok a) : Declined plain checked message := by
  cases read : plain with
  | ok a => exact absurd read (none a)
  | error fault => exact ⟨fault, rfl, by rw [same, read]; rfl⟩

/-! Base32. -/

/-- Octets in base32 are the digits of their bits, five at a time from the first, with zero bits
behind the last octet up to a whole digit. A text is read as the octets that it is the spelling of,
in either case of its letters, and refused if it is no such spelling. -/
theorem Base32.canonical_spellings :
    (∀ bs, ∃ vs, encode bs = String.ofList (vs.map digit) ∧ (∀ v ∈ vs, v < 32) ∧
      number vs = Octets.toNat bs * 2 ^ (vs.length * 5 - bs.length * 8)) ∧
    (∀ bs, ((encode bs).length : Int) = encodedLength bs.length) ∧
    (∀ text bs, decode text = .ok bs ↔
      (∀ c ∈ text.toList, c.toNat < 128) ∧ text.toLower = encode bs) ∧
    (∀ text, (∀ bs, ¬ ((∀ c ∈ text.toList, c.toNat < 128) ∧ text.toLower = encode bs)) →
      Declined (decode text) (checked text) Fault.message) ∧
    (∀ bs, decode (encode bs) = .ok bs) ∧
    ∀ text bs, decode text = .ok bs → encode bs = text.toLower := by
  have exact (text : String) (bs : Octets) : decode text = .ok bs ↔
      (∀ c ∈ text.toList, c.toNat < 128) ∧ text.toLower = encode bs :=
    ⟨fun read => ⟨ascii_of_decode read, decode_eq_ok.1 read⟩, fun h => decode_eq_ok.2 h.2⟩
  refine ⟨fun bs => ?_, fun bs => ?_, exact, fun text none => ?_, decode_encode,
    fun _ _ read => (decode_eq_ok.1 read).symm⟩
  · obtain ⟨vs, spelled, spell⟩ := encodeChars_spell bs
    exact ⟨vs, congrArg String.ofList spelled, spell.small, spell.number⟩
  · rw [length_encode, encodedLength, Int.fdiv_eq_ediv_of_nonneg _ (by decide)]
    omega
  · exact declined_of_none (base32_checked text) fun bs read => none bs ((exact text bs).1 read)

/-! Digests. -/

namespace Digest

/-- The text is 64 hexadecimal digits that spell the digest. -/
structure SpelledInHex (d : Digest) (text : String) : Prop extends IsHex text where
  spells : text.toLower = d.octets.toHex

/-- The text is 52 characters of base32 that spell the digest. -/
structure SpelledInBase32 (d : Digest) (text : String) : Prop where
  length : text.length = 52
  ascii : ∀ c ∈ text.toList, c.toNat < 128
  spells : text.toLower = Base32.encode d.octets

inductive Spelled (d : Digest) (text : String) : Prop
  | hex : d.SpelledInHex text → d.Spelled text
  | base32 : d.SpelledInBase32 text → d.Spelled text

variable {text : String} {d : Digest}

theorem ofHex_eq_ok (size : text.length = 64) :
    Octets.ofHex text = .ok d.octets ↔ d.SpelledInHex text := by
  rw [Octets.ofHex_eq_ok (by rw [size, d.length_octets])]
  exact ⟨fun h => ⟨⟨size, h.1⟩, h.2⟩, fun h => ⟨h.digits, h.spells⟩⟩

/-- A spelling in base32 has the one length that the reading looks for. -/
theorem decode_eq_ok : Base32.decode text = .ok d.octets ↔ d.SpelledInBase32 text := by
  constructor
  · intro read
    have size := Base32.length_of_decode read
    rw [d.length_octets] at size
    exact ⟨size, Base32.ascii_of_decode read, Base32.decode_eq_ok.1 read⟩
  · exact fun h => Base32.decode_eq_ok.2 h.spells

/-- The length of a text decides how it is to be read, so no text is in both forms. -/
theorem parse_eq_ok : parse text = .ok d ↔ d.Spelled text := by
  by_cases size : text.length = 64
  · have read := Hash.parse_hex (h := ⟨d⟩) size
    rw [Hash.parse_eq_ok, ofHex_eq_ok size] at read
    refine read.trans ⟨.hex, fun h => ?_⟩
    cases h with
    | hex h => exact h
    | base32 h =>
        have short := h.length
        omega
  · unfold parse
    dsimp only
    rw [if_neg size]
    split
    · have read : Base32.decode text = .ok d.octets ↔ d.Spelled text := by
        refine decode_eq_ok.trans ⟨.base32, fun h => ?_⟩
        cases h with
        | hex h => exact absurd h.length size
        | base32 h => exact h
      rw [← read]
      cases Base32.decode text with
      | error fault => simp
      | ok bs =>
          rw [Except.ok.injEq, ← ofOctets?_eq_some]
          dsimp only
          cases ofOctets? bs <;> simp
    · next neither =>
      refine iff_of_false nofun fun h => ?_
      cases h with
      | hex h => exact size h.length
      | base32 h => exact neither h.length

end Digest

theorem PeerId.parse_eq_ok {text : String} {p : PeerId} :
    parse text = .ok p ↔ Digest.parse text = .ok p.key := by
  unfold parse
  cases Digest.parse text with
  | error fault => simp [Except.map]
  | ok d =>
      obtain ⟨d'⟩ := p
      simp [Except.map]

/-! Content addresses. -/

namespace ContentAddress

/-- A raw blob is spelled by the digits of its hash, and a hash sequence by an `s` before them. -/
inductive Spelled : ContentAddress → String → Prop
  | raw {d : Digest} {text : String} : d.SpelledInHex text → Spelled ⟨⟨d⟩, .raw⟩ text
  | hashSeq {d : Digest} {c : Char} {text digits : String} : text.toList = c :: digits.toList →
      c = 's' ∨ c = 'S' → d.SpelledInHex digits → Spelled ⟨⟨d⟩, .hashSeq⟩ text

variable {text : String} {a : ContentAddress}

theorem parse_marked {c : Char} {digits : String} (chars : text.toList = c :: digits.toList)
    (marked : c = 's' ∨ c = 'S') (size : digits.length = 64) :
    parse text = .ok a ↔ a.format = .hashSeq ∧ a.hash.digest.SpelledInHex digits := by
  rw [← Digest.ofHex_eq_ok size, ← ofHex_eq_ok]
  unfold parse
  rw [← String.length_toList] at size
  rw [chars]
  dsimp only
  rw [if_neg (by omega), if_pos ⟨size, marked⟩, String.ofList_toList]

theorem parse_eq_ok : parse text = .ok a ↔ a.Spelled text := by
  constructor
  · intro read
    obtain ⟨⟨d⟩, format⟩ := a
    by_cases size : text.length = 64
    · obtain ⟨rfl, hex⟩ := (parse_hex size).1 read
      exact .raw ((Digest.ofHex_eq_ok size).1 hex)
    · have other := read
      unfold parse at other
      rw [← String.length_toList] at size
      split at other
      · next c rest chars =>
        rw [chars, List.length_cons] at size
        rw [if_neg (by omega)] at other
        split at other
        · next marked =>
          have whole : text.toList = c :: (String.ofList rest).toList := by
            rw [String.toList_ofList, chars]
          obtain ⟨rfl, hex⟩ := (parse_marked whole marked.2
            (by rw [String.length_ofList, marked.1])).1 read
          exact .hashSeq whole marked.2 hex
        · cases other
      · cases other
  · intro spelled
    cases spelled with
    | raw hex => exact (parse_hex hex.length).2 ⟨rfl, (Digest.ofHex_eq_ok hex.length).2 hex⟩
    | hashSeq chars marked hex => exact (parse_marked chars marked hex.length).2 ⟨rfl, hex⟩

end ContentAddress

/-! Blanks. Reading hexadecimal digits passes over blanks, but a text with blanks is too long. -/

theorem Digest.SpelledInHex.solid {text : String} {d : Digest} (h : d.SpelledInHex text) :
    ∀ c ∈ text.toList, Text.isBlank c = false :=
  Text.solid_of_toLower fun _ member => Octets.solid_toHex (h.spells ▸ member)

theorem Digest.Spelled.solid {text : String} {d : Digest} (h : d.Spelled text) :
    ∀ c ∈ text.toList, Text.isBlank c = false := by
  cases h with
  | hex h => exact h.solid
  | base32 h =>
      exact Text.solid_of_toLower fun c member => Base32.solid_encode (h.spells ▸ member)

theorem ContentAddress.Spelled.solid {text : String} {a : ContentAddress} (h : a.Spelled text) :
    ∀ c ∈ text.toList, Text.isBlank c = false := by
  cases h with
  | raw h => exact h.solid
  | hashSeq chars marked h =>
      rw [chars, List.forall_mem_cons]
      exact ⟨by obtain rfl | rfl := marked <;> rfl, h.solid⟩

/-- Hashes and node ids are read from the spellings of digests, and content addresses from theirs.
Every other text is refused, one with a blank anywhere in all three ways. -/
theorem digest_spellings (text : String) :
    (∀ d, Hash.parse text = .ok ⟨d⟩ ↔ d.Spelled text) ∧
    (∀ d, PeerId.parse text = .ok ⟨d⟩ ↔ d.Spelled text) ∧
    (∀ a, ContentAddress.parse text = .ok a ↔ a.Spelled text) ∧
    ((∀ d : Digest, ¬ d.Spelled text) ∨ (∃ c ∈ text.toList, Text.isBlank c) →
      Declined (Hash.parse text) (Hash.checked text) Hash.faultMessage ∧
        Declined (PeerId.parse text) (PeerId.checkedText text) PeerId.faultMessage) ∧
    ((∀ a : ContentAddress, ¬ a.Spelled text) ∨ (∃ c ∈ text.toList, Text.isBlank c) →
      Declined (ContentAddress.parse text) (ContentAddress.checkedText text)
        ContentAddress.Fault.message) := by
  have unspelled {α : Type} {spelled : α → Prop}
      (solid : ∀ a, spelled a → ∀ c ∈ text.toList, Text.isBlank c = false)
      (h : (∀ a, ¬ spelled a) ∨ ∃ c ∈ text.toList, Text.isBlank c) : ∀ a, ¬ spelled a := by
    obtain none | ⟨c, member, blank⟩ := h
    · exact none
    · intro a holds
      rw [solid a holds c member] at blank
      cases blank
  refine ⟨fun d => Hash.parse_eq_ok.trans Digest.parse_eq_ok,
    fun d => PeerId.parse_eq_ok.trans Digest.parse_eq_ok, fun a => ContentAddress.parse_eq_ok,
    fun h => ?_, fun h => ?_⟩
  · have none := unspelled (fun d => Digest.Spelled.solid (d := d)) h
    exact ⟨declined_of_none (hash_checked text) fun h read =>
        none h.digest (Digest.parse_eq_ok.1 (Hash.parse_eq_ok.1 read)),
      declined_of_none (peer_checked text) fun p read =>
        none p.key (Digest.parse_eq_ok.1 (PeerId.parse_eq_ok.1 read))⟩
  · have none := unspelled (fun a => ContentAddress.Spelled.solid (a := a)) h
    exact declined_of_none (address_checked text) fun a read =>
      none a (ContentAddress.parse_eq_ok.1 read)

end ContentTracker
