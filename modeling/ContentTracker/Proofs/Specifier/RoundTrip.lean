import ContentTracker.Proofs.Specifier.Precedence
import ContentTracker.Proofs.Text.Blank

/-! The text of a specifier is read as a specifier of the same content and the same host. The one
form that is lost is that of a raw blob's address, whose text is that of its hash. -/

namespace ContentTracker

/-! Characters of texts. -/

theorem Octets.isBlank_hexDigit {n : Nat} (h : n < 16) : Text.isBlank (hexDigit n) = false := by
  revert n
  decide

theorem Base32.isBlank_digit {v : Nat} (h : v < 32) : Text.isBlank (digit v) = false := by
  revert v
  decide

theorem Octets.solid_toHex {bs : Octets} {c : Char} (h : c ∈ bs.toHex.toList) :
    Text.isBlank c = false := by
  rw [toHex, String.toList_ofList] at h
  obtain ⟨n, small, rfl⟩ := mem_hexChars h
  exact isBlank_hexDigit small

theorem Base32.solid_encode {bs : Octets} {c : Char} (h : c ∈ (encode bs).toList) :
    Text.isBlank c = false := by
  obtain ⟨vs, spelled, spell⟩ := encodeChars_spell bs
  rw [encode, String.toList_ofList, spelled] at h
  obtain ⟨v, member, rfl⟩ := List.mem_map.1 h
  exact isBlank_digit (spell.small v member)

theorem Hash.length_toHex (h : Hash) : h.toHex.length = 64 := by
  rw [toHex, Octets.toHex, String.length_ofList, Octets.length_hexChars, h.digest.length_octets]

theorem Hash.parse_toHex (h : Hash) : parse h.toHex = .ok h :=
  (parse_hex h.length_toHex).2 (Octets.ofHex_toHex _)

/-- The text of a hash sequence is one character longer than a hash. -/
theorem ContentAddress.parse_hashSeq (h : Hash) :
    parse ("s" ++ h.toHex) = .ok ⟨h, .hashSeq⟩ := by
  have chars : ("s" ++ h.toHex).toList = 's' :: h.toHex.toList := by
    rw [String.toList_append]
    rfl
  have size := h.length_toHex
  rw [← String.length_toList] at size
  unfold parse
  rw [chars]
  dsimp only
  rw [if_neg (by omega), if_pos ⟨size, .inl rfl⟩, String.ofList_toList]
  exact ofHex_eq_ok.2 ⟨rfl, Octets.ofHex_toHex _⟩

namespace Specifier

/-- What a ticket has any number of can be counted on the wire. Another ticket has no text. -/
def Writable (s : Specifier) : Prop := ∀ t, s = .ticket t → t.Countable

/-- What the text of a specifier is read as. -/
def reread : Specifier → Specifier
  | .hash h => .hash h
  | .address ⟨h, .raw⟩ => .hash h
  | .address ⟨h, .hashSeq⟩ => .address ⟨h, .hashSeq⟩
  | .ticket t => .ticket t.unzoned

theorem solid_text (s : Specifier) : ∀ c ∈ s.text.toList, Text.isBlank c = false := by
  intro c member
  match s with
  | .hash h => exact Octets.solid_toHex member
  | .address ⟨h, .raw⟩ => exact Octets.solid_toHex member
  | .address ⟨h, .hashSeq⟩ =>
      rw [text, ContentAddress.text, String.toList_append] at member
      rcases List.mem_append.1 member with letter | digit
      · cases List.mem_singleton.1 letter
        rfl
      · exact Octets.solid_toHex digit
  | .ticket t =>
      rw [text, Ticket.text, String.toList_append] at member
      rcases List.mem_append.1 member with letter | digit
      · have marker : Ticket.marker.toList.all fun c => !Text.isBlank c := by decide
        simpa using List.all_eq_true.1 marker c letter
      · exact Base32.solid_encode digit

/-- Only 64 digits are ambiguous, and they are read as a hash. -/
theorem parse_plain {s : Specifier} {given : String} (written : s.Writable)
    (plain : Text.strip given = s.text) : parse given = .ok s.reread := by
  have longer (size : s.text.length ≠ 64) : ¬ IsHex (Text.strip given) := by
    rw [plain]
    exact fun hex => size hex.length
  match s with
  | .hash h => exact parse_of_hash (plain ▸ h.parse_toHex)
  | .address ⟨h, .raw⟩ => exact parse_of_hash (plain ▸ h.parse_toHex)
  | .address ⟨h, .hashSeq⟩ =>
      refine parse_of_names (plain ▸ .address (ContentAddress.parse_hashSeq h)) (longer ?_)
      have size : ("s" ++ h.toHex).length = 1 + 64 := by
        rw [String.length_append, h.length_toHex]
        rfl
      exact size ▸ by decide
  | .ticket t =>
      have read := parse_text (written t rfl)
      refine parse_of_names (plain ▸ .ticket read) (longer ?_)
      have size := Ticket.length_of_parse read
      change t.text.length ≠ 64
      omega

/-- Whatever blanks stand around it, the text of a specifier is read, and what it is read as names
the same content and the same host. It is of the same kind, but that the address of a raw blob comes
back as its hash. Texts are strings of Unicode scalar values: a relay with a lone surrogate, which has
no octets, is none. -/
theorem text_returns (s : Specifier) (written : s.Writable) {before after : String}
    (leading : ∀ c ∈ before.toList, Text.isBlank c)
    (trailing : ∀ c ∈ after.toList, Text.isBlank c) :
    ∃ s', parse (before ++ s.text ++ after) = .ok s' ∧ s'.content = s.content ∧
      s'.host? = s.host? ∧ (∀ h, s = .address ⟨h, .raw⟩ → s' = .hash h) ∧
      ((∀ h, s ≠ .address ⟨h, .raw⟩) → s'.kindName = s.kindName) := by
  refine ⟨s.reread, parse_plain written (Text.strip_between leading trailing s.solid_text), ?_⟩
  match s with
  | .hash h => exact ⟨rfl, rfl, nofun, fun _ => rfl⟩
  | .address ⟨h, .raw⟩ =>
      refine ⟨rfl, rfl, ?_, fun other => absurd rfl (other h)⟩
      rintro _ ⟨⟩
      rfl
  | .address ⟨h, .hashSeq⟩ => exact ⟨rfl, rfl, nofun, fun _ => rfl⟩
  | .ticket t => exact ⟨rfl, rfl, nofun, fun _ => rfl⟩

/-- A ticket whose address does not survive, between a line end and an ideographic space. -/
theorem text_returns_unzoned :
    let a : SocketAddress := ⟨.v6 #v[0xfe80, 0, 0, 0, 0, 0, 0, 1]
      (some ⟨"eth0", by decide, by decide, by decide⟩), 4433, by decide⟩
    let t : Ticket := ⟨.make ⟨⟨List.replicate 32 7, rfl⟩⟩ (some "https://relay") [a],
      ⟨⟨⟨List.replicate 32 9, rfl⟩⟩, .hashSeq⟩⟩
    Writable (.ticket t) ∧ (∀ c ∈ "\n".toList, Text.isBlank c) ∧
      (∀ c ∈ "\u3000".toList, Text.isBlank c) ∧
      ∃ s', parse ("\n" ++ (Specifier.ticket t).text ++ "\u3000") = .ok s' ∧
        s'.content = t.content ∧ s'.host? = some t.node.node ∧ s'.kindName = "ticket" := by
  intro a t
  have written : Writable (.ticket t) := by
    rintro _ ⟨⟩
    exact ⟨by rintro _ ⟨⟩; decide, by decide⟩
  have leading : ∀ c ∈ "\n".toList, Text.isBlank c := List.all_eq_true.1 (by decide)
  have trailing : ∀ c ∈ "\u3000".toList, Text.isBlank c := List.all_eq_true.1 (by decide)
  obtain ⟨s', read, content, host, _, kind⟩ := text_returns (.ticket t) written leading trailing
  exact ⟨written, leading, trailing, s', read, content, host, kind nofun⟩

end Specifier

end ContentTracker
