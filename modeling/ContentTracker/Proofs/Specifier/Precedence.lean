import ContentTracker.Proofs.Message.Extent
import ContentTracker.Proofs.Specifier.Checked
import ContentTracker.Proofs.Text.Base32
import ContentTracker.Proofs.Text.Hex

/-! The three forms of a specifier. Their lengths keep them apart but for 64 hexadecimal digits,
which are a hash and also the address of a raw blob, and these name the same content. So nothing
depends on which form is tried first. -/

namespace ContentTracker

open Wire

/-! The lengths of texts that are read. -/

theorem Digest.length_of_parse {text : String} {d : Digest} (h : parse text = .ok d) :
    text.length = 64 ∨ text.length = 52 := by
  unfold parse at h
  dsimp only at h
  split at h
  · next hex => exact .inl hex
  · split at h
    · next base32 => exact .inr base32
    · cases h

theorem Hash.parse_eq_ok {text : String} {h : Hash} :
    parse text = .ok h ↔ Digest.parse text = .ok h.digest := by
  unfold parse
  cases Digest.parse text with
  | error fault => simp [Except.map]
  | ok d =>
      obtain ⟨d'⟩ := h
      simp [Except.map]

theorem ContentAddress.length_of_parse {text : String} {a : ContentAddress}
    (h : parse text = .ok a) : text.length = 64 ∨ text.length = 65 := by
  unfold parse at h
  rw [← String.length_toList]
  split at h
  · next c rest chars =>
    rw [chars, List.length_cons]
    split at h
    · next raw => exact .inl (by omega)
    · split at h
      · next seq => exact .inr (by omega)
      · cases h
  · cases h

/-- A ticket has 68 octets at least, so a text that begins like one may well be a hash. -/
theorem Ticket.length_of_parse {text : String} {t : Ticket} (h : parse text = .ok t) :
    113 ≤ text.length := by
  unfold parse at h
  split at h
  · next marked =>
    cases read : Base32.decode (String.ofList (text.toList.drop marker.length)) with
    | error fault => simp [read] at h
    | ok bs =>
        have least : 68 ≤ bs.length := by
          cases decoded : ofOctets bs with
          | error fault => simp [read, decoded] at h
          | ok t => exact steady_ticket.le_length (steady_ticket.of_whole decoded)
        have digits := Base32.length_of_decode read
        have letters : marker.length = 4 := rfl
        rw [String.length_ofList, List.length_drop, letters, String.length_toList] at digits
        omega
  · cases h

/-! Texts of 64 characters. -/

theorem Digest.ofOctets?_eq_some {bs : Octets} {d : Digest} :
    ofOctets? bs = some d ↔ bs = d.octets := by
  obtain ⟨octets, size⟩ := d
  unfold ofOctets?
  split
  · simp
  · next other =>
    refine iff_of_false (by simp) ?_
    rintro rfl
    exact other size

theorem Hash.parse_hex {text : String} {h : Hash} (size : text.length = 64) :
    parse text = .ok h ↔ Octets.ofHex text = .ok h.digest.octets := by
  rw [parse_eq_ok, Digest.parse]
  dsimp only
  rw [if_pos size]
  cases Octets.ofHex text with
  | error position => simp
  | ok bs =>
      rw [Except.ok.injEq, ← Digest.ofOctets?_eq_some]
      dsimp only
      cases Digest.ofOctets? bs <;> simp

theorem ContentAddress.ofHex_eq_ok {format : BlobFormat} {digits : String} {a : ContentAddress} :
    ofHex format digits = .ok a ↔
      a.format = format ∧ Octets.ofHex digits = .ok a.hash.digest.octets := by
  obtain ⟨⟨d⟩, format'⟩ := a
  unfold ofHex
  cases Octets.ofHex digits with
  | error position => simp
  | ok bs =>
      rw [Except.ok.injEq, ← Digest.ofOctets?_eq_some]
      dsimp only
      cases Digest.ofOctets? bs <;> simp [and_comm, eq_comm]

theorem ContentAddress.parse_hex {text : String} {a : ContentAddress} (size : text.length = 64) :
    parse text = .ok a ↔ a.format = .raw ∧ Octets.ofHex text = .ok a.hash.digest.octets := by
  rw [← ofHex_eq_ok]
  rw [← String.length_toList] at size
  unfold parse
  cases chars : text.toList with
  | nil => simp [chars] at size
  | cons c rest =>
      rw [chars, List.length_cons] at size
      dsimp only
      rw [if_pos (by omega)]

namespace Specifier

/-- A text is 64 hexadecimal digits and nothing else. -/
structure IsHex (text : String) : Prop where
  length : text.length = 64
  digits : ∀ c ∈ text.toList, (Octets.hexValue? c).isSome

/-- The specifiers that a text can be read as. -/
inductive Names (text : String) : Specifier → Prop
  | hash {h : Hash} : Hash.parse text = .ok h → Names text (.hash h)
  | address {a : ContentAddress} : ContentAddress.parse text = .ok a → Names text (.address a)
  | ticket {t : Ticket} : Ticket.parse text = .ok t → Names text (.ticket t)

/-- The two specifiers are a hash and the address of the raw blob that it names. -/
def SameBlob (s s' : Specifier) : Prop := ∃ h, s = .hash h ∧ s' = .address ⟨h, .raw⟩

theorem isHex_of_ofHex {text : String} {d : Digest} (length : text.length = 64)
    (read : Octets.ofHex text = .ok d.octets) : IsHex text :=
  ⟨length, (Octets.ofHex_full 32 length).1 ⟨_, read, d.length_octets⟩⟩

theorem names_of_isHex {text : String} (hex : IsHex text) :
    ∃ h, Names text (.hash h) ∧ Names text (.address ⟨h, .raw⟩) := by
  obtain ⟨bs, read, size⟩ := (Octets.ofHex_full 32 hex.length).2 hex.digits
  exact ⟨⟨⟨bs, size⟩⟩, .hash ((Hash.parse_hex hex.length).2 read),
    .address ((ContentAddress.parse_hex hex.length).2 ⟨rfl, read⟩)⟩

theorem sameBlob_of_parse {text : String} {h : Hash} {a : ContentAddress}
    (hash : Hash.parse text = .ok h) (address : ContentAddress.parse text = .ok a) :
    IsHex text ∧ a = ⟨h, .raw⟩ := by
  have length : text.length = 64 := by
    have first := Digest.length_of_parse (Hash.parse_eq_ok.1 hash)
    have second := ContentAddress.length_of_parse address
    omega
  rw [Hash.parse_hex length] at hash
  rw [ContentAddress.parse_hex length] at address
  obtain ⟨raw, read⟩ := address
  obtain ⟨h', format⟩ := a
  rw [hash, Except.ok.injEq] at read
  exact ⟨isHex_of_ofHex length hash, by rw [ContentAddress.octets_injective read, ← raw]⟩

theorem unnamed_of_ticket {text : String} {t : Ticket} (ticket : Ticket.parse text = .ok t) :
    (∀ h, Hash.parse text ≠ .ok h) ∧ ∀ a, ContentAddress.parse text ≠ .ok a := by
  have long := Ticket.length_of_parse ticket
  constructor
  · intro h hash
    have short := Digest.length_of_parse (Hash.parse_eq_ok.1 hash)
    omega
  · intro a address
    have short := ContentAddress.length_of_parse address
    omega

theorem names_unique {text : String} {s s' : Specifier} (h : Names text s) (h' : Names text s') :
    s = s' ∨ IsHex text ∧ (SameBlob s s' ∨ SameBlob s' s) := by
  -- Tickets are too long for the two other forms, and these meet at 64 characters only.
  cases h with
  | hash read =>
      cases h' with
      | hash read' => exact .inl (congrArg hash (Except.ok.inj (read.symm.trans read')))
      | address read' =>
          obtain ⟨hex, rfl⟩ := sameBlob_of_parse read read'
          exact .inr ⟨hex, .inl ⟨_, rfl, rfl⟩⟩
      | ticket read' => exact absurd read ((unnamed_of_ticket read').1 _)
  | address read =>
      cases h' with
      | hash read' =>
          obtain ⟨hex, rfl⟩ := sameBlob_of_parse read' read
          exact .inr ⟨hex, .inr ⟨_, rfl, rfl⟩⟩
      | address read' => exact .inl (congrArg address (Except.ok.inj (read.symm.trans read')))
      | ticket read' => exact absurd read ((unnamed_of_ticket read').2 _)
  | ticket read =>
      cases h' with
      | hash read' => exact absurd read' ((unnamed_of_ticket read).1 _)
      | address read' => exact absurd read' ((unnamed_of_ticket read).2 _)
      | ticket read' => exact .inl (congrArg ticket (Except.ok.inj (read.symm.trans read')))

/-- Two readings name the same content, and the same host if any. -/
structure Alike (s s' : Specifier) : Prop where
  content : s'.content = s.content
  host? : s'.host? = s.host?

theorem Alike.refl (s : Specifier) : Alike s s := ⟨rfl, rfl⟩

theorem SameBlob.alike {s s' : Specifier} (h : SameBlob s s') : Alike s s' := by
  obtain ⟨h, rfl, rfl⟩ := h
  exact ⟨rfl, rfl⟩

theorem Alike.symm {s s' : Specifier} (h : Alike s s') : Alike s' s :=
  ⟨h.content.symm, h.host?.symm⟩

theorem alike_of_names {text : String} {s s' : Specifier} (h : Names text s)
    (h' : Names text s') : Alike s s' := by
  obtain rfl | ⟨_, same | same⟩ := names_unique h h'
  · exact .refl s
  · exact same.alike
  · exact same.alike.symm

/-! Trying forms in turn. -/

theorem map_told {ε α : Type} (mk : α → Specifier) (tell : ε → String) (read : Except ε α) :
    (∃ a, read = .ok a ∧
      mk <$> (read.mapError fun fault => Problem.badValue (tell fault)) = .ok (mk a)) ∨
    ∃ m, mk <$> (read.mapError fun fault => Problem.badValue (tell fault)) =
      .error (.badValue m) := by
  cases read with
  | ok a => exact .inl ⟨a, rfl, rfl⟩
  | error fault => exact .inr ⟨_, rfl⟩

/-- Each form reads what it names, or fails in an error of value. -/
theorem form_cases {form : String × (String → Except Problem Specifier)} (h : form ∈ forms)
    (text : String) :
    (∃ s, form.2 text = .ok s ∧ Names text s) ∨ ∃ m, form.2 text = .error (.badValue m) := by
  simp only [forms, List.mem_cons, List.not_mem_nil, or_false] at h
  obtain rfl | rfl | rfl := h
  · simp only [hash_checked]
    obtain ⟨h, read, told⟩ | refused := map_told hash Hash.faultMessage (Hash.parse text)
    · exact .inl ⟨_, told, .hash read⟩
    · exact .inr refused
  · simp only [address_checked]
    obtain ⟨a, read, told⟩ | refused :=
      map_told address ContentAddress.Fault.message (ContentAddress.parse text)
    · exact .inl ⟨_, told, .address read⟩
    · exact .inr refused
  · simp only [ticket_checked]
    obtain ⟨t, read, told⟩ | refused := map_told ticket Ticket.Fault.message (Ticket.parse text)
    · exact .inl ⟨_, told, .ticket read⟩
    · exact .inr refused

theorem exists_form {text : String} {s : Specifier} (h : Names text s) :
    ∃ form ∈ forms, form.2 text = .ok s := by
  simp only [forms, List.mem_cons, List.not_mem_nil, or_false, exists_eq_or_imp, exists_eq_left,
    hash_checked, address_checked, ticket_checked]
  cases h with
  | hash read => exact .inl (by rw [read]; rfl)
  | address read => exact .inr (.inl (by rw [read]; rfl))
  | ticket read => exact .inr (.inr (by rw [read]; rfl))

theorem tryForms_cases (text : String)
    {order : List (String × (String → Except Problem Specifier))} (errors : Table)
    (declared : ∀ form ∈ order, ∀ p, form.2 text = .error p → p.isValueError) :
    (∃ s, tryForms text order errors = .ok s ∧ ∃ form ∈ order, form.2 text = .ok s) ∨
      (∀ form ∈ order, ∀ s, form.2 text ≠ .ok s) ∧ ∃ details, tryForms text order errors =
        .error (.failure ⟨.specifier, s!"Invalid content specifier: {Text.quoted text}",
          details⟩) := by
  induction order generalizing errors with
  | nil => exact .inr ⟨by simp, errors, rfl⟩
  | cons form later ih =>
      obtain ⟨name, form⟩ := form
      rw [List.forall_mem_cons] at declared
      rw [tryForms]
      cases tried : form text with
      | ok s => exact .inl ⟨s, rfl, _, List.mem_cons_self, tried⟩
      | error p =>
          dsimp only
          rw [if_pos (declared.1 p tried)]
          obtain ⟨s, read, form', member, here⟩ | ⟨none, refused⟩ :=
            ih (errors.put name (.text p.text)) declared.2
          · exact .inl ⟨s, read, form', List.mem_cons_of_mem _ member, here⟩
          · refine .inr ⟨?_, refused⟩
            rw [List.forall_mem_cons]
            exact ⟨by simp [tried], none⟩

theorem parse_cases (text : String) :
    (∃ s, parse text = .ok s ∧ Names (Text.strip text) s) ∨
      ∃ fault, parse text = .error fault ∧ ∀ s, ¬ Names (Text.strip text) s := by
  unfold parse
  dsimp only
  cases hash : Hash.parse (Text.strip text) with
  | ok h => exact .inl ⟨_, rfl, .hash hash⟩
  | error noHash =>
      cases address : ContentAddress.parse (Text.strip text) with
      | ok a => exact .inl ⟨_, rfl, .address address⟩
      | error noAddress =>
          cases ticket : Ticket.parse (Text.strip text) with
          | ok t => exact .inl ⟨_, rfl, .ticket ticket⟩
          | error noTicket =>
              refine .inr ⟨_, rfl, fun s named => ?_⟩
              cases named with
              | hash read => cases hash.symm.trans read
              | address read => cases address.symm.trans read
              | ticket read => cases ticket.symm.trans read

theorem parse_of_hash {text : String} {h : Hash} (read : Hash.parse (Text.strip text) = .ok h) :
    parse text = .ok (.hash h) := by
  unfold parse
  dsimp only
  rw [read]

/-- What a text can be read as it is read as, unless it is ambiguous. -/
theorem parse_of_names {text : String} {s : Specifier} (named : Names (Text.strip text) s)
    (other : ¬ IsHex (Text.strip text)) : parse text = .ok s := by
  obtain ⟨s', parsed, named'⟩ | ⟨_, _, unnamed⟩ := parse_cases text
  · obtain rfl | ⟨hex, _⟩ := names_unique named named'
    · exact parsed
    · exact absurd hex other
  · exact absurd named (unnamed s)

theorem tryForms_alike (text : String)
    {order : List (String × (String → Except Problem Specifier))} (same : order.Perm forms) :
    (∃ s s', parse text = .ok s ∧ tryForms (Text.strip text) order [] = .ok s' ∧ Alike s s') ∨
      ∃ fault details, parse text = .error fault ∧ tryForms (Text.strip text) order [] =
        .error (.failure ⟨.specifier,
          s!"Invalid content specifier: {Text.quoted (Text.strip text)}", details⟩) := by
  have declared : ∀ form ∈ order, ∀ p, form.2 (Text.strip text) = .error p → p.isValueError := by
    intro form member p failed
    obtain ⟨s, read, _⟩ | ⟨m, refused⟩ := form_cases (same.subset member) (Text.strip text)
    · cases read.symm.trans failed
    · cases refused.symm.trans failed
      rfl
  obtain ⟨s', tried, form, member, read⟩ | ⟨none, details, refused⟩ :=
    tryForms_cases (Text.strip text) [] declared
  · -- Both orders find something that the text names, which need not be the same thing.
    have named' : Names (Text.strip text) s' := by
      obtain ⟨s, told, named⟩ | ⟨m, told⟩ := form_cases (same.subset member) (Text.strip text)
      · cases told.symm.trans read
        exact named
      · cases told.symm.trans read
    obtain ⟨s, parsed, named⟩ | ⟨_, _, unnamed⟩ := parse_cases text
    · exact .inl ⟨s, s', parsed, tried, alike_of_names named named'⟩
    · exact absurd named' (unnamed s')
  · obtain ⟨s, _, named⟩ | ⟨fault, parsed, _⟩ := parse_cases text
    · -- The form that reads the text stands somewhere in every order.
      obtain ⟨form, member, read⟩ := exists_form named
      exact absurd read (none form (same.symm.subset member) s)
    · exact .inr ⟨fault, details, parsed, refused⟩

/-- A text is read in two forms only where it is 64 hexadecimal digits, always in those two there,
and then they name the same raw blob and no host. So the forms may be tried in any order: the same
texts are accepted, for the same content and the same host. -/
theorem precedence_immaterial (text : String) :
    (∀ s s', Names text s → Names text s' → s ≠ s' →
      IsHex text ∧ (SameBlob s s' ∨ SameBlob s' s) ∧ s.content = s'.content ∧
        s.content.format = .raw ∧ s.host? = none ∧ s'.host? = none) ∧
    (IsHex text → ∃ h, Names text (.hash h) ∧ Names text (.address ⟨h, .raw⟩)) ∧
    ∀ order, order.Perm forms →
      (∃ s s', parse text = .ok s ∧ tryForms (Text.strip text) order [] = .ok s' ∧
        s'.content = s.content ∧ s'.host? = s.host?) ∨
      ∃ fault details, parse text = .error fault ∧ tryForms (Text.strip text) order [] =
        .error (.failure ⟨.specifier,
          s!"Invalid content specifier: {Text.quoted (Text.strip text)}", details⟩) := by
  refine ⟨fun s s' named named' other => ?_, names_of_isHex, fun order same => ?_⟩
  · obtain ⟨hex, same⟩ := (names_unique named named').resolve_left other
    refine ⟨hex, same, ?_⟩
    obtain ⟨h, rfl, rfl⟩ | ⟨h, rfl, rfl⟩ := same <;> exact ⟨rfl, rfl, rfl, rfl⟩
  · obtain ⟨s, s', parsed, tried, alike⟩ | refused := tryForms_alike text same
    · exact .inl ⟨s, s', parsed, tried, alike.content, alike.host?⟩
    · exact .inr refused

/-- Digits in upper case, with the forms tried from the last to the first. -/
theorem precedence_immaterial_reversed :
    let text := String.ofList (List.replicate 64 'F')
    let h : Hash := ⟨⟨List.replicate 32 255, rfl⟩⟩
    Names text (.hash h) ∧ Names text (.address ⟨h, .raw⟩) ∧ forms.reverse.Perm forms ∧
      IsHex text ∧ ∃ s', tryForms (Text.strip text) forms.reverse [] = .ok s' ∧
        s'.content = ⟨h, .raw⟩ ∧ s'.host? = none := by
  intro text h
  have length : text.length = 64 := by
    rw [String.length_ofList, List.length_replicate]
  have read : Octets.ofHex text = .ok h.digest.octets := by
    rw [Octets.ofHex, String.toList_ofList]
    rfl
  have hash : Names text (.hash h) := .hash ((Hash.parse_hex length).2 read)
  have address : Names text (.address ⟨h, .raw⟩) :=
    .address ((ContentAddress.parse_hex length).2 ⟨rfl, read⟩)
  obtain ⟨overlap, _, orders⟩ := precedence_immaterial text
  refine ⟨hash, address, forms.reverse_perm, (overlap _ _ hash address (by simp)).1, ?_⟩
  have plain : Text.strip text = text := by
    rw [Text.strip, String.toList_ofList]
    rfl
  have parsed : parse text = .ok (.hash h) :=
    parse_of_hash (by rw [plain]; exact (Hash.parse_hex length).2 read)
  obtain ⟨s, s', parsed', tried, content, host⟩ | ⟨fault, _, refused, _⟩ :=
    orders forms.reverse forms.reverse_perm
  · cases parsed.symm.trans parsed'
    exact ⟨s', tried, content, host⟩
  · cases parsed.symm.trans refused

end Specifier

end ContentTracker
