import ContentTracker.Proofs.Ticket.Checked
import ContentTracker.Specifier

/-! Input from elsewhere is refused in the declared ways only. Octets that are no message are told
by a failure to decode, and texts by an error of value, whichever of the inner steps it was that
failed; a specifier is refused with what each of its three forms had to say. -/

namespace ContentTracker

open Wire Checked

variable {α : Type}

/-- A step whose errors of value are told in other words. -/
def reworded (tell : String → String) (step : Except Problem α) : Except Problem α :=
  tryCatch step fun problem =>
    if problem.isValueError then throw (.badValue (tell problem.text)) else throw problem

/-- Digits in whole groups, behind which nothing is asked of the unused bits. -/
def Base32.lenient (cs : List Char) : Except Problem Octets :=
  match cs.mapM value? with
  | none => throw (.badValue "Non-base32 digit found")
  | some values =>
    if cs.length % 8 = 1 ∨ cs.length % 8 = 3 ∨ cs.length % 8 = 6 then
      throw (.badValue "Incorrect padding")
    else pure (octetsOf values)

def Base32.checked (text : String) : Except Problem Octets :=
  let cs := text.toList
  if cs.any (fun c => 128 ≤ c.toNat || c = '=') then throw (.badValue "Invalid base32 string")
  else do
    let bs ← reworded (fun m => s!"Invalid base32 string: {m}") (lenient cs)
    if encodeChars bs = cs.map lowerChar then pure bs
    else throw (.badValue "Invalid base32 string: non-canonical trailing bits")

/-- Hexadecimal digits, in the words of their own decoder. -/
def Octets.fromHex (digits : String) : Except Problem Octets :=
  (ofHex digits).mapError fun position => .badValue (hexFaultMessage position)

/-- The octets of a digest, of whatever number they may be. -/
def Digest.checked (noun text : String) : Except Problem Octets :=
  if text.length = 64 then
    reworded (fun m => s!"Invalid {noun}: {m}") (Octets.fromHex text)
  else if text.length = 52 then Base32.checked text
  else throw (.badValue
    s!"Invalid {noun}: expected 64 hex or 52 base32 characters, got {text.length}")

def Hash.checked (text : String) : Except Problem Hash := Digest.checked "hash" text >>= built

def PeerId.checkedText (text : String) : Except Problem PeerId :=
  Digest.checked "peer id" text >>= built

def ContentAddress.checkedText (text : String) : Except Problem ContentAddress :=
  let address (digits : String) (format : BlobFormat) : Except Problem ContentAddress := do
    let hash ← Hash.built (← Octets.fromHex digits)
    built hash (.int format.tag)
  match text.toList with
  | c :: rest =>
    if rest.length = 63 then address text .raw
    else if rest.length = 64 ∧ (c = 's' ∨ c = 'S') then address (String.ofList rest) .hashSeq
    else throw (.badValue "Invalid hash and format")
  | [] => throw (.badValue "Invalid hash and format")

/-- Failures to decode are caught here, and nothing else is. -/
def Ticket.checkedText (text : String) : Except Problem Ticket :=
  if marker.toList.isPrefixOf text.toList then do
    let bs ← Base32.checked (String.ofList (text.toList.drop marker.length))
    tryCatch (checkedOctets bs) fun problem =>
      match problem with
      | .failure ⟨.decoding, m, _⟩ => throw (.badValue s!"Invalid ticket: {m}")
      | problem => throw problem
  else throw (.badValue s!"Ticket must start with {Text.quoted marker}")

/-- The forms of a specifier under the names that errors are kept under. -/
def Specifier.forms : List (String × (String → Except Problem Specifier)) :=
  [("hash", fun text => hash <$> Hash.checked text),
    ("hash_and_format", fun text => address <$> ContentAddress.checkedText text),
    ("ticket", fun text => ticket <$> Ticket.checkedText text)]

/-- Tries one form after another. The errors of value are kept under the names of the forms; any
other problem ends the search. -/
def Specifier.tryForms (text : String) :
    List (String × (String → Except Problem Specifier)) → Table → Except Problem Specifier
  | [], errors => throw (.failure
      ⟨.specifier, s!"Invalid content specifier: {Text.quoted text}", errors⟩)
  | (name, form) :: later, errors =>
    match form text with
    | .ok specifier => pure specifier
    | .error problem =>
      if problem.isValueError then tryForms text later (errors.put name (.text problem.text))
      else throw problem

def Specifier.checked (text : String) : Except Problem Specifier :=
  tryForms (Text.strip text) forms []

theorem base32_checked (text : String) :
    Base32.checked text = (Base32.decode text).mapError fun fault => .badValue fault.message := by
  rw [Base32.checked, Base32.decode, Base32.decodeChars]
  dsimp only
  split
  · rfl
  · unfold Base32.lenient
    cases text.toList.mapM Base32.value? with
    | none => rfl
    | some values =>
        dsimp only
        split
        · rfl
        · change (if _ then _ else _) = _
          split <;> rfl

/-- A constructor that refuses only octets of another number than a digest has. -/
theorem digest_checked (noun capital text : String) (mk : Digest → α)
    {built : Octets → Except Problem α}
    (sized : ∀ bs, built bs = match Digest.ofOctets? bs with
      | some d => .ok (mk d)
      | none => .error (.badValue s!"{capital} must be 32 bytes")) :
    Digest.checked noun text >>= built =
      ((Digest.parse text).map mk).mapError fun fault => .badValue (fault.message noun capital) := by
  have ending (bs : Octets) : (Except.ok bs >>= built) =
      ((match Digest.ofOctets? bs with
        | some d => .ok d
        | none => .error .wrongSize : Except Digest.Fault Digest).map mk).mapError fun fault =>
          .badValue (fault.message noun capital) := by
    change built bs = _
    rw [sized]
    cases Digest.ofOctets? bs <;> rfl
  rw [Digest.checked, Digest.parse]
  dsimp only
  split
  · rw [Octets.fromHex]
    cases Octets.ofHex text with
    | error position => rfl
    | ok bs => exact ending bs
  · split
    · rw [base32_checked]
      cases Base32.decode text with
      | error fault => rfl
      | ok bs => exact ending bs
    · rfl

theorem hash_checked (text : String) : Hash.checked text =
    (Hash.parse text).mapError fun fault => .badValue (Hash.faultMessage fault) :=
  digest_checked "hash" "Hash" text Hash.mk fun bs => by
    rw [Hash.built, Hash.ofOctets]
    cases Digest.ofOctets? bs <;> rfl

theorem peer_checked (text : String) : PeerId.checkedText text =
    (PeerId.parse text).mapError fun fault => .badValue (PeerId.faultMessage fault) :=
  digest_checked "peer id" "Peer id" text PeerId.mk fun bs => by
    rw [PeerId.built, PeerId.ofOctets]
    cases Digest.ofOctets? bs <;> rfl

theorem address_checked (text : String) : ContentAddress.checkedText text =
    (ContentAddress.parse text).mapError fun fault => .badValue fault.message := by
  have address (digits : String) (format : BlobFormat) : (do
      let hash ← Hash.built (← Octets.fromHex digits)
      ContentAddress.built hash (.int format.tag)) =
      (ContentAddress.ofHex format digits).mapError fun fault => .badValue fault.message := by
    rw [Octets.fromHex, ContentAddress.ofHex]
    cases Octets.ofHex digits with
    | error position => rfl
    | ok bs =>
        change Hash.built bs >>= _ = _
        rw [Hash.built, Hash.ofOctets]
        dsimp only
        cases Digest.ofOctets? bs with
        | none => rfl
        | some d => cases format <;> rfl
  unfold ContentAddress.checkedText ContentAddress.parse
  dsimp only
  cases text.toList with
  | nil => rfl
  | cons c rest =>
      dsimp only
      split
      · exact address _ _
      · split
        · exact address _ _
        · rfl

theorem ticket_checked (text : String) : Ticket.checkedText text =
    (Ticket.parse text).mapError fun fault => .badValue fault.message := by
  rw [Ticket.checkedText, Ticket.parse]
  split
  · rw [base32_checked]
    cases Base32.decode (String.ofList (text.toList.drop Ticket.marker.length)) with
    | error fault => rfl
    | ok bs =>
        change tryCatch (Ticket.checkedOctets bs) _ = _
        rw [ticket_checkedOctets]
        dsimp only
        cases Ticket.ofOctets bs <;> rfl
  · rfl

/-- The details of the failure are kept in the order of the forms. -/
theorem specifier_checked (text : String) : Specifier.checked text =
    (Specifier.parse text).mapError fun fault => .failure (fault.failure text) := by
  simp only [Specifier.checked, Specifier.forms, Specifier.tryForms, hash_checked,
    address_checked, ticket_checked, Specifier.parse]
  cases Hash.parse (Text.strip text) with
  | ok h => rfl
  | error noHash =>
      cases ContentAddress.parse (Text.strip text) with
      | ok a => rfl
      | error noAddress => cases Ticket.parse (Text.strip text) <;> rfl

/-! What callers have to expect. -/

def Problem.IsDecodingFailure (problem : Problem) : Prop :=
  ∃ message details, problem = .failure ⟨.decoding, message, details⟩

/-- Where every check stands in its place the result is that of the plain reading, and it is refused
with such problems only. -/
structure Declared (expected : Problem → Prop) (checked plain : Except Problem α) : Prop where
  same : checked = plain
  refused : ∀ problem, checked = .error problem → expected problem

theorem declared_mapError {ε : Type} {expected : Problem → Prop} {checked : Except Problem α}
    {plain : Except ε α} {told : ε → Problem} (same : checked = plain.mapError told)
    (each : ∀ fault, expected (told fault)) : Declared expected checked (plain.mapError told) := by
  refine ⟨same, fun problem failed => ?_⟩
  rw [same] at failed
  cases plain with
  | ok a => cases failed
  | error fault =>
      cases failed
      exact each fault

theorem declared_octets {checked : Except Problem α} {plain : Except DecodeFault α}
    (same : checked = plain.mapError DecodeFault.problem) :
    Declared Problem.IsDecodingFailure checked (plain.mapError DecodeFault.problem) :=
  declared_mapError same fun fault => ⟨fault.message, fault.details, rfl⟩

theorem declared_text {ε : Type} {checked : Except Problem α} {plain : Except ε α}
    {message : ε → String}
    (same : checked = plain.mapError fun fault => .badValue (message fault)) :
    Declared (·.isValueError) checked (plain.mapError fun fault => .badValue (message fault)) :=
  declared_mapError same fun _ => rfl

/-- The failure of a specifier, which holds what each of the three forms said of the text and
nothing else. -/
def Specifier.IsRefusal (text : String) (problem : Problem) : Prop :=
  ∃ noHash noAddress noTicket message,
    Hash.checked (Text.strip text) = .error (.badValue noHash) ∧
    ContentAddress.checkedText (Text.strip text) = .error (.badValue noAddress) ∧
    Ticket.checkedText (Text.strip text) = .error (.badValue noTicket) ∧
    problem = .failure ⟨.specifier, message, [("hash", .text noHash),
      ("hash_and_format", .text noAddress), ("ticket", .text noTicket)]⟩

theorem Specifier.parse_eq_error {text : String} {fault : Fault} (h : parse text = .error fault) :
    Hash.parse (Text.strip text) = .error fault.hash ∧
      ContentAddress.parse (Text.strip text) = .error fault.address ∧
      Ticket.parse (Text.strip text) = .error fault.ticket := by
  unfold parse at h
  dsimp only at h
  split at h
  · cases h
  · next noHash =>
    split at h
    · cases h
    · next noAddress =>
      split at h
      · cases h
      · next noTicket =>
        cases h
        exact ⟨noHash, noAddress, noTicket⟩

theorem declared_specifier (text : String) :
    Declared (Specifier.IsRefusal text) (Specifier.checked text)
      ((Specifier.parse text).mapError fun fault => .failure (fault.failure text)) := by
  refine ⟨specifier_checked text, fun problem failed => ?_⟩
  rw [specifier_checked] at failed
  cases parsed : Specifier.parse text with
  | ok specifier => simp [parsed, Except.mapError] at failed
  | error fault =>
      simp only [parsed, Except.mapError, Except.error.injEq] at failed
      subst failed
      obtain ⟨noHash, noAddress, noTicket⟩ := Specifier.parse_eq_error parsed
      refine ⟨Hash.faultMessage fault.hash, fault.address.message, fault.ticket.message, _, ?_, ?_,
        ?_, rfl⟩
      · rw [hash_checked, noHash]
        rfl
      · rw [address_checked, noAddress]
        rfl
      · rw [ticket_checked, noTicket]
        rfl

/-- Octets are refused by failures to decode, texts by errors of value, and specifiers by a failure
of their own. No step inside lets a problem of another class through, nor one of these that was
meant to be caught. -/
theorem untrusted_declared :
    (∀ bs, Declared Problem.IsDecodingFailure (whole Request.checked bs)
      ((decodeRequest bs).mapError DecodeFault.problem)) ∧
    (∀ bs, Declared Problem.IsDecodingFailure (whole QueryResponse.checked bs)
      ((decodeResponse bs).mapError DecodeFault.problem)) ∧
    (∀ bs, Declared Problem.IsDecodingFailure (Ticket.checkedOctets bs)
      ((Ticket.ofOctets bs).mapError DecodeFault.problem)) ∧
    (∀ text, Declared (·.isValueError) (Hash.checked text)
      ((Hash.parse text).mapError fun fault => .badValue (Hash.faultMessage fault))) ∧
    (∀ text, Declared (·.isValueError) (PeerId.checkedText text)
      ((PeerId.parse text).mapError fun fault => .badValue (PeerId.faultMessage fault))) ∧
    (∀ text, Declared (·.isValueError) (ContentAddress.checkedText text)
      ((ContentAddress.parse text).mapError fun fault => .badValue fault.message)) ∧
    (∀ text, Declared (·.isValueError) (Ticket.checkedText text)
      ((Ticket.parse text).mapError fun fault => .badValue fault.message)) ∧
    (∀ text, Declared (Specifier.IsRefusal text) (Specifier.checked text)
      ((Specifier.parse text).mapError fun fault => .failure (fault.failure text))) := by
  refine ⟨fun bs => ?_, fun bs => ?_, fun bs => declared_octets (ticket_checkedOctets bs),
    fun text => declared_text (hash_checked text), fun text => declared_text (peer_checked text),
    fun text => declared_text (address_checked text),
    fun text => declared_text (ticket_checked text), declared_specifier⟩
  · rw [← wire_request]
    exact declared_octets (whole_wire Request.read bs)
  · rw [← wire_response]
    exact declared_octets (whole_wire QueryResponse.read bs)

end ContentTracker
