import ContentTracker.DialAddress
import ContentTracker.Proofs.Number.Numeral
import ContentTracker.Proofs.Text.Blank
import Mathlib.Data.List.TakeWhile

/-! Texts of dial addresses. What stands before the last colon is the host, with one pair of brackets
taken off, and what stands behind it is the port. The host and the port that were read are written as a
text that gives them back, unless that text starts where the host does not. -/

namespace ContentTracker.DialAddress

/-- A text that stands in brackets. -/
def Bracketed (cs : List Char) : Prop := ∃ inner, cs = '[' :: inner ++ [']']

theorem unbracket_brackets (inner : List Char) : unbracket ('[' :: inner ++ [']']) = inner := by
  simp [unbracket]

theorem unbracket_of_not_bracketed {cs : List Char} (h : ¬ Bracketed cs) : unbracket cs = cs := by
  unfold unbracket
  split
  · next rest =>
    split
    · next closed =>
      obtain ⟨inner, rfl⟩ := List.getLast?_eq_some_iff.1 closed
      exact absurd ⟨inner, rfl⟩ h
    · rfl
  · rfl

theorem bracketed_or (cs : List Char) : Bracketed cs ∨ unbracket cs = cs := by
  by_cases h : Bracketed cs
  · exact .inl h
  · exact .inr (unbracket_of_not_bracketed h)

theorem length_unbracket_le (cs : List Char) : (unbracket cs).length ≤ cs.length := by
  obtain ⟨inner, rfl⟩ | same := bracketed_or cs
  · rw [unbracket_brackets, List.length_append, List.length_cons]
    omega
  · exact Nat.le_of_eq (congrArg List.length same)

/-- A text that is not changed when brackets are taken off has none. -/
theorem not_bracketed_of_unbracket {cs : List Char} (h : unbracket cs = cs) : ¬ Bracketed cs := by
  rintro ⟨inner, rfl⟩
  rw [unbracket_brackets] at h
  have sizes := congrArg List.length h
  simp only [List.length_append, List.length_cons, List.length_nil] at sizes
  omega

theorem colon_mem_unbracket (cs : List Char) : ':' ∈ unbracket cs ↔ ':' ∈ cs := by
  obtain ⟨inner, rfl⟩ | same := bracketed_or cs
  · rw [unbracket_brackets]
    simp
  · rw [same]

theorem splitLastColon_append (before : List Char) {after : List Char} (last : ':' ∉ after) :
    splitLastColon (before ++ ':' :: after) = some (before, after) := by
  have plain : ∀ c ∈ after.reverse, decide (c ≠ ':') = true := fun c member => by
    simpa using fun same : c = ':' => last (same ▸ List.mem_reverse.1 member)
  have taken : ((before ++ ':' :: after).reverse.takeWhile (· ≠ ':')) = after.reverse := by
    rw [List.reverse_append, List.reverse_cons, List.append_assoc, List.takeWhile_append_of_pos plain]
    simp
  have left : ((before ++ ':' :: after).reverse.dropWhile (· ≠ ':')) = ':' :: before.reverse := by
    rw [List.reverse_append, List.reverse_cons, List.append_assoc, List.dropWhile_append_of_pos plain]
    simp
  simp only [splitLastColon, taken, left, List.reverse_reverse]

theorem splitLastColon_eq_some {cs before after : List Char} :
    splitLastColon cs = some (before, after) ↔ cs = before ++ ':' :: after ∧ ':' ∉ after := by
  constructor
  · intro h
    unfold splitLastColon at h
    dsimp only at h
    split at h
    · cases h
    · next c rest left =>
      cases h
      have parts := List.takeWhile_append_dropWhile (p := (· ≠ ':')) (l := cs.reverse)
      have colon : c = ':' := by
        have stopped := List.head?_dropWhile_not (fun c : Char => decide (c ≠ ':')) cs.reverse
        rw [left] at stopped
        simpa using stopped
      refine ⟨?_, fun member => ?_⟩
      · rw [left, colon] at parts
        have back := congrArg List.reverse parts
        rw [List.reverse_append, List.reverse_cons, List.reverse_reverse, List.append_assoc] at back
        exact back.symm
      · simpa using List.mem_takeWhile_imp (List.mem_reverse.1 member)
  · rintro ⟨rfl, last⟩
    exact splitLastColon_append before last

/-- How a text is read: freed of blanks, it is the written host, a colon and the port. -/
structure Reading (text : String) (a : DialAddress) (written port : List Char) : Prop where
  parts : Text.stripChars text.toList = written ++ ':' :: port
  last : ':' ∉ port
  filled : written ≠ []
  number : Numeral.readInt (String.ofList port) = .ok a.port
  range : 0 < a.port ∧ a.port ≤ 65535
  host : a.host = String.ofList (unbracket written)

theorem parse_eq_ok {text : String} {a : DialAddress} :
    parse text = .ok a ↔ ∃ written port, Reading text a written port := by
  constructor
  · intro h
    unfold parse at h
    split at h
    · cases h
    · cases h
    · next written port some split =>
      obtain ⟨parts, last⟩ := splitLastColon_eq_some.1 split
      split at h
      · cases h
      · next n number =>
        split at h
        · next range =>
          cases h
          exact ⟨written, port, parts, last, some, number, range, rfl⟩
        · cases h
  · rintro ⟨written, port, reading⟩
    have found := splitLastColon_append written reading.last
    rw [← reading.parts] at found
    obtain ⟨c, rest, rfl⟩ := List.exists_cons_of_ne_nil reading.filled
    rw [parse, found]
    simp only [reading.number, reading.range, and_self, if_true, ← reading.host]

/-! Reading what was written. -/

theorem parse_joined (front : List Char) {n : Nat} (range : 0 < n ∧ n ≤ 65535) :
    parse (String.ofList (front ++ ':' :: Nat.toDigits 10 n)) =
      if front.dropWhile Text.isBlank = [] then .error .noPort
      else .ok ⟨String.ofList (unbracket (front.dropWhile Text.isBlank)), n⟩ := by
  obtain ⟨digits, c, written⟩ : ∃ digits c, Nat.toDigits 10 n = digits ++ [c] :=
    ⟨_, _, (List.dropLast_concat_getLast Nat.toDigits_ne_nil).symm⟩
  have solid : Text.isBlank c = false :=
    (Numeral.solid_of_mem_toDigits (n := n)
      (written ▸ List.mem_append_right _ (List.mem_singleton_self c))).1
  have last : ':' ∉ Nat.toDigits 10 n :=
    fun member => (Numeral.solid_of_mem_toDigits member).2 (by decide)
  have stripped : Text.stripChars (front ++ ':' :: Nat.toDigits 10 n) =
      front.dropWhile Text.isBlank ++ ':' :: Nat.toDigits 10 n := by
    rw [written, ← List.cons_append, ← List.append_assoc,
      Text.stripChars_concat solid, List.dropWhile_append]
    split
    · next none => simp [List.isEmpty_iff.1 none, List.dropWhile_cons_of_neg, Text.isBlank]
    · simp
  have short : (Nat.toDigits 10 n).length ≤ Numeral.digitLimit :=
    ((Nat.length_toDigits_le_iff (by decide) (by decide)).2
      (show n < 10 ^ 5 by omega)).trans (by decide)
  have inRange : (0 : Int) < n ∧ (n : Int) ≤ 65535 := by omega
  rw [parse, String.toList_ofList, stripped, splitLastColon_append _ last]
  cases front.dropWhile Text.isBlank with
  | nil => rfl
  | cons c rest =>
      simp only [Numeral.readInt_toDigits short, inRange, and_self, if_true, reduceCtorEq, if_false]

/-- A text that names an address of version 6. -/
def NamesV6 (host : String) : Prop := ∃ groups zone, IpAddress.parse? host = some (.v6 groups zone)

theorem NamesV6.filled {host : String} (h : NamesV6 host) : host ≠ "" := by
  rintro rfl
  obtain ⟨groups, zone, found⟩ := h
  cases (show IpAddress.parse? "" = none by decide).symm.trans found

theorem text_of_v6 {host : String} (v6 : NamesV6 host) (n : Nat) : text ⟨host, n⟩ =
    String.ofList (('[' :: host.toList ++ [']']) ++ ':' :: Nat.toDigits 10 n) := by
  obtain ⟨groups, zone, found⟩ := v6
  have named : IpAddress.ofValue? (.text host) = some (.v6 groups zone) := found
  rw [text, format, named]
  have parts : s!"[{(Value.text host).plain}]:{(Value.int n).plain}" =
      "[" ++ host ++ "]:" ++ Nat.repr n := rfl
  simp only [parts]
  apply String.toList_injective
  simp

theorem text_of_not_v6 {host : String} (other : ¬ NamesV6 host) (n : Nat) : text ⟨host, n⟩ =
    String.ofList (host.toList ++ ':' :: Nat.toDigits 10 n) := by
  rw [text, format]
  split
  · next groups zone found => exact absurd ⟨groups, zone, found⟩ other
  · have parts : s!"{(Value.text host).plain}:{(Value.int n).plain}" =
        host ++ ":" ++ Nat.repr n := rfl
    simp only [parts]
    apply String.toList_injective
    simp

/-- A host that is read back from the text it is written in: brackets are put around an address of
version 6, and any other host stands as it is. -/
def Returns (host : String) : Prop :=
  NamesV6 host ∨ ∃ c rest, host.toList = c :: rest ∧ Text.isBlank c = false ∧ ¬ Bracketed (c :: rest)

theorem parse_text_of_v6 {host : String} {n : Nat} (v6 : NamesV6 host) (range : 0 < n ∧ n ≤ 65535) :
    parse (text ⟨host, n⟩) = .ok ⟨host, n⟩ := by
  have kept : ('[' :: host.toList ++ [']']).dropWhile Text.isBlank = '[' :: host.toList ++ [']'] :=
    List.dropWhile_cons_of_neg (by decide)
  have read := parse_joined ('[' :: host.toList ++ [']']) range
  rw [kept, if_neg (by simp), unbracket_brackets, String.ofList_toList] at read
  rw [text_of_v6 v6, read]

theorem parse_text_of_not_v6 {host : String} {n : Nat} (other : ¬ NamesV6 host)
    (range : 0 < n ∧ n ≤ 65535) : parse (text ⟨host, n⟩) = .ok ⟨host, n⟩ ↔
      ∃ c rest, host.toList = c :: rest ∧ Text.isBlank c = false ∧ ¬ Bracketed (c :: rest) := by
  rw [text_of_not_v6 other, parse_joined host.toList range]
  constructor
  · intro read
    split at read
    · cases read
    · next trimmed =>
      have same : unbracket (host.toList.dropWhile Text.isBlank) = host.toList := by
        rw [Except.ok.injEq, DialAddress.mk.injEq] at read
        exact String.toList_ofList.symm.trans (congrArg String.toList read.1)
      -- Neither the blanks nor the brackets can have been there, for the host would be shorter.
      have whole : host.toList.dropWhile Text.isBlank = host.toList :=
        (List.dropWhile_suffix Text.isBlank).eq_of_length_le
          ((congrArg List.length same.symm).le.trans (length_unbracket_le _))
      rw [whole] at same
      rw [whole] at trimmed
      obtain ⟨c, rest, starts⟩ := List.exists_cons_of_ne_nil trimmed
      have solid := List.head?_dropWhile_not Text.isBlank host.toList
      rw [whole, starts] at solid
      exact ⟨c, rest, starts, solid, starts ▸ not_bracketed_of_unbracket same⟩
  · rintro ⟨c, rest, starts, solid, plain⟩
    rw [starts, List.dropWhile_cons_of_neg (by simp [solid]), if_neg (List.cons_ne_nil _ _),
      unbracket_of_not_bracketed plain, ← starts, String.ofList_toList]

theorem parse_text {a : DialAddress} (range : 0 < a.port ∧ a.port ≤ 65535) :
    parse a.text = .ok a ↔ Returns a.host := by
  obtain ⟨host, port⟩ := a
  obtain ⟨n, rfl⟩ := Int.eq_ofNat_of_zero_le (Int.le_of_lt range.1)
  have naturals : 0 < n ∧ n ≤ 65535 := by
    dsimp only at range
    omega
  by_cases v6 : NamesV6 host
  · exact iff_of_true (parse_text_of_v6 v6 naturals) (.inl v6)
  · rw [parse_text_of_not_v6 v6 naturals, Returns, or_iff_right v6]

/-- The written hosts that are asked for: one without colons and without brackets, or an address of
version 6 in brackets. -/
def Documented (written : List Char) : Prop :=
  (':' ∉ written ∧ ¬ Bracketed written) ∨
    ∃ inner, written = '[' :: inner ++ [']'] ∧ NamesV6 (String.ofList inner)

namespace Reading

variable {text : String} {a : DialAddress} {written port : List Char}

theorem host_eq (h : Reading text a written port) : a.host.toList = unbracket written := by
  rw [h.host, String.toList_ofList]

/-- The host is empty if nothing stood in the brackets, and only then. -/
theorem host_empty (h : Reading text a written port) : a.host = "" ↔ written = ['[', ']'] := by
  rw [← String.toList_eq_nil_iff, h.host_eq]
  obtain ⟨inner, rfl⟩ | same := bracketed_or written
  · rw [unbracket_brackets]
    simp
  · rw [same]
    refine iff_of_false h.filled ?_
    rintro rfl
    cases same

theorem returns_of_documented (h : Reading text a written port) (documented : Documented written) :
    Returns a.host := by
  obtain ⟨_, plain⟩ | ⟨inner, rfl, v6⟩ := documented
  · obtain ⟨c, rest, starts⟩ := List.exists_cons_of_ne_nil h.filled
    have parts := h.parts
    rw [starts, List.cons_append] at parts
    refine .inr ⟨c, rest, ?_, Text.head_stripChars parts, starts ▸ plain⟩
    rw [h.host_eq, unbracket_of_not_bracketed plain, starts]
  · refine .inl ?_
    rw [h.host, unbracket_brackets]
    exact v6

theorem bracketed_of_documented (documented : Documented written) (colon : ':' ∈ written) :
    Bracketed written := by
  obtain ⟨clean, _⟩ | ⟨inner, parts, _⟩ := documented
  · exact absurd colon clean
  · exact ⟨inner, parts⟩

theorem filled_of_documented (h : Reading text a written port) (documented : Documented written) :
    a.host ≠ "" := by
  intro empty
  obtain ⟨_, plain⟩ | ⟨inner, parts, v6⟩ := documented
  · exact plain ⟨[], h.host_empty.1 empty⟩
  · rw [h.host, parts, unbracket_brackets] at empty
    exact v6.filled empty

end Reading

/-- An address text gives a port from 1 to 65535, and a host that is what stood before the last colon,
with one pair of brackets taken off. So the host is empty exactly if nothing stood in the brackets, it
holds a colon exactly if one was written, and the address is read back from its own text exactly if the
host is an address of version 6, or begins with no blank and does not stand in brackets. A text in one
of the two documented forms has a host, a colon in it only inside brackets, and comes back. -/
theorem parse_unambiguous {text : String} {a : DialAddress} (h : parse text = .ok a) :
    (1 ≤ a.port ∧ a.port ≤ 65535) ∧ ∃ written port, Reading text a written port ∧
      (a.host = "" ↔ written = ['[', ']']) ∧
      (':' ∈ a.host.toList ↔ ':' ∈ written) ∧
      (parse a.text = .ok a ↔ Returns a.host) ∧
      (Documented written → a.host ≠ "" ∧ (':' ∈ a.host.toList → Bracketed written) ∧
        parse a.text = .ok a) := by
  obtain ⟨written, port, reading⟩ := parse_eq_ok.1 h
  have colons : ':' ∈ a.host.toList ↔ ':' ∈ written := by
    rw [reading.host_eq, colon_mem_unbracket]
  refine ⟨reading.range, written, port, reading, reading.host_empty, colons,
    parse_text reading.range, fun documented => ⟨reading.filled_of_documented documented,
      fun colon => Reading.bracketed_of_documented documented (colons.1 colon), ?_⟩⟩
  exact (parse_text reading.range).2 (reading.returns_of_documented documented)

/-- An address of version 6 with blanks around it. -/
theorem parse_unambiguous_v6 : parse " [fe80::1%eth0]:4433\n" = .ok ⟨"fe80::1%eth0", 4433⟩ ∧
    parse (DialAddress.text ⟨"fe80::1%eth0", 4433⟩) = .ok ⟨"fe80::1%eth0", 4433⟩ := by
  have read : parse " [fe80::1%eth0]:4433\n" = .ok ⟨"fe80::1%eth0", 4433⟩ := by decide +kernel
  obtain ⟨_, _, _, _, _, _, back, _⟩ := parse_unambiguous read
  refine ⟨read, back.2 (.inl ?_)⟩
  have named : ((IpAddress.parse? "fe80::1%eth0").map IpAddress.isV6) = some true := by decide +kernel
  obtain ⟨ip, found, v6⟩ := Option.map_eq_some_iff.1 named
  cases ip with
  | v4 => cases v6
  | v6 groups zone => exact ⟨groups, zone, found⟩

/-- Texts outside of the documented forms are read as well. -/
example : [parse "[]:80", parse "::1:80", parse "[[a]]:80"] =
    [.ok ⟨"", 80⟩, .ok ⟨"::1", 80⟩, .ok ⟨"[a]", 80⟩] := by decide +kernel

end ContentTracker.DialAddress
