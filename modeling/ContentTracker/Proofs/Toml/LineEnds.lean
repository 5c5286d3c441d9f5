import ContentTracker.Proofs.Number.Numeral
import ContentTracker.Settings.Loading
import ContentTracker.Toml.Writer

/-! The line ends of settings files that were written. No text brings a carriage return into them, since
it is escaped wherever a text is quoted, so reading a file in which all line ends are made one sees the
file as it was written. -/

namespace ContentTracker

/-! Quoted texts. -/

namespace Text

variable {mark : Char}

theorem return_not_mem_hexDigits (width n : Nat) : '\r' ∉ hexDigits width n := by
  have digit : ∀ d < 16, '\r' ≠ Octets.hexDigit d := by decide
  induction width generalizing n with
  | zero => exact List.not_mem_nil
  | succ width ih =>
      rw [hexDigits, List.mem_append, List.mem_singleton, not_or]
      exact ⟨ih (n / 16), digit (n % 16) (Nat.mod_lt n (by decide))⟩

theorem return_ne_quoteMark (cs : List Char) : '\r' ≠ quoteMark cs := by
  unfold quoteMark
  split <;> decide

theorem return_not_mem_shortEscape (other : '\r' ≠ mark) {c : Char} {escape : List Char}
    (h : shortEscape? mark c = some escape) : '\r' ∉ escape := by
  unfold shortEscape? at h
  split at h
  · next kept =>
    cases h
    rw [Bool.or_eq_true, decide_eq_true_eq, decide_eq_true_eq] at kept
    obtain rfl | rfl := kept
    · simp [other]
    · decide
  repeat' split at h
  all_goals cases h
  all_goals decide

theorem return_not_mem_quotedChar (other : '\r' ≠ mark) (c : Char) : '\r' ∉ quotedChar mark c := by
  have hex := return_not_mem_hexDigits
  unfold quotedChar
  split
  · next escape escaped => exact return_not_mem_shortEscape other escaped
  · next plain =>
    have kept : '\r' ≠ c := by
      rintro rfl
      simp [shortEscape?, other] at plain
    repeat' split
    all_goals simp [kept, hex]

theorem return_not_mem_quotedChars (cs : List Char) : '\r' ∉ quotedChars cs := by
  have mark := return_ne_quoteMark cs
  rw [quotedChars, List.mem_append, List.mem_cons, List.mem_singleton, List.mem_flatMap]
  rintro ((same | ⟨c, _, member⟩) | same)
  · exact mark same
  · exact return_not_mem_quotedChar mark c member
  · exact mark same

end Text

/-! Numbers. -/

theorem Numeral.return_not_mem_toString (n : Nat) : '\r' ∉ (toString n).toList := by
  have digits : (toString n).toList = Nat.toDigits 10 n := String.toList_ofList
  rw [digits]
  intro member
  have solid := (Numeral.solid_of_mem_toDigits member).1
  revert solid
  decide

theorem Numeral.return_not_mem_toString_int (n : Int) : '\r' ∉ (toString n).toList := by
  cases n with
  | ofNat n => exact Numeral.return_not_mem_toString n
  | negSucc n =>
      change '\r' ∉ ("-" ++ toString (n + 1)).toList
      rw [String.toList_append, List.mem_append, not_or]
      exact ⟨by decide, Numeral.return_not_mem_toString (n + 1)⟩

namespace Binary64

variable {digits : String}

theorem return_not_mem_padding (n : Nat) : '\r' ∉ (padding n).toList := by
  rw [padding, String.toList_ofList]
  exact fun member => absurd (List.eq_of_mem_replicate member) (by decide)

theorem return_not_mem_positional (clean : '\r' ∉ digits.toList) (point : Int) :
    '\r' ∉ (positional digits point).toList := by
  have front : '\r' ∉ digits.toList.take point.toNat := fun h => clean (List.mem_of_mem_take h)
  have behind : '\r' ∉ digits.toList.drop point.toNat := fun h => clean (List.mem_of_mem_drop h)
  unfold positional
  dsimp only
  repeat' split
  all_goals simp [clean, front, behind, return_not_mem_padding]

theorem return_not_mem_scientific {style : Style} (plus : '\r' ∉ style.plus.toList)
    (clean : '\r' ∉ digits.toList) (power : Int) : '\r' ∉ (scientific style digits power).toList := by
  have size := Numeral.return_not_mem_toString power.natAbs
  have padding := return_not_mem_padding (style.exponentDigits - (toString power.natAbs).length)
  have sign : '\r' ∉ (if power < 0 then "-" else style.plus).toList := by
    split
    · decide
    · exact plus
  unfold scientific
  simp only [String.toList_append, List.mem_append, not_or]
  refine ⟨⟨⟨⟨?_, by decide⟩, sign⟩, padding⟩, size⟩
  split
  · decide
  · next c written =>
    rw [String.toList_ofList]
    exact written ▸ clean
  · next c rest written _ =>
    simp_all

theorem return_not_mem_write {style : Style} (plus : '\r' ∉ style.plus.toList) (x : Binary64) :
    '\r' ∉ (x.write style).toList := by
  unfold write
  split
  · decide
  · split <;> decide
  · split <;> decide
  · next negative significand exponent _ =>
    have digits := Numeral.return_not_mem_toString (Shortest.decimal significand exponent).1
    have scientific := return_not_mem_scientific plus digits
    have positional := return_not_mem_positional digits
    have sign : '\r' ∉ (if negative then "-" else "").toList := by split <;> decide
    dsimp only
    rw [String.toList_append, List.mem_append, not_or]
    refine ⟨sign, ?_⟩
    split
    · exact scientific _
    · exact positional _

end Binary64

namespace Toml

variable {cs : List Char}

/-! Texts. -/

theorem return_not_mem_swap (clean : '\r' ∉ cs) : '\r' ∉ requoted.swap cs := by
  fun_induction requoted.swap cs <;> simp_all

theorem return_not_mem_requoted (s : String) : '\r' ∉ requoted s := by
  have inner : '\r' ∉ (Text.quotedChars s.toList).tail.dropLast := fun member =>
    Text.return_not_mem_quotedChars _ (List.mem_of_mem_tail (List.dropLast_subset _ member))
  unfold requoted
  dsimp only
  split
  · exact inner
  · exact return_not_mem_swap inner

theorem return_not_mem_splitHexEscapes (clean : '\r' ∉ cs) :
    ∀ piece ∈ splitHexEscapes cs, '\r' ∉ piece := by
  fun_induction splitHexEscapes cs <;> simp_all

theorem return_not_mem_halveBackslashes (clean : '\r' ∉ cs) : '\r' ∉ halveBackslashes cs := by
  fun_induction halveBackslashes cs <;> simp_all

theorem return_not_mem_joiner (piece : List Char) : '\r' ∉ joiner piece := by
  unfold joiner
  dsimp only
  split <;> decide

/-- Two pieces joined. -/
theorem return_not_mem_joined {first second : List Char} (clean : '\r' ∉ first)
    (others : '\r' ∉ second) :
    '\r' ∉ halveBackslashes first ++ joiner (halveBackslashes first) ++ second := by
  simp only [List.mem_append, not_or]
  exact ⟨⟨return_not_mem_halveBackslashes clean, return_not_mem_joiner _⟩, others⟩

theorem return_not_mem_joinPieces {first joined : List Char} {rest : List (List Char)}
    (clean : ∀ piece ∈ first :: rest, '\r' ∉ piece) (h : joinPieces? first rest = some joined) :
    '\r' ∉ joined := by
  fun_induction joinPieces? first rest with
  | case1 =>
      cases h
      exact clean _ List.mem_cons_self
  | case2 => cases h
  | case3 first second _ third rest piece ih =>
      simp only [List.forall_mem_cons] at clean ih
      exact ih ⟨return_not_mem_joined clean.2.1 clean.2.2.1, clean.2.2.2⟩ h
  | case4 first second rest _ piece ih =>
      simp only [List.forall_mem_cons] at clean ih
      exact ih ⟨return_not_mem_joined clean.1 clean.2.1, clean.2.2⟩ h

theorem return_not_mem_textForm {s form : String} (h : textForm? s = some form) :
    '\r' ∉ form.toList := by
  unfold textForm? at h
  split at h
  · cases h
  · next first rest pieces =>
    obtain ⟨joined, made, rfl⟩ := Option.map_eq_some_iff.1 h
    have clean := return_not_mem_joinPieces
      (pieces ▸ return_not_mem_splitHexEscapes (return_not_mem_requoted s)) made
    simp [clean]

theorem return_not_mem_keyForm {key form : String} (h : keyForm? key = some form) :
    '\r' ∉ form.toList := by
  unfold keyForm? at h
  split at h
  · next bare =>
    cases h
    unfold isBareName at bare
    rw [Bool.and_eq_true, List.all_eq_true] at bare
    intro member
    have named := bare.2 '\r' member
    revert named
    decide
  · exact return_not_mem_textForm h

/-! Values. -/

mutual

/-- Whether no date or time, which is written as it stands, is in a value. -/
def isTimeless : Value → Bool
  | .moment _ => false
  | .list items => areTimeless items
  | .dict entries => entriesTimeless entries
  | _ => true

def areTimeless : List Value → Bool
  | [] => true
  | v :: rest => isTimeless v && areTimeless rest

def entriesTimeless : List (String × Value) → Bool
  | [] => true
  | (_, v) :: rest => isTimeless v && entriesTimeless rest

end

theorem entriesTimeless_iff {t : Table} : entriesTimeless t ↔ ∀ entry ∈ t, isTimeless entry.2 := by
  induction t with
  | nil => exact iff_of_true rfl (List.forall_mem_nil _)
  | cons entry rest ih => rw [entriesTimeless, Bool.and_eq_true, ih, List.forall_mem_cons]

theorem areTimeless_texts (texts : List String) : areTimeless (texts.map .text) := by
  induction texts with
  | nil => rfl
  | cons text rest ih => exact ih

mutual

theorem return_not_mem_valueForm {v : Value} {form : String} (timeless : isTimeless v)
    (h : valueForm? v = some form) : '\r' ∉ form.toList := by
  cases v with
  | list items =>
      obtain ⟨forms, made, rfl⟩ := Option.map_eq_some_iff.1 h
      have clean := return_not_mem_itemForms timeless made
      simpa [String.toList_join] using clean
  | moment s => cases timeless
  | text s =>
      rw [valueForm?] at h
      exact return_not_mem_textForm h
  | octets bs =>
      rw [valueForm?] at h
      exact return_not_mem_textForm h
  | bool b =>
      cases h
      cases b <;> decide
  | int n =>
      cases h
      exact Numeral.return_not_mem_toString_int n
  | float x =>
      cases h
      exact x.return_not_mem_write (by decide)
  | cyclic => cases h
  | _ =>
      cases h
      decide

theorem return_not_mem_itemForms {items : List Value} {forms : List String}
    (timeless : areTimeless items) (h : itemForms? items = some forms) :
    ∀ form ∈ forms, '\r' ∉ form.toList := by
  cases items with
  | nil =>
      cases h
      exact List.forall_mem_nil _
  | cons v rest =>
      rw [areTimeless, Bool.and_eq_true] at timeless
      simp only [itemForms?, Option.bind_eq_bind, Option.bind_eq_some_iff] at h
      obtain ⟨first, one, others, later, made⟩ := h
      cases made
      have front := return_not_mem_valueForm timeless.1 one
      refine List.forall_mem_cons.2 ⟨?_, return_not_mem_itemForms timeless.2 later⟩
      simpa using front

end

/-! Tables. -/

theorem return_not_mem_plainLines {t : Table} {lines : String} (timeless : entriesTimeless t)
    (h : plainLines? t = some lines) : '\r' ∉ lines.toList := by
  induction t generalizing lines with
  | nil =>
      cases h
      decide
  | cons entry rest ih =>
      obtain ⟨key, v⟩ := entry
      rw [entriesTimeless, Bool.and_eq_true] at timeless
      rw [plainLines?, Option.bind_eq_bind, Option.bind_eq_some_iff] at h
      obtain ⟨others, later, made⟩ := h
      have behind := ih timeless.2 later
      split at made
      · cases made
        exact behind
      · cases made
        exact behind
      · simp only [Option.bind_eq_some_iff, Option.some.injEq] at made
        obtain ⟨name, named, form, formed, rfl⟩ := made
        have key := return_not_mem_keyForm named
        have value := return_not_mem_valueForm timeless.1 formed
        simp [key, value, behind]

/-- Tables with their names, without a carriage return or a date in them. -/
def Clean (tables : List (String × Table)) : Prop :=
  ∀ entry ∈ tables, '\r' ∉ entry.1.toList ∧ entriesTimeless entry.2

theorem clean_innerTables {name : String} (clean : '\r' ∉ name.toList) {t : Table}
    {inner : List (String × Table)} (timeless : entriesTimeless t)
    (h : innerTables? name t = some inner) : Clean inner := by
  induction t generalizing inner with
  | nil =>
      cases h
      exact List.forall_mem_nil _
  | cons entry rest ih =>
      obtain ⟨key, v⟩ := entry
      rw [entriesTimeless, Bool.and_eq_true] at timeless
      rw [innerTables?, Option.bind_eq_bind, Option.bind_eq_some_iff] at h
      obtain ⟨others, later, made⟩ := h
      have behind := ih timeless.2 later
      split at made
      · next t =>
        obtain ⟨form, formed, made⟩ := Option.bind_eq_some_iff.1 made
        cases made
        have key := return_not_mem_keyForm formed
        exact List.forall_mem_cons.2 ⟨⟨by simp [clean, key], timeless.1⟩, behind⟩
      · cases made
        exact behind

/-- The tables of the level below. -/
theorem clean_lowerTables {tables : List (String × Table)} (all : Clean tables)
    {inner : List (List (String × Table))}
    (h : tables.mapM (fun (name, t) => innerTables? (name ++ ".") t) = some inner) :
    Clean inner.flatten := by
  induction tables generalizing inner with
  | nil =>
      cases h
      exact List.forall_mem_nil _
  | cons entry rest ih =>
      obtain ⟨first, others⟩ := List.forall_mem_cons.1 all
      simp only [List.mapM_cons, Option.bind_eq_bind, Option.bind_eq_some_iff] at h
      obtain ⟨below, listed, inner, later, made⟩ := h
      cases made
      have named : '\r' ∉ (entry.1 ++ ".").toList := by simp [first.1]
      rw [List.flatten_cons]
      exact List.forall_mem_append.2 ⟨clean_innerTables named first.2 listed, ih others later⟩

theorem return_not_mem_addTable {text name : String} {t : Table} {longer : String}
    (clean : '\r' ∉ text.toList) (named : '\r' ∉ name.toList) (timeless : entriesTimeless t)
    (h : addTable? text name t = some longer) : '\r' ∉ longer.toList := by
  simp only [addTable?, Option.bind_eq_bind, Option.bind_eq_some_iff] at h
  obtain ⟨lines, written, inner, _, made⟩ := h
  have body := return_not_mem_plainLines timeless written
  split at made
  · cases made
    exact clean
  · cases made
    have gap : '\r' ∉ (if text = "" || text.endsWith "\n\n" then "" else "\n").toList := by
      split <;> decide
    simp only [String.toList_append, List.mem_append, not_or]
    exact ⟨⟨⟨⟨⟨clean, gap⟩, by decide⟩, named⟩, by decide⟩, body⟩

theorem return_not_mem_addTables {tables : List (String × Table)} (all : Clean tables)
    {text longer : String} (clean : '\r' ∉ text.toList)
    (h : tables.foldlM (fun text (name, t) => addTable? text name t) text = some longer) :
    '\r' ∉ longer.toList := by
  induction tables generalizing text with
  | nil =>
      cases h
      exact clean
  | cons entry rest ih =>
      obtain ⟨first, others⟩ := List.forall_mem_cons.1 all
      rw [List.foldlM_cons, Option.bind_eq_bind, Option.bind_eq_some_iff] at h
      obtain ⟨next, added, later⟩ := h
      exact ih others (return_not_mem_addTable clean first.1 first.2 added) later

theorem return_not_mem_addLevels {depth : Nat} {text longer : String} {tables : List (String × Table)}
    (all : Clean tables) (clean : '\r' ∉ text.toList)
    (h : addLevels? depth text tables = some longer) : '\r' ∉ longer.toList := by
  induction depth generalizing text tables with
  | zero =>
      cases h
      exact clean
  | succ depth ih =>
      simp only [addLevels?, Option.bind_eq_bind, Option.bind_eq_some_iff] at h
      obtain ⟨level, added, inner, listed, made⟩ := h
      have clean := return_not_mem_addTables all clean added
      split at made
      · cases made
        exact clean
      · exact ih (clean_lowerTables all listed) clean made

/-- No carriage return is written, unless as part of a date. -/
theorem return_not_mem_write {t : Table} {text : String} (timeless : entriesTimeless t)
    (h : write? t = some text) : '\r' ∉ text.toList := by
  simp only [write?, Option.bind_eq_bind, Option.bind_eq_some_iff] at h
  obtain ⟨lines, written, inner, listed, made⟩ := h
  exact return_not_mem_addLevels (clean_innerTables (by decide) timeless listed)
    (return_not_mem_plainLines timeless written) made

end Toml

namespace Settings

theorem unifyLineEnds_of_not_mem {cs : List Char} (clean : '\r' ∉ cs) : unifyLineEnds cs = cs := by
  fun_induction unifyLineEnds cs <;> simp_all

/-- A settings file is read as it was written. -/
theorem unifyLineEnds_write {t : Table} {text : String} (timeless : Toml.entriesTimeless t)
    (h : Toml.write? t = some text) : unifyLineEnds text.toList = text.toList :=
  unifyLineEnds_of_not_mem (Toml.return_not_mem_write timeless h)

end Settings

end ContentTracker
