import ContentTracker.Text.Blank

/-! Freeing a text of the blanks at its ends, and lower case, which keeps blanks. -/

namespace ContentTracker.Text

theorem dropWhile_isBlank {cs : List Char} (solid : ∀ c ∈ cs, isBlank c = false) :
    cs.dropWhile isBlank = cs := by
  cases cs with
  | nil => rfl
  | cons c cs =>
      refine List.dropWhile_cons_of_neg ?_
      rw [solid c List.mem_cons_self]
      exact Bool.false_ne_true

/-- Blanks around a text without any are dropped, and nothing else is. -/
theorem stripChars_between {before cs after : List Char} (leading : ∀ c ∈ before, isBlank c)
    (trailing : ∀ c ∈ after, isBlank c) (solid : ∀ c ∈ cs, isBlank c = false) :
    stripChars (before ++ cs ++ after) = cs := by
  have ending : ((cs ++ after).reverse.dropWhile isBlank).reverse = cs := by
    rw [List.reverse_append,
      List.dropWhile_append_of_pos fun c member => trailing c (List.mem_reverse.1 member),
      dropWhile_isBlank fun c member => solid c (List.mem_reverse.1 member), List.reverse_reverse]
  rw [stripChars, List.append_assoc, List.dropWhile_append_of_pos leading]
  cases cs with
  | nil =>
      have none : (after ++ []).dropWhile isBlank = [] := List.dropWhile_append_of_pos trailing
      rw [List.nil_append, ← List.append_nil after, none]
      rfl
  | cons c cs =>
      rw [List.cons_append, List.dropWhile_cons_of_neg]
      · exact ending
      · rw [solid c List.mem_cons_self]
        exact Bool.false_ne_true

theorem strip_between {before text after : String} (leading : ∀ c ∈ before.toList, isBlank c)
    (trailing : ∀ c ∈ after.toList, isBlank c) (solid : ∀ c ∈ text.toList, isBlank c = false) :
    strip (before ++ text ++ after) = text := by
  rw [strip, String.toList_append, String.toList_append,
    stripChars_between leading trailing solid, String.ofList_toList]

/-- A text that ends with a character other than a blank loses blanks at its front only. -/
theorem stripChars_concat {cs : List Char} {c : Char} (solid : isBlank c = false) :
    stripChars (cs ++ [c]) = cs.dropWhile isBlank ++ [c] := by
  have front : (cs ++ [c]).dropWhile isBlank = cs.dropWhile isBlank ++ [c] := by
    have last : [c].dropWhile isBlank = [c] := List.dropWhile_cons_of_neg (by simp [solid])
    rw [List.dropWhile_append, last]
    split
    · next none => rw [List.isEmpty_iff.1 none, List.nil_append]
    · rfl
  rw [stripChars, front, List.reverse_append, List.reverse_singleton, List.singleton_append,
    List.dropWhile_cons_of_neg (by simp [solid]), List.reverse_cons, List.reverse_reverse]

/-- A text freed of blanks does not begin with one. -/
theorem head_stripChars {cs rest : List Char} {c : Char} (h : stripChars cs = c :: rest) :
    isBlank c = false := by
  have front : c :: rest <+: cs.dropWhile isBlank := by
    rw [← h, stripChars, ← List.reverse_suffix, List.reverse_reverse]
    exact List.dropWhile_suffix _
  obtain ⟨more, parts⟩ := front
  have head : (cs.dropWhile isBlank).head? = some c := by rw [← parts]; rfl
  have kept := List.head?_dropWhile_not isBlank cs
  rw [head] at kept
  exact kept

theorem toNat_lower {c : Char} (h : 65 ≤ c.toNat ∧ c.toNat ≤ 90) :
    (Char.ofNat (c.toNat + 32)).toNat = c.toNat + 32 := by
  have valid : (c.toNat + 32).isValidChar := .inl (by omega)
  rw [Char.ofNat, dif_pos valid]
  rfl

theorem toLower_eq (c : Char) :
    c.toLower = if 65 ≤ c.toNat ∧ c.toNat ≤ 90 then Char.ofNat (c.toNat + 32) else c := by
  have letter : (c.val ≥ 'A'.val ∧ c.val ≤ 'Z'.val) ↔ 65 ≤ c.toNat ∧ c.toNat ≤ 90 := Iff.rfl
  delta Char.toLower
  by_cases upper : 65 ≤ c.toNat ∧ c.toNat ≤ 90
  · rw [if_pos upper, dif_pos (letter.2 upper), ← Char.toNat_inj, toNat_lower upper]
    change (c.val + 32).toNat = _
    rw [UInt32.toNat_add]
    exact Nat.mod_eq_of_lt (show c.toNat + 32 < 2 ^ 32 by omega)
  · rw [if_neg upper, dif_neg fun h => upper (letter.1 h)]

theorem toList_toLower (text : String) : text.toLower.toList = text.toList.map Char.toLower :=
  String.toList_map

theorem toLower_of_isBlank {c : Char} (h : isBlank c) : c.toLower = c := by
  rw [toLower_eq, if_neg]
  intro upper
  simp [isBlank] at h
  omega

/-- A text has no blanks if it has none in lower case. -/
theorem solid_of_toLower {text : String} (solid : ∀ c ∈ text.toLower.toList, isBlank c = false) :
    ∀ c ∈ text.toList, isBlank c = false := by
  intro c member
  cases blank : isBlank c with
  | false => rfl
  | true =>
      have still : c ∈ text.toLower.toList := by
        rw [toList_toLower]
        exact List.mem_map.2 ⟨c, member, toLower_of_isBlank blank⟩
      exact blank.symm.trans (solid c still)

end ContentTracker.Text
