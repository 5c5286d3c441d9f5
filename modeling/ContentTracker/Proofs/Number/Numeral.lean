import ContentTracker.Number.Numeral

/-! The decimal digits of a number are read as that number. -/

namespace ContentTracker.Numeral

/-- A digit has its value, and is neither a blank nor a sign nor an underscore. -/
theorem digitChar_spec {d : Nat} (h : d < 10) : Text.digitValue? (Nat.digitChar d) = some d ∧
    Text.isBlank (Nat.digitChar d) = false ∧ Nat.digitChar d ∉ ['+', '-', '_', ':'] := by
  revert d
  decide

theorem valueOf_concat (ds : List Nat) (d : Nat) : valueOf (ds ++ [d]) = valueOf ds * 10 + d := by
  rw [valueOf, List.foldl_append]
  rfl

theorem toDigits_eq_map (n : Nat) : ∃ ds, ds ≠ [] ∧ (∀ d ∈ ds, d < 10) ∧
    Nat.toDigits 10 n = ds.map Nat.digitChar ∧ valueOf ds = n := by
  induction n using Nat.strongRecOn with
  | ind n ih =>
      by_cases small : n < 10
      · refine ⟨[n], List.cons_ne_nil _ _, fun d member => ?_, Nat.toDigits_of_lt_base small, ?_⟩
        · rwa [List.mem_singleton.1 member]
        · exact Nat.zero_add n
      · obtain ⟨ds, _, digits, written, value⟩ := ih (n / 10) (by omega)
        refine ⟨ds ++ [n % 10], by simp, fun d member => ?_, ?_, ?_⟩
        · rcases List.mem_append.1 member with earlier | last
          · exact digits d earlier
          · rw [List.mem_singleton.1 last]
            exact Nat.mod_lt n (by decide)
        · rw [Nat.toDigits_of_base_le (by decide) (by omega), written, List.map_append]
          rfl
        · rw [valueOf_concat, value]
          omega

theorem takeDigits_map {ds : List Nat} (digits : ∀ d ∈ ds, d < 10) :
    takeDigits (ds.map Nat.digitChar) = (ds, []) := by
  induction ds with
  | nil => rfl
  | cons d ds ih =>
      obtain ⟨first, later⟩ := List.forall_mem_cons.1 digits
      rw [List.map_cons, takeDigits, (digitChar_spec first).1]
      dsimp only
      split
      · next e rest starts =>
        -- The next character is a digit and no underscore.
        cases ds with
        | nil => cases starts
        | cons next ds =>
            rw [List.map_cons, List.cons.injEq] at starts
            have clean := (digitChar_spec (later next List.mem_cons_self)).2.2
            rw [starts.1] at clean
            exact absurd (by decide) clean
      · rw [ih later]

theorem trimBlanks_of_solid {cs : List Char} (solid : ∀ c ∈ cs, Text.isBlank c = false) :
    trimBlanks cs = cs := by
  have kept {ds : List Char} (solid : ∀ c ∈ ds, Text.isBlank c = false) :
      ds.dropWhile isNumeralBlank = ds := by
    cases ds with
    | nil => rfl
    | cons c ds =>
        refine List.dropWhile_cons_of_neg ?_
        simp [isNumeralBlank, solid c List.mem_cons_self]
  rw [trimBlanks, kept solid, kept fun c member => solid c (List.mem_reverse.1 member),
    List.reverse_reverse]

theorem splitSign_of_unsigned {cs : List Char} (unsigned : '+' ∉ cs ∧ '-' ∉ cs) :
    splitSign cs = (false, cs) := by
  unfold splitSign
  split
  · exact absurd List.mem_cons_self unsigned.2
  · exact absurd List.mem_cons_self unsigned.1
  · rfl

theorem solid_of_mem_toDigits {n : Nat} {c : Char} (member : c ∈ Nat.toDigits 10 n) :
    Text.isBlank c = false ∧ c ∉ ['+', '-', '_', ':'] := by
  obtain ⟨ds, _, digits, written, _⟩ := toDigits_eq_map n
  rw [written] at member
  obtain ⟨d, listed, rfl⟩ := List.mem_map.1 member
  exact (digitChar_spec (digits d listed)).2

theorem readInt_toDigits {n : Nat} (short : (Nat.toDigits 10 n).length ≤ digitLimit) :
    readInt (String.ofList (Nat.toDigits 10 n)) = .ok n := by
  obtain ⟨ds, some, digits, written, value⟩ := toDigits_eq_map n
  have unsigned : '+' ∉ Nat.toDigits 10 n ∧ '-' ∉ Nat.toDigits 10 n :=
    ⟨fun member => (solid_of_mem_toDigits member).2 (by decide),
      fun member => (solid_of_mem_toDigits member).2 (by decide)⟩
  have trimmed : trimBlanks (Nat.toDigits 10 n) = Nat.toDigits 10 n :=
    trimBlanks_of_solid fun c member => (solid_of_mem_toDigits member).1
  have taken : takeDigits (Nat.toDigits 10 n) = (ds, []) := by rw [written, takeDigits_map digits]
  have filled : ds.isEmpty = false := List.isEmpty_eq_false_iff.2 some
  have fits : ¬ digitLimit < ds.length := by
    rw [written, List.length_map] at short
    omega
  simp only [readInt, String.toList_ofList, trimmed, splitSign_of_unsigned unsigned, taken, filled,
    fits, value, List.head?_nil, List.isEmpty_nil, Bool.false_or, Bool.not_true,
    Bool.false_eq_true, if_false, decide_false, reduceCtorEq]

end ContentTracker.Numeral
