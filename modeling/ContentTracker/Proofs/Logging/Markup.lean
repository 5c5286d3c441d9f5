import ContentTracker.Logging.Markup

/-! What is left of a text whose style tags are taken out: all that stands outside brackets, and a
bracketed word unless it reads as a tag. -/

namespace ContentTracker.Logging.Markup

/-- Whether a bracketed word reads as a tag. -/
def opensTag : List Char → Bool
  | '/' :: c :: _ => opensName c
  | c :: _ => opensName c
  | [] => false

theorem stripChars_cons {c : Char} (plain : c ≠ '[') (rest : List Char) :
    stripChars (c :: rest) = c :: stripChars rest := by
  rw [stripChars]
  exact fun opening => plain opening

/-- What stands before the first bracket stays. -/
theorem stripChars_append {cs : List Char} (plain : '[' ∉ cs) (rest : List Char) :
    stripChars (cs ++ rest) = cs ++ stripChars rest := by
  induction cs with
  | nil => rfl
  | cons c cs ih =>
      have other : c ≠ '[' := (List.ne_of_not_mem_cons plain).symm
      rw [List.cons_append, stripChars_cons other, ih (List.not_mem_of_not_mem_cons plain),
        List.cons_append]

theorem dropWhile_closing {word : List Char} (unclosed : ']' ∉ word) (rest : List Char) :
    (word ++ ']' :: rest).dropWhile (· ≠ ']') = ']' :: rest := by
  rw [List.dropWhile_append_of_pos]
  · rfl
  · exact fun c member => decide_eq_true fun closing => unclosed (closing ▸ member)

theorem behindName?_cons {c : Char} {word : List Char} (unclosed : ']' ∉ word) (rest : List Char) :
    behindName? (c :: (word ++ ']' :: rest)) = if opensName c then some rest else none := by
  rw [behindName?, dropWhile_closing unclosed]
  rfl

theorem behindTag?_of_ne {c : Char} (plain : c ≠ '/') (rest : List Char) :
    behindTag? (c :: rest) = behindName? (c :: rest) := by
  rw [behindTag?]
  intro rest slash
  exact plain (List.cons.inj slash).1

theorem behindTag?_closed {word : List Char} (unclosed : ']' ∉ word) (rest : List Char) :
    behindTag? (word ++ ']' :: rest) = if opensTag word then some rest else none := by
  cases word with
  | nil => rfl
  | cons c word =>
      have later : ']' ∉ word := List.not_mem_of_not_mem_cons unclosed
      by_cases slash : c = '/'
      · subst slash
        -- Behind a slash alone stands the closing bracket, which begins no name.
        cases word with
        | nil => rfl
        | cons d word => exact behindName?_cons (List.not_mem_of_not_mem_cons later) rest
      · have same : opensTag (c :: word) = opensName c := by
          rw [opensTag]
          exact fun _ _ slashed _ => slash slashed
        rw [List.cons_append, behindTag?_of_ne slash, behindName?_cons later, same]

/-- A bracketed word goes if it reads as a tag, and else stays as it is. -/
theorem stripChars_bracketed {word : List Char} (unopened : '[' ∉ word) (unclosed : ']' ∉ word)
    (rest : List Char) : stripChars ('[' :: (word ++ ']' :: rest)) =
      (if opensTag word then [] else '[' :: (word ++ [']'])) ++ stripChars rest := by
  rw [stripChars, behindTag?_closed unclosed]
  cases opensTag word with
  | true => rfl
  | false =>
      change '[' :: stripChars (word ++ ']' :: rest) = _
      rw [stripChars_append unopened, stripChars_cons (by decide)]
      simp

end ContentTracker.Logging.Markup
