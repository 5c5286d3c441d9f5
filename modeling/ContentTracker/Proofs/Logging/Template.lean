import ContentTracker.Logging.Template

/-! Templates of letters and of places for named arguments that are written as text. -/

namespace ContentTracker.Logging.Template

variable {t : Table}

/-- What a template is filled with from a table: letters stand for themselves, and a place for the
text of the value that its name has there. -/
inductive Fills (t : Table) : (template text : List Char) → Prop
  | nil : Fills t [] []
  | letter {c : Char} {rest text : List Char} (plain : c ≠ '%') (later : Fills t rest text) :
      Fills t (c :: rest) (c :: text)
  | part {name v : String} {value : Value} {rest text : List Char} (unopened : '(' ∉ name.toList)
      (unclosed : ')' ∉ name.toList) (found : t.find? name = some value)
      (shown : value.written Value.plain = .ok v) (later : Fills t rest text) :
      Fills t ('%' :: '(' :: (name.toList ++ ')' :: 's' :: rest)) (v.toList ++ text)

theorem readKey_closed {name : List Char} (unopened : '(' ∉ name) (unclosed : ')' ∉ name)
    (rest : List Char) (position : Nat) (read : List Char) :
    readKey 0 ⟨name ++ ')' :: rest, position⟩ read (name ++ ')' :: rest) =
      .ok (String.ofList (read.reverse ++ name), ⟨rest, position + name.length + 1⟩) := by
  induction name generalizing position read with
  | nil =>
      rw [List.append_nil]
      rfl
  | cons c name ih =>
      have open' : c ≠ '(' := (List.ne_of_not_mem_cons unopened).symm
      have close : c ≠ ')' := (List.ne_of_not_mem_cons unclosed).symm
      rw [List.cons_append, readKey, if_neg close, if_neg open', Cursor.advance, List.tail_cons,
        ih (List.not_mem_of_not_mem_cons unopened) (List.not_mem_of_not_mem_cons unclosed),
        List.reverse_cons, List.append_assoc, List.length_cons, Nat.add_right_comm position,
        Nat.add_assoc position]
      rfl

theorem selectNamed_found {name : String} {v : Value} (found : t.find? name = some v)
    (next : List Value) : selectNamed ⟨next, some t⟩ name = .ok ⟨[v], some t⟩ := by
  rw [selectNamed]
  dsimp only
  rw [found]

/-- A place that names its argument and writes it as text. -/
theorem readSlot_part {name : String} {v : Value} (unopened : '(' ∉ name.toList)
    (unclosed : ')' ∉ name.toList) (found : t.find? name = some v) (rest : List Char)
    (position : Nat) (next : List Value) : ∃ slot behind : Nat,
    readSlot ⟨'(' :: (name.toList ++ ')' :: 's' :: rest), position⟩ ⟨next, some t⟩ =
      .ok ({ key := some name, position := slot }, ⟨rest, behind⟩, ⟨[v], some t⟩) := by
  refine ⟨position + 1 + name.toList.length + 1, position + 1 + name.toList.length + 1 + 1, ?_⟩
  have key := readKey_closed unopened unclosed ('s' :: rest) (position + 1) []
  rw [List.reverse_nil, List.nil_append, String.ofList_toList] at key
  rw [readSlot]
  simp only [Cursor.advance, List.tail_cons, key]
  change (selectNamed ⟨next, some t⟩ name >>= _) = _
  rw [selectNamed_found found]
  rfl

theorem pad_bare (slot : Slot) (bare : slot.width = 0) (text : String) :
    pad slot false "" "" text = text := by
  simp [pad, bare]

theorem fillFrom_letter {c : Char} (plain : c ≠ '%') (rest : List Char) (fuel position : Nat)
    (args : Arguments) :
    fillFrom (fuel + 1) ⟨c :: rest, position⟩ args =
      (fillFrom fuel ⟨rest, position + 1⟩ args).map (String.ofList [c] ++ ·) := by
  rw [fillFrom]
  split
  · next h => cases h
  · next h => exact absurd (List.cons.inj h).1 plain
  · next h => exact absurd (List.cons.inj h).1 plain
  · next h =>
      cases h
      rfl

theorem fillFrom_part {name text : String} {v : Value} (unopened : '(' ∉ name.toList)
    (unclosed : ')' ∉ name.toList) (found : t.find? name = some v)
    (shown : v.written Value.plain = .ok text) (rest : List Char) (fuel position : Nat)
    (next : List Value) : ∃ behind : Nat,
    fillFrom (fuel + 1) ⟨'%' :: '(' :: (name.toList ++ ')' :: 's' :: rest), position⟩
        ⟨next, some t⟩ =
      (fillFrom fuel ⟨rest, behind⟩ ⟨[], some t⟩).map (text ++ ·) := by
  obtain ⟨slot, behind, read⟩ :=
    readSlot_part unopened unclosed found rest (position + 1) next
  refine ⟨behind, ?_⟩
  rw [fillFrom]
  dsimp only [Cursor.advance, List.tail_cons]
  rw [read]
  change (do
    let text ← (v.written Value.plain).map (writeText _)
    return text ++ (← fillFrom fuel ⟨rest, behind⟩ ⟨[], some t⟩)) = _
  rw [shown, Except.map, writeText, pad_bare _ rfl]
  rfl

/-- The fuel that the length of a template gives is enough, and it is filled as its pieces say. -/
theorem fillFrom_fills {template text : List Char} (fills : Fills t template text) {fuel : Nat}
    (enough : template.length < fuel) (position : Nat) (next : List Value) :
    fillFrom fuel ⟨template, position⟩ ⟨next, some t⟩ = .ok (String.ofList text) := by
  -- Every place uses up the arguments that were next, so they are general like the fuel.
  induction fills generalizing fuel position next with
  | nil =>
      obtain ⟨fuel, rfl⟩ := Nat.exists_eq_add_one_of_ne_zero (Nat.ne_of_gt enough)
      rfl
  | letter plain later ih =>
      obtain ⟨fuel, rfl⟩ := Nat.exists_eq_add_one_of_ne_zero (Nat.ne_zero_of_lt enough)
      rw [fillFrom_letter plain, ih (Nat.lt_of_succ_lt_succ enough)]
      exact congrArg Except.ok (String.ofList_append).symm
  | @part name v value rest text unopened unclosed found shown later ih =>
      obtain ⟨fuel, rfl⟩ := Nat.exists_eq_add_one_of_ne_zero (Nat.ne_zero_of_lt enough)
      obtain ⟨behind, step⟩ :=
        fillFrom_part unopened unclosed found shown rest fuel position next
      have left : rest.length < fuel := by
        simp only [List.length_cons, List.length_append] at enough
        omega
      rw [step, ih left]
      refine congrArg Except.ok ?_
      rw [String.ofList_append, String.ofList_toList]

theorem render_fills {template : String} {text : List Char} (fills : Fills t template.toList text)
    (next : List Value) : render template ⟨next, some t⟩ = .ok (String.ofList text) :=
  fillFrom_fills fills (by rw [String.length_toList]; exact Nat.lt_succ_self _) 0 next

end ContentTracker.Logging.Template
