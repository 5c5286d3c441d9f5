import ContentTracker.Value

/-! Tables by what is found in them: under one key, and along a path of keys through tables inside
tables. Tables with the same entries in another order hold the same. -/

namespace ContentTracker

namespace Table

theorem find?_cons (k : String) (v : Value) (rest : Table) (key : String) :
    find? ((k, v) :: rest) key = if key = k then some v else find? rest key := by
  rw [find?, List.lookup_cons]
  by_cases same : key = k
  · rw [if_pos same, beq_iff_eq.2 same]
  · rw [if_neg same, beq_eq_false_iff_ne.2 same]
    rfl

theorem find?_put (t : Table) (key other : String) (v : Value) :
    (t.put key v).find? other = if other = key then some v else t.find? other := by
  induction t with
  | nil => exact find?_cons key v [] other
  | cons entry rest ih =>
      obtain ⟨k, old⟩ := entry
      rw [put]
      by_cases here : k = key
      · rw [if_pos here, find?_cons, find?_cons, here]
        split <;> rfl
      · rw [if_neg here, find?_cons, find?_cons, ih]
        by_cases found : other = k
        · rw [if_pos found, if_pos found, if_neg (found ▸ here)]
        · rw [if_neg found, if_neg found]

theorem find?_put_self (t : Table) (key : String) (v : Value) :
    (t.put key v).find? key = some v := by
  rw [find?_put, if_pos rfl]

theorem find?_put_ne (t : Table) {key other : String} (h : other ≠ key) (v : Value) :
    (t.put key v).find? other = t.find? other := by
  rw [find?_put, if_neg h]

theorem keys_put (t : Table) (key : String) (v : Value) {k : String} :
    k ∈ (t.put key v).map Prod.fst ↔ k = key ∨ k ∈ t.map Prod.fst := by
  induction t with
  | nil => simp [put]
  | cons entry rest ih =>
      rw [put]
      by_cases here : entry.1 = key
      · rw [if_pos here]
        simp [here]
      · rw [if_neg here, List.map_cons, List.mem_cons, ih, List.map_cons, List.mem_cons]
        exact or_left_comm

theorem nodup_put {t : Table} (once : (t.map Prod.fst).Nodup) (key : String) (v : Value) :
    ((t.put key v).map Prod.fst).Nodup := by
  induction t with
  | nil => simp [put]
  | cons entry rest ih =>
      obtain ⟨fresh, later⟩ := List.nodup_cons.1 once
      rw [put]
      by_cases here : entry.1 = key
      · rw [if_pos here]
        exact List.nodup_cons.2 ⟨fresh, later⟩
      · rw [if_neg here]
        refine List.nodup_cons.2 ⟨fun member => ?_, ih later⟩
        exact ((keys_put rest key v).1 member).elim here fresh

theorem find?_eq_none_of_not_mem {t : Table} {key : String} (absent : key ∉ t.map Prod.fst) :
    t.find? key = none := by
  induction t with
  | nil => rfl
  | cons entry rest ih =>
      obtain ⟨k, v⟩ := entry
      rw [List.map_cons, List.mem_cons, not_or] at absent
      rw [find?_cons, if_neg absent.1, ih absent.2]

/-- A table of the values that a test passes. -/
theorem find?_filter {t : Table} (once : (t.map Prod.fst).Nodup) (test : Value → Bool) (key : String) :
    find? (t.filter fun e => test e.2) key = (t.find? key).filter test := by
  induction t with
  | nil => rfl
  | cons entry rest ih =>
      obtain ⟨k, v⟩ := entry
      obtain ⟨fresh, later⟩ := List.nodup_cons.1 once
      rw [List.filter_cons, find?_cons]
      by_cases here : key = k
      · subst here
        have missing : find? (rest.filter fun e => test e.2) key = none :=
          (ih later).trans (by rw [find?_eq_none_of_not_mem fresh]; rfl)
        rw [if_pos rfl, Option.filter_some]
        cases test v with
        | true => exact (find?_cons key v _ key).trans (if_pos rfl)
        | false => exact missing
      · rw [if_neg here, ← ih later]
        split
        · rw [find?_cons, if_neg here]
        · rfl

/-- The table under a key, empty if there is none. -/
def inner (t : Table) (key : String) : Table := ((t.find? key).bind Value.asDict?).getD []

end Table

/-- The entries of one table are those of another in some order, with values that are related. -/
inductive Table.Matches (R : Value → Value → Prop) : Table → Table → Prop
  | nil : Matches R [] []
  | cons {key : String} {v w : Value} {t before after : Table} (values : R v w)
      (others : Matches R t (before ++ after)) :
      Matches R ((key, v) :: t) (before ++ (key, w) :: after)

/-- The same data. The entries of tables may be in another order, at every depth. -/
inductive Value.Same : Value → Value → Prop
  | plain (v : Value) : Same v v
  | dict {t u : Table} (entries : Table.Matches Same t u) : Same (.dict t) (.dict u)

/-- Data that is no table is the same only if it is equal. -/
theorem Value.Same.eq_of_plain {v w : Value} (same : v.Same w) (plain : w.asDict? = none) :
    v = w := by
  cases same with
  | plain => rfl
  | dict entries => cases plain

theorem Value.Same.matches {v : Value} {u : Table} (same : v.Same (.dict u)) :
    ∃ t : Table, v = .dict t ∧ t.Matches Value.Same u := by
  cases same with
  | dict entries => exact ⟨_, rfl, entries⟩
  | plain =>
      refine ⟨u, rfl, ?_⟩
      induction u with
      | nil => exact .nil
      | cons entry rest ih =>
          have others : Table.Matches Value.Same rest ([] ++ rest) := ih
          exact .cons (.plain entry.2) others

/-! A test for the same data, for values such as settings have. -/

/-- A value of a setting that is no table. -/
inductive Atom
  | bool (b : Bool)
  | int (n : Int)
  | float (x : Binary64)
  | text (s : String)
  | texts (ss : List String)
deriving DecidableEq

def Atom.value : Atom → Value
  | .bool b => .bool b
  | .int n => .int n
  | .float x => .float x
  | .text s => .text s
  | .texts ss => .list (ss.map .text)

def Value.atom? : Value → Option Atom
  | .bool b => some (.bool b)
  | .int n => some (.int n)
  | .float x => some (.float x)
  | .text s => some (.text s)
  | .list items => (items.mapM Value.asText?).map .texts
  | _ => none

theorem Value.eq_map_of_texts {items : List Value} {texts : List String}
    (h : items.mapM Value.asText? = some texts) : items = texts.map .text := by
  induction items generalizing texts with
  | nil =>
      cases h
      rfl
  | cons v rest ih =>
      rw [List.mapM_cons] at h
      obtain ⟨text, first, h⟩ := Option.bind_eq_some_iff.1 h
      obtain ⟨others, later, made⟩ := Option.bind_eq_some_iff.1 h
      cases made
      cases v with
      | text s =>
          cases first
          rw [ih later, List.map_cons]
      | _ => cases first

theorem Value.eq_of_atom {v : Value} {a : Atom} (h : v.atom? = some a) : v = a.value := by
  cases v with
  | list items =>
      obtain ⟨texts, read, rfl⟩ := Option.map_eq_some_iff.1 h
      rw [eq_map_of_texts read]
      rfl
  | bool b | int n | float x | text s =>
      cases h
      rfl
  | _ => cases h

mutual

def Value.same? : Value → Value → Bool
  | .dict t, .dict u => Table.matches? t u
  | v, w => v.atom?.isSome && v.atom? = w.atom?

def Table.matches? : List (String × Value) → Table → Bool
  | [], u => u.isEmpty
  | (key, v) :: t, u =>
    match u.dropWhile (·.1 ≠ key) with
    | (k, w) :: after =>
      k = key && Value.same? v w && Table.matches? t (u.takeWhile (·.1 ≠ key) ++ after)
    | [] => false

end

theorem Value.same_of_atom {v w : Value} (h : v.atom?.isSome && v.atom? = w.atom?) : v.Same w := by
  rw [Bool.and_eq_true, decide_eq_true_eq] at h
  obtain ⟨a, told⟩ := Option.isSome_iff_exists.1 h.1
  have again : w.atom? = some a := h.2 ▸ told
  rw [eq_of_atom told, eq_of_atom again]
  exact .plain a.value

mutual

theorem Value.same_of_test {v w : Value} (h : Value.same? v w) : v.Same w := by
  cases v with
  | dict t => cases w with
    | dict u => exact .dict (Table.matches_of_test h)
    | _ => cases h
  | _ => exact Value.same_of_atom h

theorem Table.matches_of_test {t u : Table} (h : Table.matches? t u) :
    t.Matches Value.Same u := by
  cases t with
  | nil =>
      cases u with
      | nil => exact .nil
      | cons => cases h
  | cons entry rest =>
      obtain ⟨key, v⟩ := entry
      rw [Table.matches?] at h
      split at h
      · next k w after found =>
        simp only [Bool.and_eq_true, decide_eq_true_eq] at h
        obtain ⟨⟨rfl, values⟩, others⟩ := h
        have parts := List.takeWhile_append_dropWhile (p := fun e => decide (e.1 ≠ k)) (l := u)
        rw [found] at parts
        rw [← parts]
        exact .cons (Value.same_of_test values) (Table.matches_of_test others)
      · cases h

end

namespace Table

variable {R : Value → Value → Prop} {t u : Table}

theorem find?_append (t u : Table) (key : String) :
    find? (t ++ u) key = (t.find? key).or (u.find? key) := List.lookup_append

/-- Where no key stands twice, matching tables hold related values under every key. -/
theorem Matches.find? (matching : t.Matches R u) (once : (u.map Prod.fst).Nodup) (key : String) :
    Option.Rel R (t.find? key) (u.find? key) := by
  induction matching with
  | nil => exact .none
  | @cons k v w t before after values others ih =>
      rw [List.map_append, List.map_cons] at once
      have fresh : k ∉ before.map Prod.fst := fun member =>
        (List.nodup_append.1 once).2.2 k member k (.head _) rfl
      have rest : ((before ++ after).map Prod.fst).Nodup := by
        rw [List.map_append]
        exact once.sublist (List.Sublist.append_left (List.sublist_cons_self _ _) _)
      rw [find?_cons, find?_append, find?_cons]
      split
      · next here =>
        subst here
        rw [find?_eq_none_of_not_mem fresh, Option.none_or]
        exact .some values
      · rw [← find?_append]
        exact ih rest

theorem Matches.find?_dict (matching : t.Matches Value.Same u) (once : (u.map Prod.fst).Nodup)
    {key : String} {inside : Table} (found : u.find? key = some (.dict inside)) :
    ∃ entries : Table, t.find? key = some (.dict entries) ∧ entries.Matches Value.Same inside := by
  have related := matching.find? once key
  rw [found] at related
  generalize t.find? key = there at related ⊢
  cases related with
  | some same =>
      obtain ⟨entries, rfl, matching⟩ := same.matches
      exact ⟨entries, rfl, matching⟩

/-- Where the values are equal, one table is the other in another order. -/
theorem Matches.perm (matching : t.Matches R u) (equal : ∀ e ∈ u, ∀ v, R v e.2 → v = e.2) :
    t.Perm u := by
  induction matching with
  | nil => exact .nil
  | @cons k v w t before after values others ih =>
      obtain rfl : v = w :=
        equal (k, w) (List.mem_append_right _ (.head _)) v values
      refine (List.Perm.cons _ (ih fun e member => equal e ?_)).trans List.perm_middle.symm
      exact (List.mem_append.1 member).elim (List.mem_append_left _) fun later =>
        List.mem_append_right _ (.tail _ later)

end Table

end ContentTracker
