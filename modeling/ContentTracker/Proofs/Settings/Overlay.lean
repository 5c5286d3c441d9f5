import ContentTracker.Proofs.Settings.Fields
import ContentTracker.Proofs.Settings.Loading
import Mathlib.Data.List.Basic

/-! The environment put over a settings file. Each variable decides one setting and nothing else: what
is validated holds the value of every variable that is set, and at all other paths what the file
holds. -/

namespace ContentTracker

namespace Settings

/-- The keys that lead to the setting of a variable. -/
def Variable.path (var : Variable) : List String := [var.sectionName, var.key]

/-- The value that a variable gives to its setting, if it is set. -/
def Variable.given? (environment : List (String × String)) (var : Variable) : Option Value :=
  (environment.lookup var.name).map var.value

/-- The value that some variable gives to a setting. -/
def given? (environment : List (String × String)) (vars : List Variable) (sectionName key : String) :
    Option Value :=
  vars.findSome? fun var =>
    if var.path = [sectionName, key] then var.given? environment else none

theorem Variable.asDict?_value (var : Variable) (raw : String) : (var.value raw).asDict? = none := by
  unfold Variable.value parseText
  dsimp only
  repeat' split
  all_goals rfl

/-! The settings of the environment, as a table. -/

section Environment

variable {environment : List (String × String)}

theorem setIn_eq (t : Table) (sectionName key : String) (v : Value) :
    setIn t sectionName key v = t.put sectionName (.dict ((t.inner sectionName).put key v)) := by
  unfold setIn Table.inner
  cases t.find? sectionName with
  | none => rfl
  | some old => cases old <;> rfl

/-- Sets the setting of a variable. -/
def overlay (environment : List (String × String)) (t : Table) (var : Variable) : Table :=
  match environment.lookup var.name with
  | none => t
  | some raw => setIn t var.sectionName var.key (var.value raw)

theorem foldl_overlay_of_unset {vars : List Variable}
    (unset : ∀ var ∈ vars, (var.given? environment).isSome = false) (t : Table) :
    vars.foldl (overlay environment) t = t := by
  induction vars generalizing t with
  | nil => rfl
  | cons var rest ih =>
      obtain ⟨first, later⟩ := List.forall_mem_cons.1 unset
      have missing : environment.lookup var.name = none := by
        rw [Variable.given?, Option.isSome_map] at first
        exact Option.not_isSome_iff_eq_none.1 (by rw [first]; exact Bool.false_ne_true)
      rw [List.foldl_cons, ih later, overlay, missing]

/-- A table of sections, each key once, whose settings are no tables. -/
structure Flat (t : Table) : Prop where
  once : (t.map Prod.fst).Nodup
  sections : ∀ name v, t.find? name = some v → ∃ entries, v = .dict entries ∧
    (entries.map Prod.fst).Nodup ∧ ∀ key w, Table.find? entries key = some w → w.asDict? = none

theorem Flat.inner {t : Table} (flat : Flat t) (name : String) :
    ((t.inner name).map Prod.fst).Nodup ∧
      ∀ key w, (t.inner name).find? key = some w → w.asDict? = none := by
  unfold Table.inner
  cases found : t.find? name with
  | none => exact ⟨List.nodup_nil, fun _ _ h => nomatch h⟩
  | some v =>
      obtain ⟨entries, rfl, inside⟩ := flat.sections name v found
      exact inside

theorem Flat.overlay {t : Table} (flat : Flat t) (var : Variable) :
    Flat (overlay environment t var) := by
  unfold Settings.overlay
  cases environment.lookup var.name with
  | none => exact flat
  | some raw =>
      have made : setIn t var.sectionName var.key (var.value raw) = t.put var.sectionName
          (.dict ((t.inner var.sectionName).put var.key (var.value raw))) := setIn_eq ..
      obtain ⟨once, plain⟩ := flat.inner var.sectionName
      dsimp only
      rw [made]
      refine ⟨Table.nodup_put flat.once _ _, fun name v found => ?_⟩
      rw [Table.find?_put] at found
      split at found
      · cases found
        refine ⟨_, rfl, Table.nodup_put once _ _, fun key w found => ?_⟩
        rw [Table.find?_put] at found
        split at found
        · cases found
          exact var.asDict?_value raw
        · exact plain key w found
      · exact flat.sections name v found

theorem ofEnvironment_eq (environment : List (String × String)) :
    ofEnvironment environment = knownVariables.foldl (overlay environment) [] := rfl

end Environment

/-! Merging. -/

section Gathered

variable (file : Table) (environment : List (String × String))

theorem gather_of_unset (unset : ∀ var ∈ knownVariables, (var.given? environment).isSome = false) :
    gather file environment = file := by
  rw [gather, ofEnvironment_eq, foldl_overlay_of_unset unset, merge]

end Gathered

/-- The settings that were loaded, as a value in which keys lead to them. -/
def value (s : Settings) : Value := .dict s.table

end Settings

end ContentTracker
