import ContentTracker.Specifier
import Mathlib.Data.List.Induction
import Mathlib.Data.List.Nodup

/-! Lists in order of first appearance, and values that are grouped by keys in that order. -/

namespace ContentTracker

section FirstAppearances

variable {α : Type} [DecidableEq α]

theorem eraseDups_concat (as : List α) (a : α) :
    (as ++ [a]).eraseDups = if a ∈ as then as.eraseDups else as.eraseDups ++ [a] := by
  rw [List.eraseDups_append, List.removeAll]
  by_cases known : a ∈ as
  · rw [if_pos known, List.filter_cons_of_neg (by simp [known]), List.filter_nil, List.eraseDups_nil,
      List.append_nil]
  · rw [if_neg known, List.filter_cons_of_pos (by simp [known]), List.filter_nil,
      List.eraseDups_cons, List.filter_nil, List.eraseDups_nil]

theorem nodup_eraseDups (as : List α) : as.eraseDups.Nodup := by
  induction as using List.reverseRecOn with
  | nil => exact List.nodup_nil
  | append_singleton as a ih =>
      rw [eraseDups_concat]
      split
      · exact ih
      · next new =>
        refine List.nodup_append.2 ⟨ih, List.nodup_singleton a, ?_⟩
        rintro b earlier c last rfl
        exact new (List.mem_singleton.1 last ▸ List.mem_eraseDups.1 earlier)

/-- What is appended one by one unless it is known already comes in order of first appearance. -/
theorem foldl_new (known as : List α) :
    as.foldl (fun known a => if known.contains a then known else known ++ [a]) known.eraseDups =
      (known ++ as).eraseDups := by
  induction as generalizing known with
  | nil => rw [List.foldl_nil, List.append_nil]
  | cons a as ih =>
      have one : (if known.eraseDups.contains a then known.eraseDups else known.eraseDups ++ [a]) =
          (known ++ [a]).eraseDups := by
        simp only [eraseDups_concat, List.contains_iff_mem, List.mem_eraseDups]
      rw [List.foldl_cons, one, ih, List.append_assoc, List.singleton_append]

/-- Repetitions that are left out before a map would be left out behind it. -/
theorem eraseDups_append_map {β : Type} [DecidableEq β] (known : List β) (f : α → β) (as : List α) :
    (known ++ as.eraseDups.map f).eraseDups = (known ++ as.map f).eraseDups := by
  induction as using List.reverseRecOn with
  | nil => rfl
  | append_singleton as a ih =>
      have last : (known ++ (as ++ [a]).map f).eraseDups =
          if f a ∈ known ++ as.map f then (known ++ as.map f).eraseDups
          else (known ++ as.map f).eraseDups ++ [f a] := by
        rw [List.map_append, ← List.append_assoc]
        exact eraseDups_concat _ _
      rw [last, eraseDups_concat]
      by_cases repeated : a ∈ as
      · rw [if_pos repeated, if_pos (List.mem_append_right _ (List.mem_map_of_mem repeated)), ih]
      · rw [if_neg repeated, List.map_append, ← List.append_assoc, List.map_singleton,
          eraseDups_concat, ih]
        simp only [List.mem_append, List.mem_map, List.mem_eraseDups]

/-- Where the keys are different, one of them picks its own values from those of all. -/
theorem flatMap_key {β : Type} {keys : List α} {key : α} {values : α → List β}
    (distinct : keys.Nodup) (absent : key ∉ keys → values key = []) :
    (keys.flatMap fun k => if k = key then values k else []) = values key := by
  induction keys with
  | nil => exact (absent List.not_mem_nil).symm
  | cons k keys ih =>
      obtain ⟨first, later⟩ := List.nodup_cons.1 distinct
      rw [List.flatMap_cons]
      by_cases here : k = key
      · subst here
        have others : (keys.flatMap fun k' => if k' = k then values k' else []) = [] := by
          refine List.flatMap_eq_nil_iff.2 fun k' member => if_neg ?_
          rintro rfl
          exact first member
        rw [if_pos rfl, others, List.append_nil]
      · have missing : key ∉ keys → values key = [] := fun none => absent fun member =>
          (List.mem_cons.1 member).elim (fun same => here same.symm) none
        rw [if_neg here, List.nil_append, ih later missing]

end FirstAppearances

/-- Where the keys are different, one value is changed or one key appended. -/
theorem Grouped.update_map {κ α : Type} [DecidableEq κ] {keys : List κ} {key : κ} {fresh : α}
    {value : κ → α} (change : α → α) (distinct : keys.Nodup)
    (absent : key ∉ keys → value key = fresh) :
    Grouped.update key fresh change (keys.map fun k => (k, value k)) =
      (if key ∈ keys then keys else keys ++ [key]).map fun k =>
        (k, if k = key then change (value k) else value k) := by
  -- The key is found where it stands, and the keys behind it are others. Otherwise it is appended.
  induction keys with
  | nil =>
      have new := absent List.not_mem_nil
      simp [update, new]
  | cons k keys ih =>
      obtain ⟨first, later⟩ := List.nodup_cons.1 distinct
      rw [List.map_cons, update]
      by_cases here : k = key
      · subst here
        have others : keys.map (fun k' => (k', if k' = k then change (value k') else value k')) =
            keys.map fun k' => (k', value k') := by
          refine List.map_congr_left fun k' member => ?_
          rw [if_neg]
          rintro rfl
          exact first member
        rw [if_pos rfl, if_pos List.mem_cons_self, List.map_cons, if_pos rfl, others]
      · have missing : key ∉ keys → value key = fresh := fun none => absent fun member =>
          (List.mem_cons.1 member).elim (fun same => here same.symm) none
        rw [if_neg here, ih later missing]
        by_cases known : key ∈ keys
        · rw [if_pos known, if_pos (List.mem_cons_of_mem k known), List.map_cons, if_neg here]
        · rw [if_neg known, if_neg (by simp [known, Ne.symm here]), List.cons_append,
            List.map_cons, if_neg here]

/-- The keys stay, and a new one comes last. -/
theorem Grouped.keys_update {κ α : Type} [DecidableEq κ] (key : κ) (fresh : α) (change : α → α)
    (entries : Grouped κ α) : (Grouped.update key fresh change entries).map (·.1) =
      if key ∈ entries.map (·.1) then entries.map (·.1) else entries.map (·.1) ++ [key] := by
  induction entries with
  | nil => rfl
  | cons entry entries ih =>
      rw [update]
      by_cases here : entry.1 = key
      · simp [here]
      · have same : key ∈ (entry :: entries).map (·.1) ↔ key ∈ entries.map (·.1) := by
          simp [Ne.symm here]
        simp only [if_neg here, same]
        rw [List.map_cons, List.map_cons, ih]
        split <;> rfl

end ContentTracker
