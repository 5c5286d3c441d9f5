import ContentTracker.Proofs.Settings.Validated
import ContentTracker.Settings.Manager

/-! Loaded settings. They were accepted, and they are loaded again from the same files, however many
folders have been made. -/

namespace ContentTracker

/-- A disk with the same files and perhaps more folders. -/
structure Disk.Grown (d t : Disk) : Prop where
  workingFolder : t.workingFolder = d.workingFolder
  home : t.home = d.home
  files : t.files = d.files
  folders : ∀ p ∈ d.folders, p ∈ t.folders

namespace Disk

variable {d t u : Disk}

theorem Grown.refl (d : Disk) : d.Grown d := ⟨rfl, rfl, rfl, fun _ h => h⟩

theorem Grown.trans (h : d.Grown t) (k : t.Grown u) : d.Grown u :=
  ⟨k.workingFolder.trans h.workingFolder, k.home.trans h.home, k.files.trans h.files,
    fun p there => k.folders p (h.folders p there)⟩

theorem Grown.isFolder (h : d.Grown t) {p : Place} (there : d.isFolder p) : t.isFolder p := by
  simp only [Disk.isFolder, workingPlace, h.workingFolder, h.files, Bool.or_eq_true,
    List.any_eq_true] at there ⊢
  obtain (around | ⟨q, made, inside⟩) | holds := there
  · exact .inl (.inl around)
  · exact .inl (.inr ⟨q, h.folders q made, inside⟩)
  · exact .inr holds

/-- Names lead to the same place where no folder is missing. -/
theorem follow?_of_folders (kept : ∀ p, d.isFolder p → t.isFolder p) {place q : Place}
    {names : List String} (leads : d.follow? place names = some q) :
    t.follow? place names = some q := by
  induction names generalizing place with
  | nil => exact leads
  | cons name rest ih =>
      rw [Disk.follow?] at leads ⊢
      split at leads
      · next up =>
        rw [if_pos up]
        split at leads
        · next inside =>
          rw [if_pos (kept place inside)]
          exact ih leads
        · cases leads
      · next down =>
        rw [if_neg down]
        exact ih leads

/-- Files are found as before. -/
theorem Grown.file (h : d.Grown t) {p : Place} {content : Octets}
    (there : d.entry? p = some (.file content)) : t.entry? p = some (.file content) := by
  obtain ⟨q, leads, stands⟩ := Option.bind_eq_some_iff.1 there
  refine Option.bind_eq_some_iff.2 ⟨q, follow?_of_folders (fun _ => h.isFolder) leads, ?_⟩
  unfold standing? at stands ⊢
  rw [h.files]
  split at stands
  · exact stands
  · split at stands
    · cases stands
    · cases stands

end Disk

namespace Settings

variable {s t : Surroundings} {file : Option Path} {settings : Settings}

/-- The table of a file, or an empty one if there is no file. -/
def Reads (d : Disk) (table : Table) : Option Path → Prop
  | some p => readFile d p = .ok table
  | none => table = []

theorem load_of_reads {table : Table} (reads : Reads s.disk table file) :
    load s file = (ofTable (gather table s.environment)).mapError .misconfigured := by
  unfold load
  cases file with
  | none =>
      cases reads
      rfl
  | some p =>
      have read : readFile s.disk p = .ok table := reads
      simp only [read]
      rfl

theorem load_eq_ok : load s file = .ok settings ↔
    ∃ table, Reads s.disk table file ∧ ofTable (gather table s.environment) = .ok settings := by
  have accepted (table : Table) : (ofTable (gather table s.environment)).mapError
      Problem.misconfigured = .ok settings ↔
      ofTable (gather table s.environment) = .ok settings := by
    cases ofTable (gather table s.environment) with
    | error es => exact iff_of_false nofun nofun
    | ok same =>
        constructor
        · rintro ⟨⟩
          rfl
        · rintro ⟨⟩
          rfl
  cases file with
  | none =>
      constructor
      · intro loaded
        exact ⟨[], rfl, (accepted []).1 loaded⟩
      · rintro ⟨_, rfl, checked⟩
        exact (accepted []).2 checked
  | some p =>
      unfold load Reads
      dsimp only
      cases readFile s.disk p with
      | error problem => exact iff_of_false nofun nofun
      | ok table =>
          constructor
          · intro loaded
            exact ⟨table, rfl, (accepted table).1 loaded⟩
          · rintro ⟨_, ⟨⟩, checked⟩
            exact (accepted table).2 checked

theorem meaningful_of_load (loaded : load s file = .ok settings) : settings.Meaningful := by
  obtain ⟨table, _, checked⟩ := load_eq_ok.1 loaded
  exact meaningful_of_table checked

theorem readFile_of_grown {d u : Disk} (h : d.Grown u) {p : Path} {table : Table}
    (read : readFile d p = .ok table) : readFile u p = .ok table := by
  unfold readFile at read ⊢
  split at read
  · cases read
  · cases read
  · next content found =>
    rw [h.file found]
    exact read

theorem load_of_grown (environment : t.environment = s.environment) (h : s.disk.Grown t.disk)
    (loaded : load s file = .ok settings) : load t file = .ok settings := by
  obtain ⟨table, reads, checked⟩ := load_eq_ok.1 loaded
  refine load_eq_ok.2 ⟨table, ?_, environment ▸ checked⟩
  cases file with
  | none => exact reads
  | some p => exact readFile_of_grown h reads

end Settings

theorem Manager.settings_of_load {s : Surroundings} {named : Option String} {m : Manager}
    (loaded : load s named = .ok m) : Settings.load s m.file = .ok m.settings := by
  unfold load at loaded
  dsimp only at loaded
  cases found : Settings.load s (Settings.findFile s.disk named) with
  | error p =>
      rw [found] at loaded
      cases loaded
  | ok settings =>
      rw [found] at loaded
      cases loaded
      exact found

end ContentTracker
