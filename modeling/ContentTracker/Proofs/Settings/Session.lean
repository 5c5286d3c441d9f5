import ContentTracker.Proofs.Network.Outcome
import ContentTracker.Proofs.Settings.Loading

/-! What the steps of a session leave behind. Settings are loaded before anything is changed, and
setting logging up changes nothing else but for new folders, whatever it ends in. -/

namespace ContentTracker

namespace Disk

/-- Whatever an operation ends in, it makes nothing but folders, and only the system stops it. -/
def OnlyGrows {α : Type} (op : EStateM Problem Disk α) : Prop :=
  ∀ d, Ends op d fun r t => d.Grown t ∧ ∀ p, r = .error p → p.isSystem

variable {α β : Type} {op : EStateM Problem Disk α} {f : α → EStateM Problem Disk β}

theorem onlyGrows_pure (a : α) : OnlyGrows (pure a) := fun _ => ⟨.refl _, nofun⟩

theorem onlyGrows_get : OnlyGrows get := fun _ => ⟨.refl _, nofun⟩

theorem onlyGrows_addFolder (p : Place) : OnlyGrows (modify (·.addFolder p)) :=
  fun _ => ⟨⟨rfl, rfl, rfl, fun _ h => List.mem_append_left _ h⟩, nofun⟩

theorem onlyGrows_throw {p : Problem} (system : p.isSystem) :
    OnlyGrows (throw p : EStateM Problem Disk α) := by
  refine fun d => ⟨.refl d, ?_⟩
  rintro _ ⟨⟩
  exact system

theorem OnlyGrows.bind (first : OnlyGrows op) (later : ∀ a, OnlyGrows (f a)) :
    OnlyGrows (op >>= f) := by
  refine fun d => (first d).bind (fun a t h => ?_) fun p t h => ⟨h.1, ?_⟩
  · exact (later a t).mono fun r u k => ⟨h.1.trans k.1, k.2⟩
  · rintro _ ⟨⟩
    exact h.2 p rfl

theorem onlyGrows_makeFolders (absolute : Bool) (place : Place) (passed : List String) (made : Bool)
    (names : List String) : OnlyGrows (makeFolders absolute place passed made names) := by
  induction names generalizing place passed made with
  | nil => exact onlyGrows_pure _
  | cons name rest ih =>
      rw [makeFolders]
      refine onlyGrows_get.bind fun d => ?_
      split
      · exact ih _ _ _
      · split
        · exact onlyGrows_throw rfl
        · exact onlyGrows_throw rfl
      · exact (onlyGrows_addFolder _).bind fun _ => ih _ _ _

theorem onlyGrows_makeFolder (text : String) : OnlyGrows (makeFolder text) :=
  onlyGrows_get.bind fun _ => onlyGrows_makeFolders _ _ _ _ _

end Disk

namespace Logging.Setup

theorem onlyGrows_openFile (s : Setup) (path : String) : Disk.OnlyGrows (s.openFile path) := by
  unfold openFile
  split
  · exact Disk.onlyGrows_pure _
  · exact Disk.onlyGrows_get.bind fun _ =>
      (Disk.onlyGrows_makeFolder _).bind fun _ => Disk.onlyGrows_pure _

theorem onlyGrows_direct (o : ObservabilitySettings) (s : Setup) :
    Disk.OnlyGrows (direct o s) := by
  by_cases none : o.logFile.getD "" = ""
  · simp only [direct, if_pos none]
    exact Disk.onlyGrows_pure _
  · simp only [direct, if_neg none]
    exact (onlyGrows_openFile s _).bind fun _ => Disk.onlyGrows_pure _

theorem onlyGrows_configure (ids : Nat → String) (o : ObservabilitySettings) (s : Setup) :
    Disk.OnlyGrows (s.configure ids o) :=
  (onlyGrows_direct o s).bind fun _ => Disk.onlyGrows_pure _

end Logging.Setup

namespace Session

/-- The outcome is the one that is due, system permitting. -/
def Due {α : Type} (a : α) : Except Problem α → Prop
  | .ok b => b = a
  | .error p => p.isSystem

theorem due_ok {α : Type} {a b : α} : Due a (.ok b) ↔ b = a := Iff.rfl

/-- Setting logging up leads from one session to the other. -/
structure Logged (s t : Session) : Prop where
  manager : t.manager = s.manager
  drawn : t.drawn = s.drawn
  environment : t.surroundings.environment = s.surroundings.environment
  disk : s.surroundings.disk.Grown t.surroundings.disk

variable {ids : Nat → String} {s : Session}

theorem ends_configureLogging (o : ObservabilitySettings) :
    Ends (configureLogging ids o) s fun r t => s.Logged t ∧ Due () r := by
  have configured := Logging.Setup.onlyGrows_configure ids o s.logging s.surroundings.disk
  unfold Ends at configured ⊢
  unfold configureLogging
  split at configured
  · next logging disk ended =>
    rw [ended]
    exact ⟨⟨rfl, rfl, rfl, configured.1⟩, rfl⟩
  · next p disk ended =>
    rw [ended]
    exact ⟨⟨rfl, rfl, rfl, configured.1⟩, configured.2 p rfl⟩

/-- A manager is new once its settings are loaded; then only logging can fail. -/
theorem ends_newManager (named : Option String) :
    Ends (newManager ids named) s fun r t =>
      match Manager.load s.surroundings named with
      | .error p => r = .error p ∧ t = s
      | .ok m => s.Logged t ∧ Due m r := by
  rw [newManager, ends_bind, ends_get]
  dsimp only
  rw [ends_bind, ends_ofExcept]
  cases Manager.load s.surroundings named with
  | error p => exact ⟨rfl, rfl⟩
  | ok m => exact (ends_configureLogging _).bind (fun _ t h => ⟨h.1, rfl⟩) fun p t h => h

/-- A manager is shared once logging is set up. -/
theorem ends_start (named : Option String) :
    Ends (start ids named) s fun r t =>
      match Manager.load s.surroundings named with
      | .error p => r = .error p ∧ t = s
      | .ok m => Due m r ∧
          ∀ a, r = .ok a → ∃ u, s.Logged u ∧ t = { u with manager := some m } := by
  rw [start, ends_bind]
  refine (ends_newManager named).mono fun r t h => ?_
  cases loaded : Manager.load s.surroundings named with
  | error p =>
      rw [loaded] at h
      obtain ⟨rfl, rfl⟩ := h
      exact ⟨rfl, rfl⟩
  | ok m =>
      rw [loaded] at h
      obtain ⟨logged, due⟩ := h
      cases r with
      | error p => exact ⟨due, fun _ same => nomatch same⟩
      | ok m' =>
          rw [due_ok] at due
          subst due
          dsimp only
          rw [ends_bind, ends_modify]
          exact ⟨rfl, fun _ _ => ⟨t, logged, rfl⟩⟩

theorem ends_adopt (m : Manager) (settings : Settings) :
    Ends (adopt ids m settings) s fun r t =>
      Logged { s with manager := some { m with settings := settings } } t ∧ Due settings r := by
  rw [adopt, ends_bind, ends_modify]
  exact (ends_configureLogging _).bind (fun _ t h => ⟨h.1, rfl⟩) fun p t h => h

theorem ends_reload :
    Ends (reload ids) s fun r t =>
      match s.manager with
      | none => r = .error (.fail .configuration "Configuration not initialized") ∧ t = s
      | some m =>
        match Settings.load s.surroundings m.file with
        | .error p => r = .error p ∧ t = s
        | .ok settings =>
          Logged { s with manager := some { m with settings := settings } } t ∧ Due settings r := by
  rw [reload, ends_bind, ends_get]
  dsimp only
  cases s.manager with
  | none => exact ⟨rfl, rfl⟩
  | some m =>
      dsimp only
      rw [ends_bind, ends_ofExcept]
      cases Settings.load s.surroundings m.file with
      | error p =>
          dsimp only
          exact ⟨rfl, rfl⟩
      | ok settings =>
          dsimp only
          exact ends_adopt m settings

end Session

end ContentTracker
