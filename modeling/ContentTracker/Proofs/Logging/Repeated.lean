import ContentTracker.Proofs.Logging.Journal

/-! Logging that is set up again and again. Handlers never pile up, since each time starts over, and the
log file that a path was given once is the one that the path is given ever after. -/

namespace ContentTracker.Logging

namespace HandlerKind

def writesFile : HandlerKind → Bool
  | console => false
  | structured | simple => true

end HandlerKind

section Handlers

variable (o : ObservabilitySettings)

theorem level_of_mem_handlersFor {h : Handler} (member : h ∈ handlersFor o) :
    h.level = o.logLevel := by
  rw [handlersFor, List.mem_append, List.mem_singleton] at member
  obtain filed | rfl := member
  · split at filed
    · cases filed
    · rw [List.mem_singleton.1 filed]
  · rfl

theorem writesFile_fileKind : (fileKind o).writesFile := by
  unfold fileKind
  split <;> rfl

theorem countP_file_handlersFor : (handlersFor o).countP (·.kind.writesFile) =
    if o.logFile.getD "" = "" then 0 else 1 := by
  rw [handlersFor]
  split
  · rfl
  · rw [List.countP_append, List.countP_singleton, if_pos (writesFile_fileKind o)]
    rfl

theorem countP_console_handlersFor :
    (handlersFor o).countP (fun h => h.kind = .console) = 1 := by
  have other : fileKind o ≠ .console := by
    intro same
    have filed := writesFile_fileKind o
    rw [same] at filed
    cases filed
  rw [handlersFor]
  split
  · rfl
  · rw [List.countP_append, List.countP_singleton, if_neg (by simpa using other)]
    rfl

end Handlers

namespace Setup

/-- Where lines go, and the log files that are known, are the same in both. -/
structure SameOutlets (t s : Setup) : Prop where
  level : t.level = s.level
  handlers : t.handlers = s.handlers
  current : t.current = s.current
  files : t.files = s.files

variable {s t u : Setup} {o : ObservabilitySettings}

theorem SameOutlets.refl (s : Setup) : s.SameOutlets s := ⟨rfl, rfl, rfl, rfl⟩

theorem SameOutlets.trans (second : u.SameOutlets t) (first : t.SameOutlets s) :
    u.SameOutlets s :=
  ⟨second.level.trans first.level, second.handlers.trans first.handlers,
    second.current.trans first.current, second.files.trans first.files⟩

theorem SameOutlets.remembers (same : t.SameOutlets s) : t.Remembers s := by
  intro path file known
  rw [same.files, known]

theorem Obeys.congr (obeys : s.Obeys o) (same : t.SameOutlets s) : t.Obeys o :=
  ⟨same.level.trans obeys.level, same.handlers.trans obeys.handlers,
    by rw [same.current, same.files, obeys.current], by rw [same.files]; exact obeys.remembered⟩

/-- The file that lines go to stays the one of its path as long as paths are remembered. -/
theorem Obeys.current_of_remembers (obeys : s.Obeys o) (remembers : t.Remembers s) :
    s.current = if o.logFile.getD "" = "" then none else t.files.lookup (o.logFile.getD "") := by
  rw [obeys.current]
  split
  · rfl
  · next named =>
    obtain ⟨file, known⟩ := obeys.remembered named
    rw [known, remembers _ file known]

theorem Obeys.isSome_current (obeys : s.Obeys o) :
    s.current.isSome ↔ o.logFile.getD "" ≠ "" := by
  rw [obeys.current]
  split
  · next unnamed => simp [unnamed]
  · next named =>
    obtain ⟨file, known⟩ := obeys.remembered named
    simp [named, known]

end Setup

namespace Journal

theorem sameOutlets_after (ids : Nat → String) (event : Event) (j : Journal) :
    (after (event.run ids) j).setup.SameOutlets j.setup := by
  cases event with
  | log r =>
      change (after (Journal.log r) j).setup.SameOutlets j.setup
      rw [setup_after_log]
      exact .refl _
  | correlate id => cases id <;> exact ⟨rfl, rfl, rfl, rfl⟩
  | pass seconds stamp => exact ⟨rfl, rfl, rfl, rfl⟩

theorem sameOutlets_afterAll (ids : Nat → String) (history : List Event) (j : Journal) :
    (afterAll ids j history).setup.SameOutlets j.setup := by
  induction history generalizing j with
  | nil => exact .refl _
  | cons event history ih => exact (ih _).trans (sameOutlets_after ids event j)

/-- A time at which logging is set up: what happened to the log since it was last set up, the disk as it
is by then, and the settings. -/
structure Occasion where
  since : List Event := []
  disk : Disk
  settings : ObservabilitySettings

/-- The log as it is found on an occasion. -/
def Occasion.found (c : Occasion) (ids : Nat → String) (j : Journal) : Journal :=
  { afterAll ids j c.since with disk := c.disk }

/-- Logging is set up on one occasion after another, each time with success. Each occasion stands with the
log right after it. -/
def Succeed (ids : Nat → String) : Journal → List (Occasion × Journal) → Prop
  | _, [] => True
  | j, (c, ready) :: rest =>
    configure ids c.settings (c.found ids j) = .ok () ready ∧ Succeed ids ready rest

/-- The log after the last occasion. -/
def final (before : Journal) (course : List (Occasion × Journal)) : Journal :=
  course.foldl (fun _ entry => entry.2) before

section Course

variable {ids : Nat → String} {before : Journal} {course : List (Occasion × Journal)}

theorem remembers_found (c : Occasion) (ids : Nat → String) (j : Journal) :
    (c.found ids j).setup.Remembers j.setup := (sameOutlets_afterAll ids c.since j).remembers

/-- Each occasion leaves logging as its settings want it, and later ones forget no log file. -/
theorem settled_of_succeed (succeed : Succeed ids before course) :
    (final before course).setup.Remembers before.setup ∧
      ∀ entry ∈ course, entry.2.setup.Obeys entry.1.settings ∧
        (final before course).setup.Remembers entry.2.setup := by
  induction course generalizing before with
  | nil => exact ⟨.refl _, List.forall_mem_nil _⟩
  | cons entry rest ih =>
      obtain ⟨c, ready⟩ := entry
      obtain ⟨configured, later⟩ := succeed
      obtain ⟨obeys, remembers⟩ := obeys_of_configure configured
      obtain ⟨kept, settled⟩ := ih later
      refine ⟨kept.trans (remembers.trans (remembers_found c ids before)), ?_⟩
      rw [List.forall_mem_cons]
      exact ⟨⟨obeys, kept⟩, settled⟩

/-- Paths that are the same are given the same log file on all occasions. -/
theorem current_of_succeed (succeed : Succeed ids before course) {a b : Occasion × Journal}
    (first : a ∈ course) (second : b ∈ course)
    (same : a.1.settings.logFile = b.1.settings.logFile) :
    a.2.setup.current = b.2.setup.current := by
  obtain ⟨obeysA, keptA⟩ := (settled_of_succeed succeed).2 a first
  obtain ⟨obeysB, keptB⟩ := (settled_of_succeed succeed).2 b second
  rw [obeysA.current_of_remembers keptA, obeysB.current_of_remembers keptB, same]

end Course

/-- However often logging was set up, with whatever settings, and whatever was logged in between and
since then, it is as the last settings alone make it: one handler for the console, one for a file if
they name one and else none, all at their level. Whenever two settings name one path, lines go to the
same file. -/
theorem setup_of_last (ids : Nat → String) {before ready : Journal}
    {earlier : List (Occasion × Journal)} {c : Occasion}
    (succeed : Succeed ids before (earlier ++ [(c, ready)])) (later : List Event) :
    let o := c.settings
    let s := (afterAll ids ready later).setup
    (s.handlers.countP (fun h => h.kind = .console) = 1 ∧
      s.handlers.countP (·.kind.writesFile) = if o.logFile.getD "" = "" then 0 else 1) ∧
    (s.level = some o.logLevel ∧ ∀ h ∈ s.handlers, h.level = o.logLevel) ∧
    (∀ ids' alone alone', configure ids' o alone = .ok () alone' →
      s.handlers = alone'.setup.handlers ∧ s.level = alone'.setup.level) ∧
    (s.current = ready.setup.current ∧ (s.current.isSome ↔ o.logFile.getD "" ≠ "")) ∧
    ∀ a ∈ earlier ++ [(c, ready)], ∀ b ∈ earlier ++ [(c, ready)],
      a.1.settings.logFile = b.1.settings.logFile → a.2.setup.current = b.2.setup.current := by
  intro o s
  have last : (c, ready) ∈ earlier ++ [(c, ready)] := List.mem_append_right _ (.head _)
  have same := sameOutlets_afterAll ids later ready
  have obeys : s.Obeys o := ((settled_of_succeed succeed).2 _ last).1.congr same
  refine ⟨⟨?_, ?_⟩, ⟨obeys.level, ?_⟩, ?_, ⟨same.current, obeys.isSome_current⟩, ?_⟩
  · rw [obeys.handlers, countP_console_handlersFor]
  · rw [obeys.handlers, countP_file_handlersFor]
  · rw [obeys.handlers]
    exact fun h => level_of_mem_handlersFor o
  · intro ids' alone alone' configured
    obtain ⟨obeys', _⟩ := obeys_of_configure configured
    exact ⟨obeys.handlers.trans obeys'.handlers.symm, obeys.level.trans obeys'.level.symm⟩
  · exact fun a first b second => current_of_succeed succeed first second

/-- A log file that is named, given up and named again, by other settings and after records and ids came
and went. -/
theorem setup_of_last_renamed :
    let disk : Disk := { workingFolder := "/work", home := "/home/a" }
    let named : ObservabilitySettings := { logFile := some "l/x.log" }
    let unnamed : ObservabilitySettings := { logLevel := .debug, logFile := some "" }
    let again : ObservabilitySettings :=
      { logLevel := .error, logFile := some "l/x.log", structuredLogging := false }
    let r : Record := { logger := "cctrack.x", severity := .info, template := "seen" }
    let course (one two three : Journal) : List (Occasion × Journal) :=
      [({ disk := disk, settings := named }, one),
        ({ since := [.log r, .correlate none], disk := disk, settings := unnamed }, two)] ++
        [({ since := [.correlate (some "7bc"), .log r], disk := disk, settings := again }, three)]
    ∃ one two three, Succeed toString { disk := disk } (course one two three) ∧
      three.setup.handlers.countP (·.kind.writesFile) = 1 ∧
      three.setup.current = one.setup.current ∧ three.setup.current.isSome := by
  intro disk named unnamed again r course
  obtain ⟨one, two, three, succeed⟩ :
      ∃ one two three, Succeed toString { disk := disk } (course one two three) := by
    dsimp only [course, disk, named, unnamed, again, r]
    exact ⟨_, _, _, rfl, rfl, rfl, trivial⟩
  obtain ⟨⟨_, files⟩, _, _, ⟨_, writes⟩, same⟩ := setup_of_last toString succeed []
  refine ⟨one, two, three, succeed, files, ?_, writes.2 (by decide)⟩
  exact same _ (.tail _ (.tail _ (.head _))) _ (.head _) rfl

end Journal

end ContentTracker.Logging
