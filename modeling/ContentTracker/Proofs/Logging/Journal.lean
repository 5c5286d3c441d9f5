import ContentTracker.Logging.Journal
import ContentTracker.Proofs.Network.Outcome

/-! A log from the moment it is set up. Records, correlation ids and time come and go; where lines are
written stays as it was set up. -/

namespace ContentTracker.Logging

/-- Lines from a level on go to the console and, by a handler of some kind, to a file. -/
structure Setup.WritesTo (s : Setup) (kind : HandlerKind) (least : Severity) (file : LogFile) :
    Prop where
  level : s.level = some least
  handlers : s.handlers = [⟨kind, least⟩, ⟨.console, least⟩]
  current : s.current = some file

/-- The handlers that settings ask for: one for their log file, if they name one, and one for the
console. -/
def handlersFor (o : ObservabilitySettings) : List Handler :=
  (if o.logFile.getD "" = "" then [] else [⟨fileKind o, o.logLevel⟩]) ++ [⟨.console, o.logLevel⟩]

namespace Setup

/-- Lines are written as settings ask for it, and those for a file go to the one that is remembered for
the path in the settings. -/
structure Obeys (s : Setup) (o : ObservabilitySettings) : Prop where
  level : s.level = some o.logLevel
  handlers : s.handlers = handlersFor o
  current : s.current = if o.logFile.getD "" = "" then none else s.files.lookup (o.logFile.getD "")
  remembered : o.logFile.getD "" ≠ "" → ∃ file, s.files.lookup (o.logFile.getD "") = some file

/-- Every log file that was generated before is still known by its path. -/
def Remembers (t s : Setup) : Prop :=
  ∀ path file, s.files.lookup path = some file → t.files.lookup path = some file

theorem Remembers.refl (s : Setup) : s.Remembers s := fun _ _ h => h

theorem Remembers.trans {s t u : Setup} (second : u.Remembers t) (first : t.Remembers s) :
    u.Remembers s := fun path file h => second path file (first path file h)

/-- A log file is known by its path once it is opened. -/
theorem ends_openFile (s : Setup) (path : String) (d : Disk) :
    Ends (s.openFile path) d fun r _ =>
      ∀ file t, r = .ok (file, t) → t.files.lookup path = some file ∧ t.Remembers s := by
  unfold openFile
  cases known : s.files.lookup path with
  | some file =>
      rintro _ _ ⟨⟩
      exact ⟨known, .refl s⟩
  | none =>
      rw [ends_bind, ends_get]
      dsimp only
      rw [ends_bind]
      refine (ends_itself _ d).mono fun r t made => ?_
      cases r with
      | error p => nofun
      | ok _ =>
          rintro file _ ⟨⟩
          refine ⟨?_, fun other file h => ?_⟩
          · rw [List.lookup_append, known, Option.none_or, List.lookup_cons_self]
          · rw [List.lookup_append, h, Option.some_or]

/-- What was set up before is left behind, but for the log files that were generated. -/
theorem ends_configure (ids : Nat → String) (o : ObservabilitySettings) (s : Setup) (d : Disk) :
    Ends (s.configure ids o) d fun r _ => ∀ t, r = .ok t → t.Obeys o ∧ t.Remembers s := by
  have drawing (t : Setup) (h : t.Obeys o ∧ t.Remembers s) : Setup.Obeys
      (if o.logCorrelationId then t.drawCorrelation ids else t) o ∧ Setup.Remembers
      (if o.logCorrelationId then t.drawCorrelation ids else t) s := by
    split
    · exact ⟨⟨h.1.level, h.1.handlers, h.1.current, h.1.remembered⟩, h.2⟩
    · exact h
  rw [configure, direct]
  by_cases unnamed : o.logFile.getD "" = ""
  · simp only [if_pos unnamed]
    rintro _ ⟨⟩
    refine drawing _ ⟨⟨rfl, ?_, (if_pos unnamed).symm, fun named => absurd unnamed named⟩, .refl s⟩
    rw [handlersFor, if_pos unnamed]
    rfl
  · simp only [if_neg unnamed, ends_bind]
    refine (ends_openFile s _ d).mono fun r t opened => ?_
    cases r with
    | error p => nofun
    | ok result =>
        obtain ⟨file, u⟩ := result
        obtain ⟨known, remembers⟩ := opened file u rfl
        rintro _ ⟨⟩
        refine drawing _ ⟨⟨rfl, ?_, ?_, fun _ => ⟨file, known⟩⟩, remembers⟩
        · rw [handlersFor, if_neg unnamed]
          rfl
        · rw [if_neg unnamed]
          exact known.symm

end Setup

namespace Journal

/-- What may happen to a log once it is set up. -/
inductive Event
  | log (r : Record)
  | correlate (id : Option String)
  | pass (seconds : Rat) (stamp : String)

def Event.run (ids : Nat → String) : Event → Journaling Unit
  | log r => Journal.log r
  | correlate id => setCorrelation ids id
  | pass seconds stamp => do
    Journal.pass seconds
    modify fun j => { j with stamp := stamp }

/-- The log after a step, also after one that ended in a problem. -/
def after {α : Type} (step : Journaling α) (j : Journal) : Journal :=
  match step j with
  | .ok _ t | .error _ t => t

/-- The log after all that happened. -/
def afterAll (ids : Nat → String) (j : Journal) (history : List Event) : Journal :=
  history.foldl (fun j event => after (event.run ids) j) j

section Handing

variable (j : Journal) (r : Record)

theorem setup_hand (h : Handler) : (j.hand r h).1.setup = j.setup := by
  unfold hand
  dsimp only
  repeat' split
  all_goals rfl

theorem setup_handAll (handlers : List Handler) : (j.handAll r handlers).1.setup = j.setup := by
  induction handlers generalizing j r with
  | nil => rfl
  | cons h rest ih =>
      rw [handAll]
      split
      · exact (ih _ _).trans (setup_hand j r h)
      · exact ih j r

/-- The console has no lines. -/
theorem lines_hand_console (level : Severity) :
    (j.hand r ⟨.console, level⟩).1.lines = j.lines := by
  unfold hand
  dsimp only
  split <;> rfl

end Handing

section Taking

variable (j : Journal) (r : Record)

/-- The record with the time that it is logged at. -/
def timed : Record := { r with time := j.now, stamp := j.stamp }

/-- Hands out a record that is taken. -/
def handOut : Journal × Record := j.handAll (timed j r) j.setup.handlers

/-- The log once it took a record. -/
def taking : Journal :=
  let (k, marked) := handOut j r
  if k.setup.level.isSome then { k with records := k.records ++ [marked] } else k

theorem setup_taking : (taking j r).setup = j.setup := by
  have handed : (handOut j r).1.setup = j.setup := setup_handAll _ _ _
  unfold taking
  dsimp only
  split <;> exact handed

theorem lines_taking : (taking j r).lines = (handOut j r).1.lines := by
  unfold taking
  dsimp only
  split <;> rfl

/-- A record below the level is passed over, one with a field whose name is taken is refused, and any
other one is taken. -/
theorem log_eq : Journal.log r j =
    if j.setup.takes r.severity then
      match Record.checkFields r.fields with
      | .error p => .error p j
      | .ok _ => .ok () (taking j r)
    else .ok () j := by
  by_cases takes : j.setup.takes r.severity
  · rw [if_pos takes]
    cases checked : Record.checkFields r.fields with
    | error p =>
        refine Ends.eq_error ?_
        rw [Journal.log, ends_bind, ends_get]
        simp only [if_pos takes, ends_bind, ends_ofExcept, checked, and_self]
    | ok _ =>
        refine Ends.eq_ok ?_
        rw [Journal.log, ends_bind, ends_get]
        simp only [if_pos takes, ends_bind, ends_ofExcept, checked]
        exact ⟨rfl, rfl⟩
  · rw [if_neg takes]
    refine Ends.eq_ok ?_
    rw [Journal.log, ends_bind, ends_get]
    simp only [if_neg takes]
    exact ⟨rfl, rfl⟩

variable {j r}

theorem after_log_of_taken (takes : j.setup.takes r.severity)
    (checked : Record.checkFields r.fields = .ok ()) : after (Journal.log r) j = taking j r := by
  rw [after, log_eq, if_pos takes, checked]

theorem after_log_of_passed (passed : ¬ (j.setup.takes r.severity ∧
    Record.checkFields r.fields = .ok ())) : after (Journal.log r) j = j := by
  rw [after, log_eq]
  by_cases takes : j.setup.takes r.severity
  · rw [if_pos takes]
    cases checked : Record.checkFields r.fields with
    | error p => rfl
    | ok _ => exact absurd ⟨takes, checked⟩ passed
  · rw [if_neg takes]

theorem setup_after_log : (after (Journal.log r) j).setup = j.setup := by
  by_cases taken : j.setup.takes r.severity ∧ Record.checkFields r.fields = .ok ()
  · rw [after_log_of_taken taken.1 taken.2, setup_taking]
  · rw [after_log_of_passed taken]

end Taking

section History

variable {kind : HandlerKind} {least : Severity} {file : LogFile} {j : Journal}

/-- Nothing that happens changes where lines are written. -/
theorem writesTo_after (ids : Nat → String) (event : Event)
    (writes : j.setup.WritesTo kind least file) :
    (after (event.run ids) j).setup.WritesTo kind least file := by
  cases event with
  | log r =>
      change (after (Journal.log r) j).setup.WritesTo kind least file
      rw [setup_after_log]
      exact writes
  | correlate id => cases id <;> exact ⟨writes.level, writes.handlers, writes.current⟩
  | pass seconds stamp => exact ⟨writes.level, writes.handlers, writes.current⟩

theorem writesTo_afterAll (ids : Nat → String) (history : List Event)
    (writes : j.setup.WritesTo kind least file) :
    (afterAll ids j history).setup.WritesTo kind least file := by
  induction history generalizing j with
  | nil => exact writes
  | cons event history ih => exact ih (writesTo_after ids event writes)

theorem obeys_of_configure {ids : Nat → String} {o : ObservabilitySettings} {before ready : Journal}
    (configured : configure ids o before = .ok () ready) :
    ready.setup.Obeys o ∧ ready.setup.Remembers before.setup := by
  have ends := Setup.ends_configure ids o before.setup before.disk
  unfold configure at configured
  cases done : before.setup.configure ids o before.disk with
  | error p d =>
      rw [done] at configured
      cases configured
  | ok setup d =>
      rw [done] at configured
      cases configured
      exact ends.of_ok done setup rfl

/-- Once settings that name a log file are taken, lines go to that file. -/
theorem writesTo_of_configure {ids : Nat → String} {o : ObservabilitySettings}
    (named : o.logFile.getD "" ≠ "") {before ready : Journal}
    (configured : configure ids o before = .ok () ready) :
    ∃ file, ready.setup.WritesTo (fileKind o) o.logLevel file := by
  obtain ⟨obeys, _⟩ := obeys_of_configure configured
  obtain ⟨file, known⟩ := obeys.remembered named
  refine ⟨file, obeys.level, ?_, ?_⟩
  · rw [obeys.handlers, handlersFor, if_neg named]
    rfl
  · rw [obeys.current, if_neg named, known]

end History

end Journal

end ContentTracker.Logging
