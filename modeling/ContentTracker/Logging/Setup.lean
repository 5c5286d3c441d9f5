import ContentTracker.Settings
import ContentTracker.Settings.Disk

/-!
Where log lines go: always to the console, and to a file if the settings name one. Setting logging up
again replaces what was set up before.
-/

namespace ContentTracker

namespace Logging

/-- The name of the logger above all others. -/
def rootName : String := "cctrack"

/-- The name of a logger, which always stands below the root. -/
def loggerName (name : String) : String :=
  if name = rootName || name.startsWith (rootName ++ ".") then name else rootName ++ "." ++ name

inductive HandlerKind
  | structured
  | simple
  | console
deriving Repr, DecidableEq

/-- Where lines from a level on are written. -/
structure Handler where
  kind : HandlerKind
  level : Severity
deriving Repr, DecidableEq

/-- The kind of handler that writes a log file. -/
def fileKind (o : ObservabilitySettings) : HandlerKind :=
  if o.structuredLogging then .structured else .simple

/-- A generated log file: its folder, and a number that tells it from all others. -/
structure LogFile where
  folder : String
  serial : Nat
deriving Repr, DecidableEq

/-- How logging is set up. Without a level nothing has been set up yet. -/
structure Setup where
  level : Option Severity := none
  handlers : List Handler := []
  /-- The log file generated for each one that settings named, which is written on. -/
  files : List (String × LogFile) := []
  /-- The file that lines go to now. -/
  current : Option LogFile := none
  correlation : Option String := none
  /-- How many correlation ids have been drawn. -/
  drawn : Nat := 0
deriving Inhabited

namespace Setup

/-- Until logging is set up, records also go to whatever surrounds the program. -/
def propagates (s : Setup) : Bool := s.level.isNone

/-- Draws a new correlation id. -/
def drawCorrelation (ids : Nat → String) (s : Setup) : Setup :=
  { s with correlation := some (ids s.drawn), drawn := s.drawn + 1 }

/-- The folder that the log file stands in for a path: the path itself if it is a folder. -/
def logFolder (disk : Disk) (path : String) : String :=
  match disk.entry? (disk.placeOf path) with
  | some .folder => Path.normal path
  | _ => Path.parentText path

/-- The log file for a path. One is generated, and its folder made, the first time that the path is
named. -/
def openFile (s : Setup) (path : String) : EStateM Problem Disk (LogFile × Setup) := do
  match s.files.lookup path with
  | some file => return (file, s)
  | none =>
    let folder := logFolder (← get) path
    Disk.makeFolder folder
    let file : LogFile := ⟨folder, s.files.length⟩
    return (file, { s with files := s.files ++ [(path, file)] })

/-- Starts over with the level of settings. Of all handlers there is at most the one of their file. -/
def reset (o : ObservabilitySettings) (file : Option LogFile) (s : Setup) : Setup :=
  { s with level := some o.logLevel
           handlers := if file.isSome then [⟨fileKind o, o.logLevel⟩] else []
           current := file }

/-- Adds a handler to those that there are. -/
def addHandler (h : Handler) (s : Setup) : Setup := { s with handlers := s.handlers ++ [h] }

/-- Sets up where lines go. The console is added once the handlers from before are gone. -/
def direct (o : ObservabilitySettings) (s : Setup) : EStateM Problem Disk Setup := do
  let console : Handler := ⟨.console, o.logLevel⟩
  let path := o.logFile.getD ""
  if path = "" then return (s.reset o none).addHandler console
  else
    let (file, s) ← openFile s path
    return (s.reset o (some file)).addHandler console

/-- Sets logging up by settings. Where the folder of the log file cannot be made, nothing is set
up. -/
def configure (ids : Nat → String) (o : ObservabilitySettings) (s : Setup) :
    EStateM Problem Disk Setup := do
  let s ← direct o s
  return if o.logCorrelationId then s.drawCorrelation ids else s

end Setup

end Logging

end ContentTracker
