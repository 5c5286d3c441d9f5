import ContentTracker.Settings.Disk
import ContentTracker.Settings.Environment
import ContentTracker.Settings.Validation
import ContentTracker.Toml.Reader

/-!
Loading settings: defaults, over them a file, over that the environment.
-/

namespace ContentTracker

/-- What settings are loaded from. -/
structure Surroundings where
  disk : Disk
  environment : List (String × String) := []

namespace Settings

/-- The places where a settings file is looked for, best first. -/
def searchPath (d : Disk) : List Path :=
  let inside (folder : String) (names : List String) : Path :=
    ⟨"/".intercalate (folder :: names), Path.names folder ++ names⟩
  [inside d.workingFolder ["cctrack.toml"],
    inside d.home [".config", "cctrack", "cctrack.toml"],
    inside d.home [".cctrack.toml"]]

/-- The settings file: the one that is named, or the first that is found. -/
def findFile (d : Disk) (named : Option String) : Option Path :=
  match named with
  | some text =>
    if text = "" then (searchPath d).find? fun p => (d.entry? p.place).isSome
    else some (d.locate text)
  | none => (searchPath d).find? fun p => (d.entry? p.place).isSome

/-- Line ends of all kinds become one. -/
def unifyLineEnds : List Char → List Char
  | '\r' :: '\n' :: rest => '\n' :: unifyLineEnds rest
  | '\r' :: rest => '\n' :: unifyLineEnds rest
  | c :: rest => c :: unifyLineEnds rest
  | [] => []

def fileProblem (message : String) (p : Path) : Problem :=
  .fail .configuration s!"{message}{p.text}" [("path", .text p.text)]

def loadProblem (p : Path) : Problem := fileProblem "Failed to load config file " p

/-- The table in a settings file. -/
def readFile (d : Disk) (p : Path) : Except Problem Table :=
  match d.entry? p.place with
  | none => .error (fileProblem "Config file not found: " p)
  | some .folder => .error (loadProblem p)
  | some (.file content) =>
    match Utf8.decode content with
    | .error fault => .error (.badText fault)
    | .ok text =>
      match Toml.read (String.ofList (unifyLineEnds text.toList)) with
      | .ok t => .ok t
      | .error .malformed => .error (loadProblem p)
      | .error (.badType message) => .error (.badType message)
      | .error (.badIndex message) => .error (.badIndex message)

/-- What is validated: the table of the file with the environment put over it. -/
def gather (file : Table) (environment : List (String × String)) : Table :=
  merge file (ofEnvironment environment)

def load (s : Surroundings) (file : Option Path) : Except Problem Settings := do
  let t ← match file with
    | some p => readFile s.disk p
    | none => pure []
  (ofTable (gather t s.environment)).mapError .misconfigured

end Settings

end ContentTracker
