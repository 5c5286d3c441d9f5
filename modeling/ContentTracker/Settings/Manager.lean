import ContentTracker.Endpoint
import ContentTracker.Json.Writer
import ContentTracker.Logging.Setup
import ContentTracker.Settings.Loading
import ContentTracker.Toml.Writer

/-!
Settings in use: the manager that holds them together with the file they came from, and the one
manager that a program shares.
-/

namespace ContentTracker

structure Manager where
  file : Option Path
  settings : Settings

namespace Manager

/-- Loads settings from the named file, or from the first that is found. -/
def load (s : Surroundings) (named : Option String) : Except Problem Manager := do
  let file := Settings.findFile s.disk named
  return ⟨file, ← Settings.load s file⟩

/-- The settings as text, in a format named in letters of either case. Without a name they are written
like a settings file. -/
def exportText (m : Manager) (format : String) : Except Problem String :=
  let name := String.ofList (format.toList.map Numeral.lowerAscii)
  if name = "toml" || name = "" then
    match Toml.write? m.settings.exported with
    | some text => .ok text
    | none => .error (.fail .configuration "Failed to export TOML: list index out of range")
  else if name = "json" then
    match Json.write? (.indented 0) (.dict m.settings.exported) with
    | some text => .ok text
    | none => .error (.badValue Numeral.unwritable)
  else .error (.fail .configuration s!"Unsupported export format: {name}")

def parseNode (text : String) : Except Problem PeerId :=
  (PeerId.parse text).mapError fun fault => .badValue (PeerId.faultMessage fault)

/-- The id of the own node. If none is set, the fresh one is taken and kept. -/
def nodeId (m : Manager) (fresh : PeerId) : Except Problem (PeerId × Manager) :=
  match m.settings.identity.nodeId with
  | some text => (parseNode text).map fun peer => (peer, m)
  | none =>
    .ok (fresh, { m with settings := { m.settings with identity := ⟨some fresh.text⟩ } })

def defaultTracker (m : Manager) : Except Problem (Option PeerId) :=
  match m.settings.tracker.defaultTracker with
  | some text => (parseNode text).map some
  | none => .ok none

/-- The endpoint that the settings describe. -/
def endpoint (m : Manager) (fresh : PeerId) : Except Problem (Endpoint × Manager) := do
  let (node, m) ← m.nodeId fresh
  let book ← (AddressBook.ofTexts m.settings.tracker.addresses).mapError .failure
  let network := m.settings.network
  return ({ node := node, book := book
            connectTimeout := .decimal network.connectTimeout
            readTimeout := .decimal network.readTimeout
            bindHost := network.bindHost, bindPort := network.bindPort }, m)

end Manager

/-- What a running program shares: the manager, if there is one yet, the logging setup, and the
disk. -/
structure Session where
  manager : Option Manager := none
  logging : Logging.Setup := {}
  surroundings : Surroundings
  /-- How many node ids have been drawn. -/
  drawn : Nat := 0

/-- A step that changes what is shared; what it changed before a problem stays changed. -/
abbrev Administration := EStateM Problem Session

namespace Session

/-- Sets logging up by settings. `ids` are the correlation ids to draw. -/
def configureLogging (ids : Nat → String) (o : ObservabilitySettings) : Administration Unit := fun s =>
  match s.logging.configure ids o s.surroundings.disk with
  | .ok logging disk =>
    .ok () { s with logging := logging, surroundings := { s.surroundings with disk := disk } }
  | .error p disk => .error p { s with surroundings := { s.surroundings with disk := disk } }

/-- Makes a manager, which sets logging up. -/
def newManager (ids : Nat → String) (named : Option String) : Administration Manager := do
  let m ← ofExcept (Manager.load (← get).surroundings named)
  configureLogging ids m.settings.observability
  return m

/-- Makes the shared manager. -/
def start (ids : Nat → String) (named : Option String) : Administration Manager := do
  let m ← newManager ids named
  modify fun s => { s with manager := some m }
  return m

/-- The shared manager, made if there is none. -/
def sharedManager (ids : Nat → String) : Administration Manager := do
  match (← get).manager with
  | some m => return m
  | none => start ids none

/-- The shared settings. -/
def current (ids : Nat → String) : Administration Settings := do
  return (← sharedManager ids).settings

/-- The id of the own node, by the shared settings. If they set none, the next of `nodes` is drawn and
kept. -/
def nodeId (ids : Nat → String) (nodes : Nat → PeerId) : Administration PeerId := do
  let m ← sharedManager ids
  let drawn := (← get).drawn
  let (node, m') ← ofExcept (m.nodeId (nodes drawn))
  let drawn := if m.settings.identity.nodeId.isNone then drawn + 1 else drawn
  modify fun s => { s with manager := some m', drawn := drawn }
  return node

/-- The endpoint that the shared settings describe. -/
def endpoint (ids : Nat → String) (nodes : Nat → PeerId) : Administration Endpoint := do
  let node ← nodeId ids nodes
  let m ← sharedManager ids
  return (← ofExcept (m.endpoint node)).1

/-- The shared settings as text. -/
def exportText (ids : Nat → String) (format : String) : Administration String := do
  ofExcept ((← sharedManager ids).exportText format)

/-- Puts settings in use. -/
def adopt (ids : Nat → String) (m : Manager) (settings : Settings) : Administration Settings := do
  modify fun s => { s with manager := some { m with settings := settings } }
  configureLogging ids settings.observability
  return settings

/-- Loads the shared settings again, from the file they came from. -/
def reload (ids : Nat → String) : Administration Settings := do
  let s ← get
  match s.manager with
  | none => throw (.fail .configuration "Configuration not initialized")
  | some m => do
    let settings ← ofExcept (Settings.load s.surroundings m.file)
    adopt ids m settings

/-- Replaces the shared settings. -/
def replace (ids : Nat → String) (settings : Settings) : Administration Settings := do
  let m ← sharedManager ids
  adopt ids m settings

end Session

end ContentTracker
