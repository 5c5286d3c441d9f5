import ContentTracker.DialAddress
import ContentTracker.Settings
import ContentTracker.Settings.Check

/-!
Settings from tables: every section and every field is checked, and the errors of all of them come
together in the order of the fields. Keys that name no setting are passed over.
-/

namespace ContentTracker

namespace Settings

/-- Checks the value of a key; an absent key takes the default. -/
def field {α : Type} (t : Table) (key : String) (default : α) (check : Value → Checked α) :
    Checked α :=
  match t.find? key with
  | none => .ok default
  | some v => (check v).under key

/-- A node id in one of its spellings. -/
def nodeText (s : String) : Checked String :=
  match PeerId.parse s with
  | .ok _ => .ok s
  | .error _ => .broken (.meaning s!"Invalid node id: {Text.quoted s}")

def optionalNode (v : Value) : Checked (Option String) :=
  match toOptionalText v with
  | .ok (some s) => (nodeText s).map some
  | r => r

/-- The addresses of one node, each a text. -/
def addressTexts (v : Value) : Checked (List String) :=
  match v with
  | .list items =>
    .all (fun (i, v) => (toText v).under (toString i)) (items.zipIdx.map fun (v, i) => (i, v))
  | _ => .broken .list

/-- The first address that cannot be dialed, in words. -/
def undialable? (addresses : List String) : Option String :=
  addresses.findSome? fun a =>
    match DialAddress.parse a with
    | .ok _ => none
    | .error fault => some (fault.message a)

/-- The first fault of a well-formed address table: a node id or one of its addresses. -/
def addressFault? (addresses : List (String × List String)) : Option String :=
  addresses.findSome? fun (node, as) =>
    match PeerId.parse node with
    | .ok _ => undialable? as
    | .error _ => some s!"Invalid node id: {Text.quoted node}"

/-- The address table. What its texts mean is looked at only when every one of them is a text, and
up to the first fault. -/
def addressEntries (v : Value) : Checked (List (String × List String)) :=
  match v with
  | .dict entries =>
    match Checked.all (fun (node, v) =>
        ((addressTexts v).under node).map fun as => (node, as)) entries with
    | .error es => .error es
    | .ok addresses =>
      match addressFault? addresses with
      | none => .ok addresses
      | some fault => .broken (.meaning fault)
  | _ => .broken .table

end Settings

open Settings

def NetworkSettings.ofTable (t : Table) : Checked NetworkSettings :=
  let default : NetworkSettings := {}
  let connectTimeout := field t "connect_timeout" default.connectTimeout fun v =>
    (toDecimal v).bind (positiveUpTo 300)
  let readTimeout := field t "read_timeout" default.readTimeout fun v =>
    (toDecimal v).bind (positiveUpTo 3600)
  let bindHost := field t "bind_host" default.bindHost toOptionalText
  let bindPort := field t "bind_port" default.bindPort fun v =>
    (toInteger v).bind (withinLimit 65535)
  let timeouts := Checked.apply (connectTimeout.map NetworkSettings.mk) readTimeout
  Checked.apply (Checked.apply timeouts bindHost) bindPort

def TrackerSettings.ofTable (t : Table) : Checked TrackerSettings :=
  let default : TrackerSettings := {}
  let tracker := field t "default_tracker" default.defaultTracker optionalNode
  let addresses := field t "addresses" default.addresses addressEntries
  Checked.apply (tracker.map TrackerSettings.mk) addresses

def IdentitySettings.ofTable (t : Table) : Checked IdentitySettings :=
  let default : IdentitySettings := {}
  (field t "node_id" default.nodeId optionalNode).map IdentitySettings.mk

def ObservabilitySettings.ofTable (t : Table) : Checked ObservabilitySettings :=
  let default : ObservabilitySettings := {}
  let level := field t "log_level" default.logLevel toSeverity
  let file := field t "log_file" default.logFile toOptionalText
  let structured := field t "structured_logging" default.structuredLogging toFlag
  let correlation := field t "log_correlation_id" default.logCorrelationId toFlag
  let logging := Checked.apply (level.map ObservabilitySettings.mk) file
  Checked.apply (Checked.apply logging structured) correlation

namespace Settings

/-- Checks a section, which must be a table. -/
def sectionOf {α : Type} (name : String) (ofTable : Table → Checked α) (v : Value) : Checked α :=
  match v with
  | .dict entries => ofTable entries
  | _ => .broken (.section name)

def ofTable (t : Table) : Checked Settings :=
  let network := field t "network" {} (sectionOf "NetworkConfig" NetworkSettings.ofTable)
  let tracker := field t "tracker" {} (sectionOf "TrackerConfig" TrackerSettings.ofTable)
  let identity := field t "identity" {} (sectionOf "IdentityConfig" IdentitySettings.ofTable)
  let observability := field t "observability" {}
    (sectionOf "ObservabilityConfig" ObservabilitySettings.ofTable)
  let addressing := Checked.apply (network.map Settings.mk) tracker
  Checked.apply (Checked.apply addressing identity) observability

end Settings

end ContentTracker
