import ContentTracker.Logging.Severity
import ContentTracker.Value

/-!
The settings of a node, in four sections, and the table that shows them.
-/

namespace ContentTracker

structure NetworkSettings where
  /-- Seconds for connecting to a node, per address. -/
  connectTimeout : Binary64 := .ofInt 10
  /-- Seconds for a single read. -/
  readTimeout : Binary64 := .ofInt 30
  /-- The local address of outgoing connections; none lets the dialed address decide. -/
  bindHost : Option String := none
  /-- The local port of outgoing connections; zero picks a free one. -/
  bindPort : Int := 0
deriving DecidableEq, Inhabited

structure TrackerSettings where
  /-- The node id of the tracker that is used when none is named. -/
  defaultTracker : Option String := none
  /-- The known addresses of each node id, both as they were written. -/
  addresses : List (String × List String) := []
deriving DecidableEq, Inhabited

structure IdentitySettings where
  /-- The node's own id; a random one is drawn when there is none. -/
  nodeId : Option String := none
deriving DecidableEq, Inhabited

structure ObservabilitySettings where
  logLevel : Severity := .info
  logFile : Option String := none
  /-- Whether lines of the log file are structured. -/
  structuredLogging : Bool := true
  /-- Whether a correlation id is drawn when logging starts. -/
  logCorrelationId : Bool := true
deriving DecidableEq, Inhabited

structure Settings where
  network : NetworkSettings := {}
  tracker : TrackerSettings := {}
  identity : IdentitySettings := {}
  observability : ObservabilitySettings := {}
deriving DecidableEq, Inhabited

/-- A text that may be absent. -/
def Value.ofText? : Option String → Value
  | some s => .text s
  | none => .null

namespace NetworkSettings

def table (s : NetworkSettings) : Table :=
  [("connect_timeout", .float s.connectTimeout), ("read_timeout", .float s.readTimeout),
    ("bind_host", .ofText? s.bindHost), ("bind_port", .int s.bindPort)]

end NetworkSettings

namespace TrackerSettings

def addressTable (s : TrackerSettings) : Table :=
  s.addresses.map fun (node, addresses) => (node, .list (addresses.map .text))

def table (s : TrackerSettings) : Table :=
  [("default_tracker", .ofText? s.defaultTracker), ("addresses", .dict s.addressTable)]

end TrackerSettings

namespace IdentitySettings

def table (s : IdentitySettings) : Table := [("node_id", .ofText? s.nodeId)]

end IdentitySettings

namespace ObservabilitySettings

def table (s : ObservabilitySettings) : Table :=
  [("log_level", .text s.logLevel.name), ("log_file", .ofText? s.logFile),
    ("structured_logging", .bool s.structuredLogging),
    ("log_correlation_id", .bool s.logCorrelationId)]

end ObservabilitySettings

namespace Settings

def table (s : Settings) : Table :=
  [("network", .dict s.network.table), ("tracker", .dict s.tracker.table),
    ("identity", .dict s.identity.table), ("observability", .dict s.observability.table)]

/-- The entries of a section that hold something. -/
def present (entries : Table) : Table :=
  entries.filter fun e => match e.2 with
    | .null => false
    | _ => true

/-- The settings that are set, as they are exported. -/
def exported (s : Settings) : Table :=
  [("network", .dict (present s.network.table)), ("tracker", .dict (present s.tracker.table)),
    ("identity", .dict (present s.identity.table)),
    ("observability", .dict (present s.observability.table))]

end Settings

end ContentTracker
