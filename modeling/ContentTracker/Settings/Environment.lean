import ContentTracker.Conversion

/-!
Settings from environment variables, and how they override those of a file, one by one.
-/

namespace ContentTracker.Settings

/-- A setting that a variable may hold. The values of texts are taken as they stand. -/
structure Variable where
  name : String
  sectionName : String
  key : String
  isText : Bool
deriving Repr, DecidableEq

def knownVariables : List Variable := [
  ⟨"CCTRACK_CONNECT_TIMEOUT", "network", "connect_timeout", false⟩,
  ⟨"CCTRACK_READ_TIMEOUT", "network", "read_timeout", false⟩,
  ⟨"CCTRACK_BIND_HOST", "network", "bind_host", true⟩,
  ⟨"CCTRACK_BIND_PORT", "network", "bind_port", false⟩,
  ⟨"CCTRACK_DEFAULT_TRACKER", "tracker", "default_tracker", true⟩,
  ⟨"CCTRACK_NODE_ID", "identity", "node_id", true⟩,
  ⟨"CCTRACK_LOG_LEVEL", "observability", "log_level", true⟩,
  ⟨"CCTRACK_LOG_FILE", "observability", "log_file", true⟩,
  ⟨"CCTRACK_STRUCTURED_LOGGING", "observability", "structured_logging", false⟩,
  ⟨"CCTRACK_LOG_CORRELATION_ID", "observability", "log_correlation_id", false⟩]

/-- The value that the text of a variable stands for: a word for a truth value, a decimal if there is
a point in it, an integer, or the text itself. -/
def parseText (raw : String) : Value :=
  let word := String.ofList (raw.toList.map Numeral.lowerAscii)
  if ["true", "1", "yes", "on"].contains word then .bool true
  else if ["false", "0", "no", "off"].contains word then .bool false
  else if raw.toList.contains '.' then
    match Numeral.readFloat? raw with
    | some x => .float x
    | none => .text raw
  else match Numeral.readInt raw with
    | .ok n => .int n
    | .error _ => .text raw

def Variable.value (var : Variable) (raw : String) : Value :=
  if var.isText then .text raw else parseText raw

/-- Sets a key in a section, which is made if there is none. -/
def setIn (t : Table) (sectionName key : String) (v : Value) : Table :=
  match t.find? sectionName with
  | some (.dict entries) => t.put sectionName (.dict (Table.put entries key v))
  | _ => t.put sectionName (.dict [(key, v)])

/-- The settings that the environment holds. -/
def ofEnvironment (environment : List (String × String)) : Table :=
  knownVariables.foldl (fun t var =>
    match environment.lookup var.name with
    | none => t
    | some raw => setIn t var.sectionName var.key (var.value raw)) []

mutual

/-- A value overridden by another: tables are merged, anything else is replaced. -/
def override (base : Value) : Value → Value
  | .dict entries =>
    match base with
    | .dict t => .dict (merge t entries)
    | _ => .dict entries
  | v => v

/-- A table with the entries of another put over its own. -/
def merge (base : Table) : List (String × Value) → Table
  | [] => base
  | (key, v) :: rest =>
    let merged := match base.find? key with
      | some old => override old v
      | none => v
    merge (base.put key merged) rest

end

end ContentTracker.Settings
