import ContentTracker.Json.Writer
import ContentTracker.Logging.Record

/-!
Records as lines of JSON.
-/

namespace ContentTracker.Logging.Record

/-- The names that are not written for themselves: what they hold stands in the entry under another
name, or is of no use to its readers. -/
def unlisted : List String :=
  ["name", "msg", "args", "levelname", "levelno", "pathname", "filename", "module", "exc_info",
    "exc_text", "stack_info", "lineno", "funcName", "created", "msecs", "relativeCreated", "thread",
    "threadName", "processName", "process", "taskName", correlationField]

/-- The entry of a record: what every record has, and behind it its fields. A field with the name of
an earlier item takes its place. -/
def entry (r : Record) : Except Problem Table := do
  let text ← r.message
  let head : Table := [("timestamp", .float r.time), ("level", r.get "levelname"),
    ("logger", r.get "name"), ("message", .text text), ("module", r.get "module"),
    ("function", r.get "funcName"), ("line", r.get "lineno")]
  let correlation : Table :=
    (r.fields.find? correlationField).toList.map fun v => (correlationField, v)
  let trace : Table := r.trace.toList.map fun t => ("exception", .text t)
  let listed := r.fields.filter fun (k, _) => !unlisted.contains k
  return listed.foldl (fun t (k, v) => t.put k v) (head ++ correlation ++ trace)

/-- A record that JSON cannot hold is written as a line of text. -/
def plainLine (r : Record) : Except Problem String := do
  let level ← (r.get "levelname").written Value.plain
  let logger ← (r.get "name").written Value.plain
  return s!"{level} {logger}: {← r.message}"

/-- The line that is written for a record. -/
def structuredLine (r : Record) : Except Problem String := do
  match Json.write? .line (.dict (← r.entry)) with
  | some text => return text
  | none => r.plainLine

end ContentTracker.Logging.Record
