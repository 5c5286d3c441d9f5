import ContentTracker.Logging.Severity
import ContentTracker.Logging.Template

/-!
Log records: a message with its arguments, where and when it was logged, and fields that whoever logs
may add.
-/

namespace ContentTracker.Logging

structure Record where
  logger : String
  severity : Severity
  template : String
  args : List Value := []
  /-- The source file that the record was logged in. -/
  file : String := ""
  module : String := ""
  function : String := ""
  line : Int := 0
  time : Binary64 := .ofInt 0
  /-- The time as lines of text show it. -/
  stamp : String := ""
  /-- What is told about the problem that the record reports. -/
  trace : Option String := none
  /-- Added fields. A field hides the part of the record that has its name. -/
  fields : Table := []

/-- A value that takes the place of all arguments. Not even a list is taken apart, but nobody minds
if it is not used. -/
def Arguments.ofValue (v : Value) : Arguments :=
  match v with
  | .dict t => ⟨[v], some t⟩
  | .list _ => ⟨[v], some []⟩
  | v => ⟨[v], none⟩

namespace Record

/-- The field that holds the correlation id. -/
def correlationField : String := "correlation_id"

/-- The parts of a record by the names that line formats and fields know them by. -/
def parts (r : Record) : Table :=
  [("name", .text r.logger), ("msg", .text r.template), ("args", .list r.args),
    ("levelname", .text r.severity.name), ("levelno", .int r.severity.rank),
    ("pathname", .text r.file), ("filename", .text r.file),
    ("module", .text r.module), ("exc_info", .null), ("exc_text", .null), ("stack_info", .null),
    ("lineno", .int r.line), ("funcName", .text r.function), ("processName", .text "MainProcess"),
    ("threadName", .text "MainThread"), ("asctime", .text r.stamp)]

/-- All attributes of a record: its parts, and its fields over them. -/
def attributes (r : Record) : Table := r.fields.foldl (fun t (k, v) => t.put k v) r.parts

def get (r : Record) (name : String) : Value := (r.attributes.find? name).getD .null

/-- The message with its arguments filled in. -/
def message (r : Record) : Except Problem String := do
  let template ← (r.get "msg").written Value.plain
  match r.fields.find? "args" with
  | some v => if v.isTruthy then Template.render template (.ofValue v) else .ok template
  | none => Template.message template r.args

/-- The names that no field may have that is logged. -/
def reserved : List String :=
  ["message", "asctime", "name", "msg", "args", "levelname", "levelno", "pathname", "filename",
    "module", "exc_info", "exc_text", "stack_info", "lineno", "funcName", "created", "msecs",
    "relativeCreated", "thread", "threadName", "processName", "process"]

/-- Refuses fields whose names are taken. -/
def checkFields (fields : Table) : Except Problem Unit :=
  match List.find? (fun e => reserved.contains e.1) fields with
  | some (k, _) =>
    .error (.missingKey (Text.quoted s!"Attempt to overwrite {Text.quoted k} in LogRecord"))
  | none => .ok ()

/-- Marks a record with a correlation id. -/
def mark (r : Record) (id : Value) : Record :=
  { r with fields := r.fields.put correlationField id }

/-- Marks a record that has no correlation id. -/
def markNew (r : Record) (id : Value) : Record :=
  if r.fields.has correlationField then r else r.mark id

end Record

end ContentTracker.Logging
