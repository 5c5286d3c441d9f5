import ContentTracker.Duration
import ContentTracker.Logging.Entry
import ContentTracker.Logging.LineFormat
import ContentTracker.Logging.Setup

/-!
The log over time: how it is set up, the records it took, and the lines written for them.
-/

namespace ContentTracker.Logging

structure Journal where
  setup : Setup := {}
  disk : Disk
  /-- The time, in seconds from some fixed moment. -/
  now : Binary64 := .ofInt 0
  /-- The time as lines of text show it. -/
  stamp : String := ""
  records : List Record := []
  lines : List (LogFile × String) := []
  /-- What the console told of records that it could not show. -/
  complaints : List String := []

/-- A step of a program that logs; what it logged before a problem stays logged. -/
abbrev Journaling := EStateM Problem Journal

/-- Records from this level on are taken while logging is not set up. -/
def defaultLevel : Severity := .warning

def Setup.takes (s : Setup) (severity : Severity) : Bool :=
  (s.level.getD defaultLevel).rank ≤ severity.rank

/-- The correlation id that records are marked with. An empty one counts as none. -/
def Setup.mark (s : Setup) : Value :=
  match s.correlation with
  | some id => .text (if id = "" then "no-correlation-id" else id)
  | none => .text "no-correlation-id"

namespace Journal

/-- Hands a record to a handler, which marks it. A file's mark replaces one that the record had. A
record whose message cannot be formed is left out of files. -/
def hand (j : Journal) (r : Record) (h : Handler) : Journal × Record :=
  match h.kind with
  | .console =>
    let r := r.markNew j.setup.mark
    match r.message with
    | .ok _ => (j, r)
    | .error _ =>
      let complaint :=
        s!"Logging error (suppressed): {r.severity.name} {r.logger}: {r.template}"
      ({ j with complaints := j.complaints ++ [complaint] }, r)
  | kind =>
    let r := r.mark j.setup.mark
    let line := if kind = .structured then r.structuredLine else LineFormat.simple.line r
    match j.setup.current, line with
    | some file, .ok line => ({ j with lines := j.lines ++ [(file, line)] }, r)
    | _, _ => (j, r)

def handAll (j : Journal) (r : Record) : List Handler → Journal × Record
  | [] => (j, r)
  | h :: rest =>
    if h.level.rank ≤ r.severity.rank then
      let (j, r) := j.hand r h
      handAll j r rest
    else handAll j r rest

/-- Logs a record. Fields with reserved names are refused, unless the record is below the level. -/
def log (r : Record) : Journaling Unit := do
  let j ← get
  if j.setup.takes r.severity then
    ofExcept (Record.checkFields r.fields)
    let r := { r with time := j.now, stamp := j.stamp }
    let (j, r) := j.handAll r j.setup.handlers
    set (if j.setup.level.isSome then { j with records := j.records ++ [r] } else j)

def configure (ids : Nat → String) (o : ObservabilitySettings) : Journaling Unit := fun j =>
  match j.setup.configure ids o j.disk with
  | .ok setup disk => .ok () { j with setup := setup, disk := disk }
  | .error p disk => .error p { j with disk := disk }

/-- Draws a new correlation id. -/
def drawCorrelation (ids : Nat → String) : Journaling Unit :=
  modify fun j => { j with setup := j.setup.drawCorrelation ids }

/-- Takes a correlation id, or a new one. -/
def setCorrelation (ids : Nat → String) (id : Option String) : Journaling Unit :=
  match id with
  | some id => modify fun j => { j with setup := { j.setup with correlation := some id } }
  | none => drawCorrelation ids

/-- Lets time pass. -/
def pass (seconds : Rat) : Journaling Unit :=
  modify fun j => { j with now := .ofRat (j.now.toRat?.getD 0 + seconds) }

/-- The time since an earlier moment. -/
def since (start : Binary64) : Journaling Binary64 := do
  return .ofRat ((← get).now.toRat?.getD 0 - start.toRat?.getD 0)

end Journal

/-- An operation whose start, end and duration are logged. -/
structure Operation where
  name : String
  severity : Severity := .debug
  /-- From this many seconds on, the end is logged at a level of its own. -/
  slowAfter : Duration := .whole 1
  logger : String := "cctrack.utils.logging_config"
  fields : Table := []

namespace Operation

def record (o : Operation) (severity : Severity) (template function : String) (args : List Value) :
    Record :=
  { logger := o.logger, severity := severity, template := template, args := .text o.name :: args
    function := function, fields := o.fields }

/-- Runs the operation under a correlation id of its own, which stays in use after it. -/
def run {α : Type} (ids : Nat → String) (o : Operation) (body : Journaling α) : Journaling α := do
  let start := (← get).now
  Journal.drawCorrelation ids
  Journal.log (o.record o.severity "Starting %s" "__enter__" [])
  match body (← get) with
  | .ok a j =>
    set j
    let duration ← Journal.since start
    let slow := o.slowAfter.seconds ≤ duration.toRat?.getD 0
    Journal.log (o.record (if slow then .info else o.severity) "Completed %s in %.3fs" "__exit__"
      [.float duration])
    return a
  | .error p j =>
    set j
    let duration ← Journal.since start
    Journal.log (o.record .error "Failed %s in %.3fs: %s" "__exit__" [.float duration, .text p.text])
    throw p

end Operation

/-- The record of a problem. Failures of the tracker family give their details a field of their own. -/
def problemRecord (logger context : String) (p : Problem) : Record :=
  let made (text : String) (fields : Table) : Record :=
    { logger := logger, severity := .error, template := "%s: %s", function := "log_exception"
      args := [.text context, .text text], trace := some p.text, fields := fields }
  match p with
  | .failure f => made f.message [("details", .dict f.details)]
  | .misconfigured _ => made p.text [("details", .dict [])]
  | p => made p.text []

/-- Logs a problem with what was being done. -/
def Journal.logProblem (logger context : String) (p : Problem) : Journaling Unit :=
  Journal.log (problemRecord logger context p)

end ContentTracker.Logging
