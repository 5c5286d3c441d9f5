import ContentTracker.Logging.Severity
import ContentTracker.Problem

/-!
How much the command line tells, by how often it is asked to tell more.
-/

namespace ContentTracker

inductive Verbosity
  /-- Results, warnings and errors. -/
  | normal
  /-- The progress of exchanges too. -/
  | verbose
  | debug
  /-- The way to each reported error too. -/
  | trace
deriving Repr, DecidableEq, Inhabited

namespace Verbosity

/-- The verbosity for a count. A count beyond either end stands for that end. -/
def ofCount (count : Int) : Verbosity :=
  if count ≤ 0 then .normal
  else if count = 1 then .verbose
  else if count = 2 then .debug
  else .trace

/-- The verbosity for a count in a table that may hold anything. -/
def ofValue (v : Value) : Except Problem Verbosity :=
  match v.integer?, v with
  | some n, _ => .ok (ofCount n)
  | none, .float x =>
    if x.le (.ofInt 0) then .ok .normal
    else if x.lt (.ofInt 3) then
      .error (.badValue s!"{x.text} is not a valid VerbosityLevel")
    else .ok .trace
  | none, v =>
    .error (.badType s!"'<' not supported between instances of '{v.typeName}' and 'int'")

def count : Verbosity → Nat
  | .normal => 0
  | .verbose => 1
  | .debug => 2
  | .trace => 3

def name : Verbosity → String
  | .normal => "NORMAL"
  | .verbose => "VERBOSE"
  | .debug => "DEBUG"
  | .trace => "TRACE"

/-- The level from which on log records are shown. -/
def severity : Verbosity → Severity
  | .normal => .warning
  | .verbose => .info
  | .debug | .trace => .debug

/-- The level in use: the set one, unless the verbosity asks for more. -/
def effective (v : Verbosity) (configured : Severity) : Severity :=
  if v.severity.rank < configured.rank then v.severity else configured

def showsTrace (v : Verbosity) : Bool := v = .trace

def isVerbose (v : Verbosity) : Bool := 1 ≤ v.count

def isDebug (v : Verbosity) : Bool := 2 ≤ v.count

theorem ofCount_count (v : Verbosity) : ofCount v.count = v := by cases v <;> rfl

/-- Asking for more never hides what the settings show. -/
theorem rank_effective_le (v : Verbosity) (configured : Severity) :
    (v.effective configured).rank ≤ configured.rank := by
  unfold effective
  split
  · exact Nat.le_of_lt ‹_›
  · exact Nat.le_refl _

end Verbosity

end ContentTracker
