/-!
How grave a log record is.
-/

namespace ContentTracker

inductive Severity
  | debug
  | info
  | warning
  | error
  | critical
deriving Repr, DecidableEq, Inhabited

namespace Severity

def all : List Severity := [debug, info, warning, error, critical]

def name : Severity → String
  | .debug => "DEBUG"
  | .info => "INFO"
  | .warning => "WARNING"
  | .error => "ERROR"
  | .critical => "CRITICAL"

def rank : Severity → Nat
  | .debug => 10
  | .info => 20
  | .warning => 30
  | .error => 40
  | .critical => 50

def ofName? (name : String) : Option Severity := all.find? (·.name = name)

end Severity

end ContentTracker
