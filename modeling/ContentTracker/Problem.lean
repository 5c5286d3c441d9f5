import ContentTracker.Failure
import ContentTracker.Conversion
import ContentTracker.Settings.Rule
import ContentTracker.Text.Utf8

/-!
Everything that can end an operation before its result: the failures of the tracker family, and
the plainer troubles of values, systems and callers.
-/

namespace ContentTracker

/-- The troubles that an operating system reports about a connection or a file. -/
inductive SystemTrouble
  | general
  | reset
  | refused
  | aborted
  | brokenPipe
  | timeout
  | absent
  | occupied
  | noFolder
deriving Repr, DecidableEq

/-- The name of a trouble, for reports that have no text of their own. -/
def SystemTrouble.name : SystemTrouble → String
  | .general => "OSError"
  | .reset => "ConnectionResetError"
  | .refused => "ConnectionRefusedError"
  | .aborted => "ConnectionAbortedError"
  | .brokenPipe => "BrokenPipeError"
  | .timeout => "TimeoutError"
  | .absent => "FileNotFoundError"
  | .occupied => "FileExistsError"
  | .noFolder => "NotADirectoryError"

inductive Problem
  | failure (f : Failure)
  | badValue (message : String)
  | badType (message : String)
  | overflow (message : String)
  | missingKey (message : String)
  | badIndex (message : String)
  | badText (fault : Utf8.Fault)
  | invalid (errors : List Settings.Error)
  /-- A failure to configure whose cause is a list of rejected settings. -/
  | misconfigured (errors : List Settings.Error)
  | system (trouble : SystemTrouble) (message : String)
  | runtime (message : String)
  /-- A stream that ended inside a fixed number of octets. -/
  | incomplete (got wanted : Nat)
  | cancelled

namespace Problem

def fail (kind : FailureKind) (message : String) (details : Table := []) : Problem :=
  .failure ⟨kind, message, details⟩

/-- The text of a problem in a message or a log line. -/
def text : Problem → String
  | .failure f => f.text
  | .badValue m | .badType m | .overflow m | .missingKey m | .badIndex m | .runtime m => m
  | .badText fault => fault.message
  | .system _ m => m
  | .incomplete got wanted => s!"{got} bytes read on a total of {wanted} expected bytes"
  | .cancelled => ""
  | .invalid _ => "Invalid configuration"
  | .misconfigured _ => "Invalid configuration"

/-- Whether the problem belongs to the tracker family. -/
def isFailure : Problem → Bool
  | .failure _ => true
  | .misconfigured _ => true
  | _ => false

/-- Whether the system reported the problem. -/
def isSystem : Problem → Bool
  | .system _ _ => true
  | _ => false

def ofInteger (fault : Conversion.IntegerFault) : Problem :=
  match fault with
  | .malformed _ | .tooLong _ | .notANumber => .badValue fault.message
  | .infinite => .overflow fault.message
  | .wrongType _ => .badType fault.message

def ofPair (fault : Conversion.PairFault) : Problem :=
  match fault with
  | .tooFew _ | .tooMany => .badValue fault.message
  | .notASequence _ => .badType fault.message

end Problem

/-- The text of a value in one of its forms, if the value can be written. -/
def Value.written (form : Value → String) (v : Value) : Except Problem String :=
  if v.isWritable then .ok (form v) else .error (.badValue Numeral.unwritable)

end ContentTracker
