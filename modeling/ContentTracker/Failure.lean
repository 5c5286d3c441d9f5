import ContentTracker.Value

/-!
The failures that callers of the library tell apart, arranged in families.
-/

namespace ContentTracker

/-- What a failure is about. -/
inductive FailureKind
  | general
  | validation
  | specifier
  | hostRequired
  | configuration
  | network
  | connection
  | stream
  | protocol
  | encoding
  | decoding
  | oversized
deriving Repr, DecidableEq

/-- The family that a kind belongs to. -/
def FailureKind.parent? : FailureKind → Option FailureKind
  | .general => none
  | .validation | .network | .protocol => some .general
  | .specifier | .hostRequired | .configuration => some .validation
  | .connection | .stream => some .network
  | .encoding | .decoding | .oversized => some .protocol

/-- The kind itself and the families around it, the widest last. -/
def FailureKind.lineage (kind : FailureKind) : List FailureKind :=
  match kind.parent? with
  | none => [kind]
  | some parent =>
    match parent.parent? with
    | none => [kind, parent]
    | some root => [kind, parent, root]

/-- A failure with the values that explain it. -/
structure Failure where
  kind : FailureKind
  message : String
  details : Table := []

/-- The message, followed by the details if there are any. -/
def Failure.text (f : Failure) : String :=
  if f.details.isEmpty then f.message
  else s!"{f.message} (Details: {(Value.dict f.details).shown})"

end ContentTracker
