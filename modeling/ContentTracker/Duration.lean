import ContentTracker.Value

/-!
Spans of time in seconds, shown the way they were given.
-/

namespace ContentTracker

/-- A number of seconds, whole or decimal. -/
inductive Duration
  | whole (n : Int)
  | decimal (x : Binary64)
deriving Repr, DecidableEq

namespace Duration

/-- The exact number of seconds. A NaN is none, and what is infinite is longer than any time that
matters. -/
def seconds : Duration → Rat
  | .whole n => n
  | .decimal x =>
    match x with
    | .infinite negative => mkRat (if negative then -(tenTo 400 : Int) else tenTo 400) 1
    | x => x.toRat?.getD 0

def text : Duration → String
  | .whole n => toString n
  | .decimal x => x.text

def value : Duration → Value
  | .whole n => .int n
  | .decimal x => .float x

def ofValue? : Value → Option Duration
  | .int n => some (.whole n)
  | .bool b => some (.whole (if b then 1 else 0))
  | .float x => some (.decimal x)
  | _ => none

end Duration

end ContentTracker
