import ContentTracker.Number.Notation
import ContentTracker.Number.Numeral
import ContentTracker.Text.Quoted

/-!
Values of settings files, details of failures and fields of log records.
-/

namespace ContentTracker

/-- A value with no type of its own. A `moment` is a date or a time in the text it was written with;
`cyclic` stands for a value that contains itself. -/
inductive Value
  | null
  | bool (b : Bool)
  | int (n : Int)
  | float (x : Binary64)
  | text (s : String)
  | octets (bs : Octets)
  | moment (s : String)
  | list (items : List Value)
  | dict (entries : List (String × Value))
  | cyclic
deriving Inhabited

namespace Value

/-- The name of a value's type in messages. -/
def typeName : Value → String
  | .null => "NoneType"
  | .bool _ => "bool"
  | .int _ => "int"
  | .float _ => "float"
  | .text _ => "str"
  | .octets _ => "bytes"
  | .moment _ => "datetime"
  | .list _ => "list"
  | .dict _ => "dict"
  | .cyclic => "list"

mutual

/-- Whether a value can be written as text, which an integer of too many digits in it rules out. -/
def isWritable : Value → Bool
  | .int n => Numeral.isWritable n
  | .list items => writableItems items
  | .dict entries => writableEntries entries
  | _ => true

def writableItems : List Value → Bool
  | [] => true
  | v :: rest => isWritable v && writableItems rest

def writableEntries : List (String × Value) → Bool
  | [] => true
  | (_, v) :: rest => isWritable v && writableEntries rest

end

mutual

/-- The text of a value inside a message, texts in quotes. It is meant for values that can be
written. -/
def shown : Value → String
  | .null => "None"
  | .bool b => if b then "True" else "False"
  | .int n => toString n
  | .float x => x.text
  | .text s => Text.quoted s
  | .octets bs => Text.quotedOctets bs
  | .moment s => s
  | .list items => "[" ++ ", ".intercalate (shownItems items) ++ "]"
  | .dict entries => "\x7b" ++ ", ".intercalate (shownEntries entries) ++ "\x7d"
  | .cyclic => "[[...]]"

def shownItems : List Value → List String
  | [] => []
  | v :: rest => shown v :: shownItems rest

def shownEntries : List (String × Value) → List String
  | [] => []
  | (k, v) :: rest => (Text.quoted k ++ ": " ++ shown v) :: shownEntries rest

end

/-- The text of a value on its own: a text stands for itself. It, too, is meant for values that can be
written. -/
def plain : Value → String
  | .text s => s
  | v => v.shown

/-- What is told of a value: the given text, which shows it, if the value can be written. -/
def complaint (v : Value) (text : String) : String :=
  if v.isWritable then text else Numeral.unwritable

def asText? : Value → Option String
  | .text s => some s
  | _ => none

def asDict? : Value → Option (List (String × Value))
  | .dict entries => some entries
  | _ => none

/-- Empty texts, lists and tables, zeros and `null` count as nothing given. -/
def isTruthy : Value → Bool
  | .null => false
  | .bool b => b
  | .int n => n != 0
  | .float x => !x.isZero
  | .text s => s != ""
  | .octets bs => !bs.isEmpty
  | .moment _ => true
  | .list items => !items.isEmpty
  | .dict entries => !entries.isEmpty
  | .cyclic => true

/-- The integer that a value equals as a number: booleans are zero and one, and a whole
floating-point number is its integer. -/
def integer? : Value → Option Int
  | .bool b => some (if b then 1 else 0)
  | .int n => some n
  | .float x => x.toInt?
  | _ => none

end Value

/-- Entries in order of insertion, each key once. -/
abbrev Table := List (String × Value)

namespace Table

def find? (t : Table) (key : String) : Option Value := t.lookup key

/-- Replaces the value of a key in its place, or appends a new entry. -/
def put : Table → String → Value → Table
  | [], key, v => [(key, v)]
  | (k, old) :: rest, key, v =>
    if k = key then (k, v) :: rest else (k, old) :: put rest key v

def has (t : Table) (key : String) : Bool := t.any (·.1 = key)

end Table

end ContentTracker
