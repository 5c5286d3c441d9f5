import ContentTracker.Logging.Severity

/-!
The rules that settings obey, and reports of settings that break them.
-/

namespace ContentTracker

namespace Settings

/-- A rule about one setting. `meaning` is one that looks at what a well-formed text means. -/
inductive Rule
  | number
  | numberText
  | integer
  | integerText
  | integerSize
  | finite
  | whole
  | above (limit : Nat)
  | atLeast (limit : Nat)
  | atMost (limit : Nat)
  | text
  | flag
  | flagText
  | list
  | table
  | section (name : String)
  | severity
  | meaning (fault : String)
deriving Repr, DecidableEq

namespace Rule

/-- The short name of a rule in reports. -/
def name : Rule → String
  | .number => "float_type"
  | .numberText => "float_parsing"
  | .integer => "int_type"
  | .integerText => "int_parsing"
  | .integerSize => "int_parsing_size"
  | .finite => "finite_number"
  | .whole => "int_from_float"
  | .above _ => "greater_than"
  | .atLeast _ => "greater_than_equal"
  | .atMost _ => "less_than_equal"
  | .text => "string_type"
  | .flag => "bool_type"
  | .flagText => "bool_parsing"
  | .list => "list_type"
  | .table => "dict_type"
  | .section _ => "model_type"
  | .severity => "enum"
  | .meaning _ => "value_error"

/-- Texts in quotes, the last one after "or". -/
def choices : List String → String
  | [] => ""
  | [a] => s!"'{a}'"
  | [a, b] => s!"'{a}' or '{b}'"
  | a :: rest => s!"'{a}', " ++ choices rest

/-- What a rule asks for. -/
def message : Rule → String
  | .number => "Input should be a valid number"
  | .numberText => "Input should be a valid number, unable to parse string as a number"
  | .integer => "Input should be a valid integer"
  | .integerText => "Input should be a valid integer, unable to parse string as an integer"
  | .integerSize => "Unable to parse input string as an integer, exceeded maximum size"
  | .finite => "Input should be a finite number"
  | .whole => "Input should be a valid integer, got a number with a fractional part"
  | .above limit => s!"Input should be greater than {limit}"
  | .atLeast limit => s!"Input should be greater than or equal to {limit}"
  | .atMost limit => s!"Input should be less than or equal to {limit}"
  | .text => "Input should be a valid string"
  | .flag => "Input should be a valid boolean"
  | .flagText => "Input should be a valid boolean, unable to interpret input"
  | .list => "Input should be a valid list"
  | .table => "Input should be a valid dictionary"
  | .section name => s!"Input should be a valid dictionary or instance of {name}"
  | .severity => "Input should be " ++ choices (Severity.all.map Severity.name)
  | .meaning fault => s!"Value error, {fault}"

end Rule

/-- A setting that breaks a rule, by the keys that lead to it. -/
structure Error where
  place : List String
  rule : Rule
deriving Repr, DecidableEq

end Settings

end ContentTracker
