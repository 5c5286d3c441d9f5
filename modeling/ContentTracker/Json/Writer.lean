import ContentTracker.Value

/-!
JSON text in printable ASCII: every other character is written as one or two escapes.
-/

namespace ContentTracker.Json

/-- An escape of one UTF-16 unit. -/
def unitEscape (n : Nat) : List Char := '\\' :: 'u' :: Text.hexDigits 4 n

/-- A character inside a JSON string. Beyond the first plane it is a pair of surrogates. -/
def escapeChar (c : Char) : List Char :=
  if c = '"' then ['\\', '"']
  else if c = '\\' then ['\\', '\\']
  else if c = '\n' then ['\\', 'n']
  else if c = '\r' then ['\\', 'r']
  else if c = '\t' then ['\\', 't']
  else if c.toNat = 8 then ['\\', 'b']
  else if c.toNat = 12 then ['\\', 'f']
  else if 32 ≤ c.toNat ∧ c.toNat < 127 then [c]
  else if c.toNat < 0x10000 then unitEscape c.toNat
  else
    let n := c.toNat - 0x10000
    unitEscape (0xd800 + n / 0x400) ++ unitEscape (0xdc00 + n % 0x400)

def stringText (s : String) : String :=
  String.ofList ('"' :: s.toList.flatMap escapeChar ++ ['"'])

def floatText : Binary64 → String
  | .nan => "NaN"
  | .infinite negative => if negative then "-Infinity" else "Infinity"
  | x => x.text

/-- How nested values are laid out: on one line, or each item on a line of its own, indented by two
blanks a level. -/
inductive Layout
  | line
  | indented (level : Nat)

def Layout.deeper : Layout → Layout
  | .line => .line
  | .indented n => .indented (n + 1)

def margin (level : Nat) : String := String.ofList (List.replicate (2 * level) ' ')

/-- Items between brackets, which stand alone when there are no items. -/
def Layout.enclose (layout : Layout) (opening closing : String) (items : List String) : String :=
  match items, layout with
  | [], _ => opening ++ closing
  | items, .line => opening ++ ", ".intercalate items ++ closing
  | items, .indented level =>
    opening ++ "\n" ++ margin (level + 1) ++
      (",\n" ++ margin (level + 1)).intercalate items ++ "\n" ++ margin level ++ closing

mutual

/-- The JSON text of a value; nothing for one that contains itself, or an integer of too many digits.
Octets and moments are written as the text that messages show. -/
def write? (layout : Layout) : Value → Option String
  | .null => some "null"
  | .bool b => some (if b then "true" else "false")
  | .int n => if Numeral.isWritable n then some (toString n) else none
  | .float x => some (floatText x)
  | .text s => some (stringText s)
  | .octets bs => some (stringText (Text.quotedOctets bs))
  | .moment s => some (stringText s)
  | .list items => (writeItems? layout.deeper items).map (layout.enclose "[" "]")
  | .dict entries => (writeEntries? layout.deeper entries).map (layout.enclose "\x7b" "\x7d")
  | .cyclic => none

def writeItems? (layout : Layout) : List Value → Option (List String)
  | [] => some []
  | v :: rest => do
    let first ← write? layout v
    let others ← writeItems? layout rest
    some (first :: others)

def writeEntries? (layout : Layout) : List (String × Value) → Option (List String)
  | [] => some []
  | (k, v) :: rest => do
    let first ← write? layout v
    let others ← writeEntries? layout rest
    some ((stringText k ++ ": " ++ first) :: others)

end

end ContentTracker.Json
