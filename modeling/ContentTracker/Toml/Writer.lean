import ContentTracker.Value

/-!
Writing settings files: the plain values of a table come first, each table has a header with its
whole name, and tables inside tables follow after all tables of the level above.
-/

namespace ContentTracker.Toml

/-- The pieces of a text between the places where a backslash stands before an `x`. -/
def splitHexEscapes : List Char → List (List Char)
  | [] => [[]]
  | '\\' :: 'x' :: rest => [] :: splitHexEscapes rest
  | c :: rest =>
    match splitHexEscapes rest with
    | [] => [[c]]
    | first :: others => (c :: first) :: others

/-- Each pair of backslashes becomes one. -/
def halveBackslashes : List Char → List Char
  | '\\' :: '\\' :: rest => '\\' :: halveBackslashes rest
  | c :: rest => c :: halveBackslashes rest
  | [] => []

/-- What stands between two pieces: a plain `x` or the start of a code escape, by the parity of the
backslashes at the end of the first piece, of which the very first character of the piece does not
count. -/
def joiner (piece : List Char) : List Char :=
  let trailing := (piece.reverse.takeWhile (· = '\\')).length
  let toggles := min trailing (piece.length - 1)
  let plain := (trailing = 0) = (toggles % 2 = 0)
  if plain then ['x'] else ['u', '0', '0']

/-- Joins pieces from the left. An empty piece in front is dropped; one that is then alone cannot be
joined. -/
def joinPieces? (first : List Char) : List (List Char) → Option (List Char)
  | [] => some first
  | second :: rest =>
    if first.isEmpty then
      match rest with
      | [] => none
      | third :: rest =>
        let piece := halveBackslashes second
        joinPieces? (piece ++ joiner piece ++ third) rest
    else
      let piece := halveBackslashes first
      joinPieces? (piece ++ joiner piece ++ second) rest

/-- The inside of a text in double quotes: quoted as in messages, with double quotes escaped in place
of single ones. -/
def requoted (s : String) : List Char :=
  let cs := s.toList
  let inner := (Text.quotedChars cs).tail.dropLast
  if Text.quoteMark cs = '"' then inner
  else
    let rec swap : List Char → List Char
      | '\\' :: '\'' :: rest => '\'' :: swap rest
      | '\\' :: c :: rest => '\\' :: c :: swap rest
      | '"' :: rest => '\\' :: '"' :: swap rest
      | c :: rest => c :: swap rest
      | [] => []
    swap inner

/-- A text in double quotes; some texts with a control character in front have no written form. -/
def textForm? (s : String) : Option String :=
  match splitHexEscapes (requoted s) with
  | [] => none
  | first :: rest => (joinPieces? first rest).map fun cs => String.ofList ('"' :: cs ++ ['"'])

def isBareName (s : String) : Bool :=
  s ≠ "" && s.toList.all fun c => c.isAlphanum || c = '_' || c = '-'

def keyForm? (key : String) : Option String := if isBareName key then some key else textForm? key

mutual

/-- A value on the right of an equals sign; nothing for one that contains itself. Integers in it are
ones that can be written. -/
def valueForm? : Value → Option String
  | .bool b => some (if b then "true" else "false")
  | .int n => some (toString n)
  | .float x => some (x.write .settings)
  | .text s => textForm? s
  | .octets bs => textForm? (Text.quotedOctets bs)
  | .moment s => some s
  | .list items => (itemForms? items).map fun forms => "[" ++ String.join forms ++ "]"
  | .null => some "[]"
  | .dict _ => some "[]"
  | .cyclic => none

def itemForms? : List Value → Option (List String)
  | [] => some []
  | v :: rest => do
    let first ← valueForm? v
    let others ← itemForms? rest
    some ((" " ++ first ++ ",") :: others)

end

/-- The lines of the plain values of a table. -/
def plainLines? : Table → Option String
  | [] => some ""
  | (key, v) :: rest => do
    let others ← plainLines? rest
    match v with
    | .dict _ | .null => some others
    | v => some ((← keyForm? key) ++ " = " ++ (← valueForm? v) ++ "\n" ++ others)

/-- The tables inside a table, by their whole names. -/
def innerTables? (name : String) : Table → Option (List (String × Table))
  | [] => some []
  | (key, v) :: rest => do
    let others ← innerTables? name rest
    match v with
    | .dict t => some ((name ++ (← keyForm? key), t) :: others)
    | _ => some others

/-- Adds a table with its header to a text, a blank line in between. A table that holds nothing but
tables has no header. -/
def addTable? (text name : String) (t : Table) : Option String := do
  let lines ← plainLines? t
  let inner ← innerTables? "" t
  if lines = "" && !inner.isEmpty then some text
  else
    let gap := if text = "" || text.endsWith "\n\n" then "" else "\n"
    some (text ++ gap ++ "[" ++ name ++ "]\n" ++ lines)

/-- Adds the tables of one level, then those of the levels below. `depth` bounds the levels. -/
def addLevels? : (depth : Nat) → String → List (String × Table) → Option String
  | 0, text, _ => some text
  | depth + 1, text, tables => do
    let text ← tables.foldlM (fun text (name, t) => addTable? text name t) text
    let inner ← tables.mapM fun (name, t) => innerTables? (name ++ ".") t
    if inner.flatten.isEmpty then some text else addLevels? depth text inner.flatten

mutual

/-- How many levels of tables a value has. -/
def levels : Value → Nat
  | .dict entries => levelsOfEntries entries + 1
  | _ => 0

def levelsOfEntries : List (String × Value) → Nat
  | [] => 0
  | (_, v) :: rest => max (levels v) (levelsOfEntries rest)

end

/-- The text of a settings file. -/
def write? (t : Table) : Option String := do
  addLevels? (levelsOfEntries t) (← plainLines? t) (← innerTables? "" t)

end ContentTracker.Toml
