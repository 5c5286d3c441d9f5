import ContentTracker.Text.Blank
import ContentTracker.Text.Word

/-!
The logical lines of a settings file. Comments are blanked out, and an array that spans several
lines is joined into one; a text in triple quotes keeps its line ends. Keys are looked at here, and
so is the balance of quotes.
-/

namespace ContentTracker.Toml

/-- How far the key of a line has been read. -/
inductive KeyPart
  | none
  | name
  | after
deriving Repr, DecidableEq

/-- What a bracket at the start of a line opens. -/
inductive Header
  | none
  | table
  | tableList
deriving Repr, DecidableEq

/-- What is known after some characters: the text so far, the latest character first, and the
constructs that are open. -/
structure Scan where
  done : List Char := []
  key : KeyPart := .none
  dotted : Bool := false
  quote : Option Char := none
  /-- Inside a text in triple quotes. -/
  long : Bool := false
  /-- Arrays opened and not closed, fewer than none if more were closed. -/
  arrays : Int := 0
  header : Header := .none
  lineStart : Bool := true
  comment : Bool := false

namespace Scan

/-- Whether an odd number of backslashes ends a text that is given backwards. -/
def escaped : List Char → Bool
  | '\\' :: rest => !escaped rest
  | _ => false

def isKeyChar (c : Char) : Bool := Text.isWord c || c = '-'

/-- Whether the next character goes on with a key after a dot. -/
def resumesKey (next : Option Char) : Bool :=
  match next with
  | some c => !Text.isBlank c && c ≠ '.'
  | none => false

/-- Reads a character of a key; `some` state if it belongs to the key, and the state after the
equals sign otherwise. A character that no key may hold is refused. -/
def readKey (s : Scan) (c : Char) (next : Option Char) : Option (Bool × Scan) :=
  if c = '\n' then none
  else if s.quote.isSome then
    if s.quote = some c && !escaped s.done then
      some (true, { s with key := .after, quote := none })
    else some (true, s)
  else
    let resumed (s : Scan) : Scan := if resumesKey next then { s with key := .name } else s
    if s.key = .name && Text.isBlank c then some (true, { s with key := .after })
    else if s.key = .name && c = '.' then some (true, { s with dotted := true })
    else if s.key = .name && isKeyChar c then some (true, s)
    else if s.key = .name && s.dotted && s.done.head? = some '.' && (c = '"' || c = '\'') then
      some (true, { s with quote := some c })
    else if s.key = .after && Text.isBlank c then
      some (true, if s.dotted then resumed s else s)
    else if s.key = .after && c = '.' then some (true, resumed { s with dotted := true })
    else if c = '=' then some (false, { s with key := .none, dotted := false })
    else none

/-- Notes a quote. The third of three in a row opens or closes a long text; a double quote behind an
odd number of backslashes does neither. -/
def readQuote (s : Scan) (c : Char) : Scan :=
  let same := (s.done.takeWhile (· = c)).take 2
  let third := same.length = 2
  let before := s.done.drop same.length
  if (c = '\'' && s.quote ≠ some '"') || (c = '"' && s.quote ≠ some '\'') then
    if c = '"' && same.length ≠ 1 && escaped before then s
    else
      let opened := if third then !s.long else s.quote.isNone
      { s with long := (if third then !s.long else s.long), quote := if opened then some c else none }
  else s

/-- Notes a bracket outside of quotes. -/
def readBracket (s : Scan) (c : Char) (next : Option Char) : Scan :=
  if s.quote.isSome then s
  else if c = '[' && s.header = .none then
    if s.lineStart then { s with header := if next = some '[' then .tableList else .table }
    else { s with arrays := s.arrays + 1 }
  else if c = ']' then
    match s.header with
    | .table => { s with header := .none }
    | .tableList => if s.done.head? = some ']' then { s with header := .none } else s
    | .none => { s with arrays := s.arrays - 1 }
  else s

/-- Ends a line. Right after the opening quotes of a long text the line end is dropped, and inside an
array it becomes a blank. -/
def endLine (s : Scan) : Option Scan :=
  if s.long then
    match s.done with
    | a :: b :: c :: rest =>
      if (a = '\'' || a = '"') && b = a then
        some { s with done := a :: a :: b :: (if c = a then ' ' else c) :: rest }
      else some { s with done := '\n' :: s.done }
    | _ => some { s with done := '\n' :: s.done }
  else if s.quote.isSome then none
  else if s.arrays ≠ 0 then some { s with done := ' ' :: s.done }
  else some { s with done := '\n' :: s.done, lineStart := true }

/-- Takes a character to the text. The first one of a line that opens no header starts a key. -/
def keep (s : Scan) (c : Char) : Option Scan :=
  if s.lineStart && c ≠ ' ' && c ≠ '\t' then
    let s := { s with lineStart := false, done := c :: s.done }
    if s.header ≠ .none then some s
    else if c = '=' then none
    else some { s with key := .name }
  else some { s with done := c :: s.done }

/-- Reads one character, knowing the next. -/
def step (s : Scan) (c : Char) (next : Option Char) : Option Scan :=
  if s.comment && c ≠ '\n' then some { s with done := ' ' :: s.done }
  else do
    let s := { s with comment := false }
    let (inKey, s) ← if s.key = .none then some (false, s) else s.readKey c next
    if inKey then some { s with done := c :: s.done }
    else
      let s := s.readQuote c
      if c = '#' && s.quote.isNone && s.header = .none then
        some { s with comment := true, done := ' ' :: s.done }
      else
        let s := s.readBracket c next
        if c = '\n' then s.endLine else s.keep c

def run (s : Scan) : List Char → Option Scan
  | [] => if s.key ≠ .none || (s.quote.isSome && s.long) then none else some s
  | c :: rest => do (← s.step c rest.head?).run rest

end Scan

/-- The logical lines of a text, or nothing if a key or a quote is out of place. -/
def lines? (text : List Char) : Option (List (List Char)) := do
  let s ← Scan.run {} text
  let rec split (line : List Char) : List Char → List (List Char)
    | [] => [line.reverse]
    | c :: rest => if c = '\n' then line.reverse :: split [] rest else split (c :: line) rest
  some (split [] s.done.reverse)

end ContentTracker.Toml
