import ContentTracker.Problem
import ContentTracker.Toml.Line
import ContentTracker.Toml.Scalar

/-!
Reading settings files: tables of keys and values, tables inside tables, lists of tables, and texts
that go on over several lines.
-/

namespace ContentTracker.Toml

/-- Why a settings file cannot be read. The troubles that are no fault of form come from a key that
leads through something other than a table, or from a piece that is missing. -/
inductive Fault
  | malformed
  | badType (message : String)
  | badIndex (message : String)
deriving Repr, DecidableEq

abbrev Read (α : Type) := Except Fault α

def orMalformed {α : Type} : Option α → Read α
  | some a => .ok a
  | none => .error .malformed

/-! Pieces of text -/

def isQuote (c : Char) : Bool := c = '"' || c = '\''

/-- Splits a text at the first place outside of quotes where `sep` stands. -/
def splitOutside (sep : List Char) : (quote : Option Char) → List Char →
    Option (List Char × List Char)
  | _, [] => none
  | quote, c :: rest =>
    if quote.isNone && sep.isPrefixOf (c :: rest) then some ([], (c :: rest).drop sep.length)
    else
      let quote := match quote with
        | none => if isQuote c then some c else none
        | some q => if c = q then none else some q
      (splitOutside sep quote rest).map fun (before, after) => (c :: before, after)

/-- Whether a text in quotes ends with an unescaped quote of the same kind. -/
def isBounded (cs : List Char) : Bool :=
  match cs with
  | [] => true
  | q :: rest => cs.getLast? = some q && !endsEscaped rest.dropLast

/-- Whether a piece of a list of texts must be joined with the next: its quotes are open. -/
def isOpenText (piece : List Char) : Bool :=
  let cs := Text.stripChars piece
  let long := match cs with
    | a :: b :: c :: _ =>
      let back := cs.reverse
      a = b && b = c && back[1]? ≠ some a && back[2]? ≠ some a
    | _ => false
  !isBounded cs || long

/-- Joins the pieces of texts that hold commas. -/
def joinTexts (current : List Char) (joined : Bool) : List (List Char) → Read (List (List Char))
  | [] =>
    if joined && isOpenText current then .error (.badIndex "list index out of range")
    else .ok [current]
  | next :: rest =>
    if isOpenText current then joinTexts (current ++ ',' :: next) true rest
    else (joinTexts next false rest).map (current :: ·)

/-- The pieces between commas outside of brackets. -/
def splitItems (depth : Int) (current : List Char) : List Char → List (List Char)
  | [] => [current.reverse]
  | c :: rest =>
    if c = ',' && depth = 0 then current.reverse :: splitItems 0 [] rest
    else
      let depth := if c = '[' then depth + 1 else if c = ']' then depth - 1 else depth
      splitItems depth (c :: current) rest

/-- The groups in braces of a list of tables; what stands between them is passed over. The latest
character of the open group comes first. -/
def braceGroups (depth : Nat) (inText : Bool) (current : List Char) : List Char → List (List Char)
  | [] => []
  | c :: rest =>
    if depth = 0 && c ≠ '{' then braceGroups 0 false [] rest
    else
      let inText := if isQuote c && !(inText && Scan.escaped current) then !inText else inText
      if !inText && c = '{' then braceGroups (depth + 1) inText (c :: current) rest
      else if !inText && c = '}' && depth ≤ 1 then
        (c :: current).reverse :: braceGroups 0 false [] rest
      else if !inText && c = '}' then braceGroups (depth - 1) inText (c :: current) rest
      else braceGroups depth inText (c :: current) rest

/-- Whether the value of a group in an inline table is complete. -/
def isWholeValue (value : List Char) : Bool :=
  let last := value.getLast?
  match value with
  | [] => false
  | c :: _ =>
    (isQuote c && last = some c) || c.isDigit || c = '-' ||
      ["true", "false"].contains (String.ofList value) ||
      (c = '[' && last = some ']') || (c = '{' && last = some '}')

/-- The value of a group in an inline table. -/
def groupValue (group : List Char) : Read (List Char) :=
  match group.dropWhile (· ≠ '=') with
  | [] => .error .malformed
  | _ :: value =>
    let value := Text.stripChars value
    if value.isEmpty then .error (.badIndex "string index out of range") else .ok value

/-- Joins the pieces of an inline table whose values hold commas. -/
def joinGroups (current : List Char) : List (List Char) → Read (List (List Char))
  | [] => do
    if isWholeValue (← groupValue current) then return [current]
    throw .malformed
  | next :: rest => do
    if isWholeValue (← groupValue current) then return current :: (← joinGroups next rest)
    joinGroups (current ++ ',' :: next) rest

/-- Whether a value begins a text in triple quotes that does not end with it. Such a text may be the
last one of a list. -/
def opensLongText (value : List Char) : Bool :=
  let candidate :=
    if value.head? = some '[' && value.getLast? ≠ some ']' then
      let inner := Text.stripChars value.tail
      if inner.head?.any isQuote then
        (splitAt ',' inner).reverse.find? (fun piece => piece.head?.any isQuote) |>.getD []
      else value
    else value
  match candidate with
  | a :: b :: c :: rest =>
    isQuote a && b = a && c = a &&
      !(2 < rest.length && (candidate.reverse.take 3).all (· = a))
  | _ => false

/-! Keys and tables -/

/-- The complaint about a key that leads into something other than a table. -/
def notATable : Value → Fault
  | .text _ => .badType "'str' object does not support item assignment"
  | .list _ => .badType "list indices must be integers or slices, not str"
  | v => .badType s!"argument of type '{v.typeName}' is not iterable"

/-- Sets a key that must be new, in the table that other keys lead to. -/
def setNew (t : Table) (v : Value) : List String → Read Table
  | [] => .error .malformed
  | [key] => if t.has key then .error .malformed else .ok (t.put key v)
  | key :: rest =>
    match (t.find? key).getD (.dict []) with
    | .dict inner => (setNew inner v rest).map fun inner => t.put key (.dict inner)
    | other => if rest.length = 1 then .error .malformed else .error (notATable other)

/-- The keys that a dotted key names; the dots inside quotes belong to a key. -/
def dottedKeys (quote : Option Char) (current : List Char) : List Char → List (List Char)
  | [] => [current.reverse]
  | c :: rest =>
    match quote with
    | some q =>
      if c = q then dottedKeys none current rest else dottedKeys quote (c :: current) rest
    | none =>
      if isQuote c then dottedKeys (some c) current rest
      else if c = '.' then current.reverse :: dottedKeys none [] rest
      else dottedKeys none (c :: current) rest

/-- The keys that the text before an equals sign names. -/
def keysOf (cs : List Char) : Read (List String) :=
  let cs := Text.stripChars cs
  if cs.contains '.' then
    let keys := (dottedKeys none [] cs).map Text.stripChars
    .ok ((keys.filter (!·.isEmpty)).map String.ofList)
  else match cs with
    | q :: rest =>
      if isQuote q && cs.getLast? = some q then do
        let inner ← orMalformed (unescape? cs.length rest.dropLast)
        return [String.ofList inner]
      else .ok [String.ofList cs]
    | [] => .ok [""]

/-- Moves an equals sign from the value to the key until a value right behind the sign can begin one.
The flag says whether zeros and underscores are in order in all values looked at. -/
def settleValue (fuel : Nat) (key value : List Char) (orderly : Bool) :
    Read (List Char × List Char × Bool) :=
  let settled := match value with
    | [] => true
    | c :: _ =>
      let word := String.ofList (Text.stripChars value)
      c = ' ' || c = '\t' || isQuote c || c = '[' || c = '{' || word = "true" || word = "false" ||
        (Numeral.readFloat? (String.ofList value)).isSome || isDate value || startsWithTime value
  if settled then .ok (key, value, orderly)
  else match fuel, value.dropWhile (· ≠ '=') with
    | fuel + 1, _ :: rest =>
      settleValue fuel (key ++ '=' :: value.takeWhile (· ≠ '=')) rest (orderly && isOrderly rest)
    | _, _ => .error .malformed

/-- A text that goes on over several lines: its key, its lines so far, and whether the last line end
was escaped. -/
structure Pending where
  key : String
  text : List Char
  joined : Bool

/-- The lines of a text, ready for the next: an escaped line end is dropped. -/
def Pending.ofLine (key : String) (text : List Char) : Pending :=
  if endsEscaped text then ⟨key, text.dropLast, true⟩ else ⟨key, text ++ ['\n'], false⟩

/-- The kind of a value; a list holds values of one kind. -/
def kindOf : Value → String
  | .moment s => if startsWithTime s.toList then "time" else "date"
  | v => v.typeName

def sameKind : List Value → Bool
  | [] => true
  | v :: rest => rest.all fun w => kindOf w = kindOf v

mutual

/-- Reads a value. `orderly` says whether it may be a number. -/
def readValue (fuel : Nat) (cs : List Char) (orderly : Bool) : Read Value :=
  match fuel with
  | 0 => .error .malformed
  | fuel + 1 =>
    let word := String.ofList cs
    if word = "true" then .ok (.bool true)
    else if word = "false" then .ok (.bool false)
    else match cs with
      | [] => .error .malformed
      | c :: _ =>
        if isQuote c then (orMalformed (quotedText? cs)).map fun s => .text (String.ofList s)
        else if c = '[' then readArray fuel cs
        else if c = '{' then (readInline fuel cs []).map .dict
        else if startsWithTime cs then
          if isTime cs then .ok (.moment word) else .error .malformed
        else if isDate cs then .ok (.moment word)
        else if !orderly then .error .malformed
        else match number? cs with
          | some (.integer n) => .ok (.int n)
          | some (.decimal x) => .ok (.float x)
          | none => .error .malformed

/-- Reads the items of a list; empty ones are passed over. -/
def readItems (fuel : Nat) (pieces : List (List Char)) : Read (List Value) :=
  match fuel with
  | 0 => .error .malformed
  | fuel + 1 =>
    match pieces with
    | [] => .ok []
    | piece :: rest => do
      let piece := Text.stripChars piece
      let others ← readItems fuel rest
      if piece.isEmpty then return others
      let v ← readValue fuel piece true
      return v :: others

/-- Reads a list. Its last character is taken for the closing bracket. -/
def readArray (fuel : Nat) (cs : List Char) : Read Value :=
  match fuel with
  | 0 => .error .malformed
  | fuel + 1 => do
    let inner := cs.tail.dropLast
    let first := (Text.stripChars inner).head?
    let nested := (Text.stripChars cs.tail).head? = some '['
    let pieces ←
      if nested then pure (splitItems 0 [] inner)
      else if first = some '{' then pure (braceGroups 0 false [] inner)
      else if first.any isQuote then
        match splitAt ',' inner with
        | piece :: rest => joinTexts piece false rest
        | [] => pure []
      else pure (splitAt ',' inner)
    let items ← readItems fuel pieces
    if sameKind items then return .list items
    throw .malformed

/-- Reads an inline table into a table. -/
def readInline (fuel : Nat) (cs : List Char) (t : Table) : Read Table :=
  match fuel with
  | 0 => .error .malformed
  | fuel + 1 => do
    match splitAt ',' cs.tail.dropLast with
    | [] => return t
    | piece :: rest =>
      if rest.isEmpty && (Text.stripChars piece).isEmpty then return t
      let groups ← joinGroups piece rest
      readGroups fuel groups t

def readGroups (fuel : Nat) (groups : List (List Char)) (t : Table) : Read Table :=
  match fuel with
  | 0 => .error .malformed
  | fuel + 1 =>
    match groups with
    | [] => .ok t
    | group :: rest => do
      match ← readEntry fuel group t with
      | (t, none) => readGroups fuel rest t
      | (t, some _) => return t

/-- Reads a key and its value into a table, unless the value is a text that goes on in the next line. -/
def readEntry (fuel : Nat) (line : List Char) (t : Table) : Read (Table × Option Pending) :=
  match fuel with
  | 0 => .error .malformed
  | fuel + 1 => do
    let (key, value) ← orMalformed (splitOutside ['='] none line)
    let orderly := isOrderly value
    let value := if value.head?.any Char.isDigit then value.filter (· ≠ '_') else value
    let (key, value, orderly) ← settleValue value.length key value orderly
    let keys ← keysOf key
    let value := Text.stripChars value
    if opensLongText value then
      let _ ← setNew t .null keys
      return (t, some (.ofLine (keys.getLast?.getD "") value))
    let v ← readValue fuel value orderly
    let t ← setNew t v keys
    return (t, none)

end

/-! Headers -/

def isBareKey (cs : List Char) : Bool :=
  !cs.isEmpty && cs.all fun c => c.isAlphanum || c = '_' || c = '-'

/-- The name that a piece of a header is: nothing if it can be none, and no name yet if its quotes are
open. -/
def headerName? (piece : List Char) : Option (Option String) :=
  match Text.stripChars piece with
  | [] => none
  | q :: rest =>
    if isQuote q then
      if rest.isEmpty || rest.getLast? ≠ some q then some none
      else if rest.dropLast.isEmpty then none
      else some (some (String.ofList rest.dropLast))
    else if isBareKey (q :: rest) then some (some (String.ofList (q :: rest)))
    else none

/-- The names in a header. A name in quotes may hold dots. -/
def headerNames? (current : List Char) : List (List Char) → Option (List String)
  | [] => do
    let name ← headerName? current
    return [← name]
  | next :: rest => do
    match ← headerName? current with
    | none => headerNames? (current ++ '.' :: next) rest
    | some name => return name :: (← headerNames? next rest)

/-- A header line: the names in it, and whether it adds a table to a list of tables. -/
def header? (line : List Char) : Option (Bool × List String) := do
  let many := line.tail.head? = some '['
  let (names, after) ← if many then splitOutside [']', ']'] none (line.drop 2)
    else splitOutside [']'] none (line.drop 1)
  if !(Text.stripChars after).isEmpty then none
  match splitAt '.' names with
  | [] => none
  | first :: rest => return (many, ← headerNames? first rest)

/-- The complaint about a header whose names lead through something other than a table. -/
def notSubscriptable : Value → Fault
  | .text _ => .badType "'str' object does not support item assignment"
  | v => .badType s!"'{v.typeName}' object is not subscriptable"

/-- The names of tables that so far exist only because a header named a table inside them. -/
abbrev Implied := List String

/-- Opens the table that a header names, and makes the tables on the way. A table may be opened once;
one that is only implied may still be opened. -/
def openTable (many : Bool) (implied : Implied) (v : Value) : List String → Read (Value × Implied)
  | [] => .ok (v, implied)
  | name :: rest =>
    let fresh : Value := if rest.isEmpty && many then .list [.dict []] else .dict []
    match v with
    | .dict t =>
      match Table.find? t name with
      | none => do
        let implied := if rest.isEmpty then implied else name :: implied
        let (inner, implied) ← openTable many implied fresh rest
        return (.dict (Table.put t name inner), implied)
      | some inner =>
        if rest.isEmpty then
          if implied.contains name then
            if many then .error .malformed else .ok (v, implied.erase name)
          else match many, inner with
            | true, .list items => .ok (.dict (Table.put t name (.list (items ++ [.dict []]))), implied)
            | _, _ => .error .malformed
        else do
          let (inner, implied) ← openTable many implied inner rest
          return (.dict (Table.put t name inner), implied)
    | .list items =>
      match items.getLast? with
      | some (.dict t) =>
        if many then
          match rest, Table.find? t name with
          | [], some (.list inner) =>
            .ok (.list (items.dropLast ++ [.dict (Table.put t name (.list (inner ++ [.dict []])))]), implied)
          | _, found => do
            let (inner, implied) ← openTable many implied (found.getD fresh) rest
            return (.list (items.dropLast ++ [.dict (Table.put t name inner)]), implied)
        else do
          let (inner, implied) ← openTable many implied ((Table.find? t name).getD fresh) rest
          return (.list (items.dropLast ++ [.dict (Table.put t name inner)]), implied)
      | some other => .error (.badType s!"argument of type '{other.typeName}' is not iterable")
      | none => .error (.badIndex "list index out of range")
    | other => .error (notSubscriptable other)

/-- Changes a table; of a list of tables it is the last one. -/
def changeLast {α : Type} (change : Table → Read (Table × α)) : Value → Read (Value × α)
  | .dict t => do
    let (t, a) ← change t
    return (.dict t, a)
  | .list items =>
    match items.getLast? with
    | some (.dict t) => do
      let (t, a) ← change t
      return (.list (items.dropLast ++ [.dict t]), a)
    | _ => .error .malformed
  | _ => .error .malformed

/-- Changes the table that names lead to. -/
def changeTable {α : Type} (change : Table → Read (Table × α)) : List String → Value →
    Read (Value × α)
  | [] => changeLast change
  | name :: rest => changeLast fun t => do
    let (inner, a) ← changeTable change rest ((t.find? name).getD (.dict []))
    return (t.put name inner, a)

/-! Documents -/

/-- What has been read of a file: all tables, the names of the open one, and a text that goes on. -/
structure Document where
  root : Value := .dict []
  current : List String := []
  implied : Implied := []
  pending : Option Pending := none

namespace Document

/-- Goes on with a text over several lines. -/
def continueText (d : Document) (p : Pending) (line : List Char) : Read Document := do
  let line := if p.joined || !p.text.contains '\n' then Text.stripChars line else line
  if line.isEmpty && p.joined then return d
  let text := p.text ++ line
  let mark := text.head?
  let closed := if mark = some '[' then line.getLast? = some ']'
    else 2 < line.length && (line.reverse.take 3).all (some · = mark)
  if closed then
    let v ← readValue (8 * text.length + 8) text true
    let (root, _) ← changeTable (fun t => .ok (t.put p.key v, ())) d.current d.root
    return { d with root := root, pending := none }
  return { d with pending := some (.ofLine p.key text) }

def readHeader (d : Document) (line : List Char) : Read Document := do
  let (many, names) ← orMalformed (header? line)
  let (root, implied) ← openTable many d.implied d.root names
  return { d with root := root, implied := implied, current := names }

/-- Reads an entry of the open table. -/
def readLine (d : Document) (line : List Char) : Read Document := do
  let (root, pending) ← changeTable (readEntry (8 * line.length + 8) line) d.current d.root
  return { d with root := root, pending := pending }

/-- Reads a line that holds an inline table and nothing else into the open table. -/
def readInlineLine (d : Document) (line : List Char) : Read Document := do
  if line.getLast? ≠ some '}' then throw .malformed
  let entries (t : Table) := (readInline (8 * line.length + 8) line t).map fun t => (t, ())
  let (root, _) ← changeTable entries d.current d.root
  return { d with root := root }

def step (d : Document) (line : List Char) : Read Document :=
  match d.pending with
  | some p => d.continueText p line
  | none =>
    let line := Text.stripChars line
    match line with
    | [] => .ok d
    | c :: _ =>
      if c = '[' then d.readHeader line
      else if c = '{' then d.readInlineLine line
      else if line.contains '=' then d.readLine line
      else .ok d

end Document

/-- Reads the characters of a settings file. -/
def readChars (cs : List Char) : Read Table := do
  let lines ← orMalformed (lines? cs)
  let d ← lines.foldlM Document.step {}
  match d.root with
  | .dict t => return t
  | _ => return []

/-- Reads the text of a settings file. -/
def read (text : String) : Read Table := readChars text.toList

end ContentTracker.Toml
