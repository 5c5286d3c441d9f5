import ContentTracker.Value

/-!
Reading JSON text. Integers and decimals stay apart, entries keep their order, and of two entries
with one key the later wins in the place of the earlier.
-/

namespace ContentTracker.Json

def isJsonBlank (c : Char) : Bool := c = ' ' || c = '\t' || c = '\n' || c = '\r'

def skipBlanks (cs : List Char) : List Char := cs.dropWhile isJsonBlank

/-- The value of four hexadecimal digits. -/
def unit? : List Char → Option (Nat × List Char)
  | a :: b :: c :: d :: rest => do
    let a ← Octets.hexValue? a
    let b ← Octets.hexValue? b
    let c ← Octets.hexValue? c
    let d ← Octets.hexValue? d
    some (((a * 16 + b) * 16 + c) * 16 + d, rest)
  | _ => none

/-- The character of an escape whose backslash has been read. -/
def escape? : List Char → Option (Char × List Char)
  | '"' :: rest => some ('"', rest)
  | '\\' :: rest => some ('\\', rest)
  | '/' :: rest => some ('/', rest)
  | 'b' :: rest => some ('\x08', rest)
  | 'f' :: rest => some ('\x0c', rest)
  | 'n' :: rest => some ('\n', rest)
  | 'r' :: rest => some ('\r', rest)
  | 't' :: rest => some ('\t', rest)
  | 'u' :: rest => do
    let (high, rest) ← unit? rest
    if 0xd800 ≤ high ∧ high < 0xdc00 then
      match rest with
      | '\\' :: 'u' :: rest => do
        let (low, rest) ← unit? rest
        if 0xdc00 ≤ low ∧ low < 0xe000 then
          some (Char.ofNat (0x10000 + (high - 0xd800) * 0x400 + (low - 0xdc00)), rest)
        else none
      | _ => none
    else some (Char.ofNat high, rest)
  | _ => none

/-- The characters up to the closing quote. -/
def readString? : (fuel : Nat) → List Char → Option (List Char × List Char)
  | 0, _ => none
  | _ + 1, [] => none
  | fuel + 1, c :: rest =>
    if c = '"' then some ([], rest)
    else if c = '\\' then do
      let (d, rest) ← escape? rest
      let (ds, rest) ← readString? fuel rest
      some (d :: ds, rest)
    else do
      let (ds, rest) ← readString? fuel rest
      some (c :: ds, rest)

def isNumberChar (c : Char) : Bool :=
  c.isDigit || c = '-' || c = '+' || c = '.' || c = 'e' || c = 'E'

/-- The value of decimal digits. -/
def digitsValue (cs : List Char) : Nat := cs.foldl (fun n c => n * 10 + (c.toNat - 48)) 0

def signed? (cs : List Char) : Option Int :=
  let (negative, cs) := match cs with
    | '-' :: rest => (true, rest)
    | '+' :: rest => (false, rest)
    | cs => (false, cs)
  if cs.isEmpty || !cs.all Char.isDigit then none
  else some (if negative then -(digitsValue cs) else digitsValue cs)

/-- A number is a decimal exactly when it has a point or an exponent. -/
def number? (cs : List Char) : Option Value :=
  let negative := cs.head? = some '-'
  let cs := if negative then cs.tail else cs
  let whole := cs.takeWhile Char.isDigit
  let rest := cs.dropWhile Char.isDigit
  let fraction := match rest with
    | '.' :: rest => rest.takeWhile Char.isDigit
    | _ => []
  let rest := match rest with
    | '.' :: rest => rest.dropWhile Char.isDigit
    | rest => rest
  if whole.isEmpty then none
  else if rest.isEmpty && fraction.isEmpty then
    some (.int (if negative then -(digitsValue whole) else digitsValue whole))
  else do
    let power ← match rest with
      | [] => some 0
      | _ :: rest => signed? rest
    some (.float (.ofDecimal negative (digitsValue (whole ++ fraction)) (power - fraction.length)))

/-- The named values. -/
def word? (cs : List Char) : Option (Value × List Char) :=
  let words : List (String × Value) := [("null", .null), ("true", .bool true),
    ("false", .bool false), ("NaN", .float .nan), ("Infinity", .float (.infinite false)),
    ("-Infinity", .float (.infinite true))]
  (words.find? fun w => w.1.toList.isPrefixOf cs).map fun w => (w.2, cs.drop w.1.length)

mutual

def readValue? : (fuel : Nat) → List Char → Option (Value × List Char)
  | 0, _ => none
  | fuel + 1, cs =>
    match skipBlanks cs with
    | '"' :: rest => (readString? rest.length.succ rest).map fun (s, rest) =>
        (.text (String.ofList s), rest)
    | '[' :: rest =>
      match skipBlanks rest with
      | ']' :: rest => some (.list [], rest)
      | rest => (readItems? fuel rest).map fun (items, rest) => (.list items, rest)
    | '\x7b' :: rest =>
      match skipBlanks rest with
      | '\x7d' :: rest => some (.dict [], rest)
      | rest => (readEntries? fuel [] rest).map fun (entries, rest) => (.dict entries, rest)
    | cs =>
      match word? cs with
      | some found => some found
      | none => (number? (cs.takeWhile isNumberChar)).map fun v => (v, cs.dropWhile isNumberChar)

def readItems? : (fuel : Nat) → List Char → Option (List Value × List Char)
  | 0, _ => none
  | fuel + 1, cs => do
    let (v, rest) ← readValue? fuel cs
    match skipBlanks rest with
    | ',' :: rest => do
      let (vs, rest) ← readItems? fuel rest
      some (v :: vs, rest)
    | ']' :: rest => some ([v], rest)
    | _ => none

def readEntries? : (fuel : Nat) → Table → List Char → Option (Table × List Char)
  | 0, _, _ => none
  | fuel + 1, entries, cs =>
    match skipBlanks cs with
    | '"' :: rest => do
      let (key, rest) ← readString? rest.length.succ rest
      match skipBlanks rest with
      | ':' :: rest => do
        let (v, rest) ← readValue? fuel rest
        let entries := entries.put (String.ofList key) v
        match skipBlanks rest with
        | ',' :: rest => readEntries? fuel entries rest
        | '\x7d' :: rest => some (entries, rest)
        | _ => none
      | _ => none
    | _ => none

end

/-- Reads a whole text as one value. -/
def read? (text : String) : Option Value :=
  match readValue? (text.length + 1) text.toList with
  | some (v, rest) => if (skipBlanks rest).isEmpty then some v else none
  | none => none

end ContentTracker.Json
