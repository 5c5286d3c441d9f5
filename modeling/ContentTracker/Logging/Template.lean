import ContentTracker.Number.Places
import ContentTracker.Problem

/-!
Message templates: texts with places where arguments go, each introduced by a percent sign and ended
by a letter that says how the argument is written.
-/

namespace ContentTracker.Logging

/-- A place in a template. -/
structure Slot where
  /-- The name of the argument; without one the next argument is taken. -/
  key : Option String := none
  left : Bool := false
  plus : Bool := false
  blank : Bool := false
  alternate : Bool := false
  zeros : Bool := false
  width : Nat := 0
  precision : Option Nat := none
  letter : Char := 's'
  /-- Where the letter stands in the template. -/
  position : Nat := 0
deriving Repr

/-- The arguments of a message: the ones still to be taken, and the named ones. -/
structure Arguments where
  next : List Value
  named : Option Table := none

/-- A single table that is not empty names the arguments, and any other arguments are taken in their
order. -/
def Arguments.ofList (args : List Value) : Arguments :=
  match args with
  | [.dict (e :: rest)] => ⟨[.dict (e :: rest)], some (e :: rest)⟩
  | args => ⟨args, none⟩

namespace Template

abbrev Result (α : Type) := Except Problem α

/-- The rest of a template, and how many characters stand before it. -/
structure Cursor where
  rest : List Char
  position : Nat

def Cursor.advance (c : Cursor) : Cursor := ⟨c.rest.tail, c.position + 1⟩

def incomplete {α : Type} : Result α := .error (.badValue "incomplete format")

def takeArgument (args : Arguments) : Result (Value × Arguments) :=
  match args.next with
  | [] => .error (.badType "not enough arguments for format string")
  | v :: rest => .ok (v, { args with next := rest })

/-- The name between parentheses that may nest. -/
def readKey : (depth : Nat) → Cursor → List Char → List Char → Result (String × Cursor)
  | _, _, _, [] => .error (.badValue "incomplete format key")
  | depth, c, name, ch :: rest =>
    let next := c.advance
    if ch = ')' then
      match depth with
      | 0 => .ok (String.ofList name.reverse, next)
      | depth + 1 => readKey depth next (ch :: name) rest
    else if ch = '(' then readKey (depth + 1) next (ch :: name) rest
    else readKey depth next (ch :: name) rest

def readFlags (slot : Slot) (position : Nat) : List Char → Slot × Cursor
  | '-' :: rest => readFlags { slot with left := true } (position + 1) rest
  | '+' :: rest => readFlags { slot with plus := true } (position + 1) rest
  | ' ' :: rest => readFlags { slot with blank := true } (position + 1) rest
  | '#' :: rest => readFlags { slot with alternate := true } (position + 1) rest
  | '0' :: rest => readFlags { slot with zeros := true } (position + 1) rest
  | rest => (slot, ⟨rest, position⟩)

/-- What a count counts, which tells how large it may be. -/
inductive CountKind
  | width
  | precision
deriving Repr, DecidableEq

namespace CountKind

def limit : CountKind → Nat
  | .width => 9223372036854775807
  | .precision => 2147483647

def name : CountKind → String
  | .width => "width"
  | .precision => "precision"

/-- The integers that an argument for the count is kept in. -/
def storage : CountKind → String
  | .width => "C ssize_t"
  | .precision => "C int"

end CountKind

/-- A count that an argument gives. -/
def givenCount (kind : CountKind) (n : Int) : Result Int :=
  if -(kind.limit : Int) ≤ n + 1 ∧ n ≤ kind.limit then .ok n
  else .error (.overflow s!"Python int too large to convert to {kind.storage}")

/-- A count: digits, or a star for the next argument. Without either there is none. -/
def readCount (kind : CountKind) (c : Cursor) (args : Arguments) :
    Result (Option Int × Cursor × Arguments) :=
  match c.rest with
  | '*' :: _ => do
    let (v, args) ← takeArgument args
    match v with
    | .int n => return (some (← givenCount kind n), c.advance, args)
    | .bool b => return (some (if b then 1 else 0), c.advance, args)
    | _ => throw (.badType "* wants int")
  | rest =>
    let digits := rest.takeWhile Char.isDigit
    let n := Numeral.valueOf (digits.map fun d => d.toNat - 48)
    if kind.limit < n then .error (.badValue s!"{kind.name} too big")
    else .ok (if digits.isEmpty then none else some (n : Int),
      ⟨rest.drop digits.length, c.position + digits.length⟩, args)

/-- The argument that a name stands for becomes the one to be taken. -/
def selectNamed (args : Arguments) (key : String) : Result Arguments :=
  match args.named with
  | none => .error (.badType "format requires a mapping")
  | some t =>
    match t.find? key with
    | some v => .ok { args with next := [v] }
    | none => .error (.missingKey (Text.quoted key))

/-- Reads a place whose percent sign has been read. -/
def readSlot (c : Cursor) (args : Arguments) : Result (Slot × Cursor × Arguments) := do
  let (key, c, args) ← match c.rest with
    | '(' :: rest => do
      let _ ← match args.named with
        | none => throw (.badType "format requires a mapping")
        | some _ => pure ()
      let (key, c) ← readKey 0 c.advance [] rest
      pure (some key, c, ← selectNamed args key)
    | _ => pure (none, c, args)
  let (slot, c) := readFlags { key := key } c.position c.rest
  let (width, c, args) ← readCount .width c args
  let width := width.getD 0
  let slot := { slot with width := width.natAbs, left := slot.left || width < 0 }
  let (slot, c, args) ← match c.rest with
    | '.' :: _ => do
      let (precision, c, args) ← readCount .precision c.advance args
      pure ({ slot with precision := some (precision.getD 0).toNat }, c, args)
    | _ => pure (slot, c, args)
  let c := match c.rest with
    | 'h' :: _ | 'l' :: _ | 'L' :: _ => c.advance
    | _ => c
  match c.rest with
  | [] => incomplete
  | letter :: _ => return ({ slot with letter := letter, position := c.position }, c.advance, args)

/-- Whether a letter asks for digits of another base than ten. -/
def isBased (letter : Char) : Bool := letter = 'o' || letter = 'x' || letter = 'X'

/-- The integer that an argument is written as: decimals are cut off unless digits of another base
are asked for. -/
def toInteger (letter : Char) (v : Value) : Result Int :=
  let based := isBased letter
  match v with
  | .int n => .ok n
  | .bool b => .ok (if b then 1 else 0)
  | .float x =>
    if based then .error (.badType s!"%{letter} format: an integer is required, not float")
    else (Conversion.toInteger (.float x)).mapError .ofInteger
  | v =>
    let wanted := if based then "an integer" else "a real number"
    .error (.badType s!"%{letter} format: {wanted} is required, not {v.typeName}")

def toDecimal (v : Value) : Result Binary64 :=
  match v with
  | .float x => .ok x
  | .bool b => .ok (.ofInt (if b then 1 else 0))
  | .int n =>
    match Binary64.ofInt n with
    | .infinite _ => .error (.overflow "int too large to convert to float")
    | x => .ok x
  | v => .error (.badType s!"must be real number, not {v.typeName}")

def upperAscii (c : Char) : Char :=
  if 97 ≤ c.toNat ∧ c.toNat ≤ 122 then Char.ofNat (c.toNat - 32) else c

def upper (text : String) : String := String.ofList (text.toList.map upperAscii)

/-- The digits of an integer without its sign, and the mark of their base. -/
def integerParts (slot : Slot) (n : Nat) : String × String :=
  let base := if slot.letter = 'o' then 8
    else if slot.letter = 'x' || slot.letter = 'X' then 16 else 10
  let digits := String.ofList (Nat.toDigits base n)
  let digits := if slot.letter = 'X' then upper digits else digits
  let digits := Binary64.padding ((slot.precision.getD 0) - digits.length) ++ digits
  let mark := if slot.alternate && base ≠ 10 then "0" ++ String.ofList [slot.letter] else ""
  (mark, digits)

/-- Fills a text up to the width of its place: with zeros behind the sign and the mark of the base if
the place asks for them, else with blanks. -/
def pad (slot : Slot) (numeric : Bool) (sign mark body : String) : String :=
  let missing := slot.width - (sign.length + mark.length + body.length)
  if numeric && slot.zeros && !slot.left then sign ++ mark ++ Binary64.padding missing ++ body
  else
    let blanks := String.ofList (List.replicate missing ' ')
    if slot.left then sign ++ mark ++ body ++ blanks else blanks ++ sign ++ mark ++ body

def signOf (slot : Slot) (negative : Bool) : String :=
  if negative then "-" else if slot.plus then "+" else if slot.blank then " " else ""

/-- The text with every character beyond ASCII as an escape. -/
def toAscii (text : String) : String :=
  String.ofList (text.toList.flatMap fun c =>
    if c.toNat < 128 then [c]
    else if c.toNat < 0x100 then '\\' :: 'x' :: Text.hexDigits 2 c.toNat
    else if c.toNat < 0x10000 then '\\' :: 'u' :: Text.hexDigits 4 c.toNat
    else '\\' :: 'U' :: Text.hexDigits 8 c.toNat)

def writeText (slot : Slot) (text : String) : String :=
  let text := match slot.precision with
    | some n => String.ofList (text.toList.take n)
    | none => text
  pad slot false "" "" text

def writeDecimal (slot : Slot) (v : Value) : Result String := do
  let x ← toDecimal v
  let form := match slot.letter with
    | 'e' | 'E' => Places.Form.exponential
    | 'f' | 'F' => .fixed
    | _ => .general
  let body := Places.magnitude form (slot.precision.getD 6) slot.alternate x
  let body := if slot.letter.isUpper then upper body else body
  return pad slot true (signOf slot (Places.hasSign x)) "" body

def writeInteger (slot : Slot) (v : Value) : Result String := do
  let n ← toInteger slot.letter v
  if 2147483644 < slot.precision.getD 0 then throw (.overflow "precision too large")
  if !isBased slot.letter && !Numeral.isWritable n then throw (.badValue Numeral.unwritable)
  let (mark, digits) := integerParts slot n.natAbs
  return pad slot true (signOf slot (n < 0)) mark digits

/-- A character, given as itself or by its code. -/
def writeCharacter (slot : Slot) (v : Value) : Result String :=
  let ofCode (n : Int) : Result String :=
    if 0 ≤ n ∧ n < 0x110000 then .ok (pad slot false "" "" (String.ofList [Char.ofNat n.toNat]))
    else .error (.overflow "%c arg not in range(0x110000)")
  match v with
  | .int n => ofCode n
  | .bool b => ofCode (if b then 1 else 0)
  | .text s =>
    if s.length = 1 then .ok (pad slot false "" "" s)
    else .error (.badType "%c requires int or char")
  | _ => .error (.badType "%c requires int or char")

/-- A character as a complaint shows it. -/
def complaintChar (c : Char) : Char := if 31 ≤ c.toNat ∧ c.toNat < 127 then c else '?'

def hexText (n : Nat) : String := String.ofList (Nat.toDigits 16 n)

/-- Writes an argument in its place. -/
def fill (slot : Slot) (v : Value) : Result String :=
  match slot.letter with
  | 's' => (v.written Value.plain).map (writeText slot)
  | 'r' => (v.written Value.shown).map (writeText slot)
  | 'a' => (v.written fun v => toAscii v.shown).map (writeText slot)
  | 'd' | 'i' | 'u' | 'o' | 'x' | 'X' => writeInteger slot v
  | 'e' | 'E' | 'f' | 'F' | 'g' | 'G' => writeDecimal slot v
  | 'c' => writeCharacter slot v
  | c => .error (.badValue (s!"unsupported format character '{complaintChar c}' " ++
      s!"(0x{hexText c.toNat}) at index {slot.position}"))

/-- Fills a template from a place on. `fuel` bounds its length. -/
def fillFrom (fuel : Nat) (c : Cursor) (args : Arguments) : Result String :=
  match fuel with
  | 0 => .ok ""
  | fuel + 1 => do
    match c.rest with
    | [] =>
      if args.named.isNone && !args.next.isEmpty then
        throw (.badType "not all arguments converted during string formatting")
      return ""
    | '%' :: '%' :: _ => return "%" ++ (← fillFrom fuel c.advance.advance args)
    | '%' :: _ =>
      let (slot, c, args) ← readSlot c.advance args
      let (v, args) ← takeArgument args
      let text ← fill slot v
      return text ++ (← fillFrom fuel c args)
    | ch :: _ => return String.ofList [ch] ++ (← fillFrom fuel c.advance args)

/-- The text of a template with its arguments. -/
def render (template : String) (args : Arguments) : Result String :=
  fillFrom (template.length + 1) ⟨template.toList, 0⟩ args

/-- The text of a message. One without arguments is taken as it stands. -/
def message (template : String) (args : List Value) : Result String :=
  if args.isEmpty then .ok template else render template (.ofList args)

end Template

end ContentTracker.Logging
