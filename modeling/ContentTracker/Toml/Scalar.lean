import ContentTracker.Number.Numeral
import ContentTracker.Octets

/-!
The simple values of settings files: quoted texts, numbers, dates and times.
-/

namespace ContentTracker.Toml

/-! Quoted texts -/

/-- The character of a short escape. -/
def shortEscape? : Char → Option Char
  | '0' => some (Char.ofNat 0)
  | 'b' => some (Char.ofNat 8)
  | 'f' => some (Char.ofNat 12)
  | 'n' => some '\n'
  | 'r' => some '\r'
  | 't' => some '\t'
  | '"' => some '"'
  | '\\' => some '\\'
  | _ => none

/-- The character with a code in so many hexadecimal digits, which must be that of a character. -/
def codeEscape? (size : Nat) (cs : List Char) : Option (Char × List Char) := do
  let digits ← (cs.take size).mapM Octets.hexValue?
  let code := digits.foldl (fun n d => n * 16 + d) 0
  if digits.length = size && (code < 0xd800 || (0xe000 ≤ code && code < 0x110000)) then
    some (Char.ofNat code, cs.drop size)
  else none

/-- Replaces the escapes of a text; one without a meaning is refused. `fuel` bounds the length. -/
def unescape? : (fuel : Nat) → List Char → Option (List Char)
  | 0, _ => some []
  | _ + 1, [] => some []
  | fuel + 1, '\\' :: c :: rest =>
    if c = 'u' || c = 'U' then do
      let (d, rest) ← codeEscape? (if c = 'u' then 4 else 8) rest
      (unescape? fuel rest).map (d :: ·)
    else do
      let d ← shortEscape? c
      (unescape? fuel rest).map (d :: ·)
  | fuel + 1, c :: rest => (unescape? fuel rest).map (c :: ·)

/-- Cuts a text at every occurrence of a character. -/
def splitAt (sep : Char) (cs : List Char) : List (List Char) :=
  match cs with
  | [] => [[]]
  | c :: rest =>
    match splitAt sep rest with
    | [] => [[c]]
    | first :: others => if c = sep then [] :: first :: others else (c :: first) :: others

/-- Whether an odd number of backslashes ends a text. -/
def endsEscaped (cs : List Char) : Bool := (cs.reverse.takeWhile (· = '\\')).length % 2 = 1

/-- Whether something stands after the end of a quoted text. The text is given as its pieces between
quotes; in a long text two quotes in a row do not end it. -/
def hasTail (long : Bool) : (closed : Bool) → (quotes : Nat) → List (List Char) → Bool
  | _, _, [] => false
  | closed, quotes, piece :: rest =>
    if piece.isEmpty then
      if long then hasTail long closed (quotes + 1) rest else hasTail long true quotes rest
    else if endsEscaped piece then hasTail long closed quotes rest
    else if closed then true
    else if !long || 1 < quotes then hasTail long true quotes rest
    else hasTail long closed 0 rest

/-- Drops the two outer quotes on either side that make a text long, or that enclose nothing. -/
def dropLongQuotes (cs : List Char) : List Char :=
  match cs with
  | a :: b :: rest =>
    if b = a && (rest.isEmpty || rest.head? = some b) then rest.dropLast.dropLast else cs
  | cs => cs

/-- The text that a quoted text stands for. Escapes have a meaning in double quotes only. -/
def quotedText? (cs : List Char) : Option (List Char) := do
  let mark ← cs.head?
  let pieces := splitAt mark cs.tail
  let (long, pieces) := match pieces with
    | [] :: [] :: rest => (true, rest)
    | pieces => (false, pieces)
  if hasTail long false 0 pieces then none
  else
    let cs ← if mark = '"' then unescape? (cs.length + 1) cs else some cs
    some (dropLongQuotes cs).tail.dropLast

/-! Dates and times -/

def smallInt? (cs : List Char) : Option Int :=
  (Numeral.readInt (String.ofList cs)).toOption

/-- The characters from one position up to another. -/
def slice (cs : List Char) (start stop : Nat) : List Char := (cs.take stop).drop start

def isLeapYear (y : Int) : Bool := y % 4 = 0 && (y % 100 ≠ 0 || y % 400 = 0)

def daysInMonth (y m : Int) : Int :=
  if m = 2 then (if isLeapYear y then 29 else 28)
  else if m = 4 || m = 6 || m = 9 || m = 11 then 30
  else 31

def isDay (y m d : Int) : Bool :=
  1 ≤ y && y ≤ 9999 && 1 ≤ m && m ≤ 12 && 1 ≤ d && d ≤ daysInMonth y m

def isClock (h m s : Int) : Bool :=
  0 ≤ h && h < 24 && 0 ≤ m && m < 60 && 0 ≤ s && s < 60

/-- Whether a text is a date, alone or with a time behind it, each number in its fixed place. A
fraction and a zone after the time are not looked at. -/
def isDate (cs : List Char) : Bool :=
  let number (start stop : Nat) : Int := (smallInt? (slice cs start stop)).getD (-1)
  cs.tail.contains '-' && isDay (number 0 4) (number 5 7) (number 8 10) &&
    (cs.length = 10 || isClock (number 11 13) (number 14 16) (number 17 19))

/-- Two digits, a colon, two digits, a colon and two digits, whatever follows. -/
def startsWithTime (cs : List Char) : Bool :=
  cs.length ≥ 8 && (cs.take 8).zipIdx.all fun (c, i) =>
    if i = 2 || i = 5 then c = ':' else c.isDigit

/-- Whether the hours, minutes and seconds of a time are in range. -/
def isTime (cs : List Char) : Bool :=
  let number (start stop : Nat) : Int := (smallInt? (slice cs start stop)).getD (-1)
  isClock (number 0 2) (number 3 5) (number 6 8)

/-! Numbers -/

def containsPair (a b : Char) : List Char → Bool
  | c :: d :: rest => (c = a && d = b) || containsPair a b (d :: rest)
  | _ => false

/-- Whether zeros and underscores stand where a number may have them. -/
def isOrderly (cs : List Char) : Bool :=
  match Text.stripChars cs with
  | [] => false
  | [c] => c ≠ '_'
  | a :: b :: rest =>
    let cs := a :: b :: rest
    if a = '_' || cs.getLast? = some '_' then false
    else if containsPair '_' '.' cs || containsPair '.' '_' cs then false
    else if a = '0' && ! ['.', 'o', 'b', 'x'].contains b then false
    else if a = '+' || a = '-' then
      !(b = '0' && !rest.isEmpty && rest.head? ≠ some '.') && !containsPair '_' '_' (b :: rest)
    else !containsPair '_' '_' cs

/-- The base that a letter after a leading zero stands for. -/
def baseOf? (c : Char) : Option Nat :=
  if c = 'x' || c = 'X' then some 16
  else if c = 'o' || c = 'O' then some 8
  else if c = 'b' || c = 'B' then some 2
  else none

/-- The value of digits in a base. -/
def digitsInBase? (base : Nat) (cs : List Char) : Option Nat :=
  if cs.isEmpty then none
  else cs.foldlM (fun n c => (Octets.hexValue? c).bind fun d =>
    if d < base then some (n * base + d) else none) 0

/-- An integer in base ten without zeros in front, or in another base after its mark. -/
def integer? (cs : List Char) : Option Int := do
  let (negative, cs) := Numeral.splitSign (Numeral.trimBlanks cs)
  let n ← match cs with
    | '0' :: c :: rest =>
      match baseOf? c with
      | some base => digitsInBase? base rest
      | none => if (c :: rest).all (· = '0') then some 0 else none
    | cs =>
      if (Numeral.splitSign cs).2.length < cs.length then none
      else ((Numeral.readInt (String.ofList cs)).toOption).map Int.toNat
  some (if negative then -(n : Int) else n)

/-- Negation, where zero has no sign. -/
def negated : Binary64 → Binary64
  | .nan => .nan
  | .infinite negative => .infinite !negative
  | .finite _ 0 e => .finite false 0 e
  | .finite negative m e => .finite (!negative) m e

inductive Number
  | integer (n : Int)
  | decimal (x : Binary64)

/-- Reads a number, underscores dropped. A decimal has a point or an exponent, a digit in front and
something behind its point. -/
def number? (cs : List Char) : Option Number := do
  let (negative, cs) := Numeral.splitSign cs
  let cs := cs.filter (· ≠ '_')
  let word := String.ofList (cs.map Numeral.lowerAscii)
  let hasPoint := cs.contains '.'
  if hasPoint || (!cs.contains 'x' && (cs.contains 'e' || cs.contains 'E')) then
    if hasPoint && (cs.dropWhile (· ≠ '.')).tail.isEmpty then none
    else if !(cs.head?.any Char.isDigit) then none
    else
      let x ← Numeral.readFloat? (String.ofList cs)
      some (.decimal (if negative then negated x else x))
  else if word = "inf" then some (.decimal (.infinite negative))
  else if word = "nan" then some (.decimal .nan)
  else
    let n ← integer? cs
    some (.integer (if negative then -n else n))

end ContentTracker.Toml
