import ContentTracker.Number.Numeral
import ContentTracker.Number.Power
import ContentTracker.Settings.Rule
import ContentTracker.Value

/-!
Checks of single values. A check reads what can be read, and reports every rule that is broken, in
order.
-/

namespace ContentTracker.Settings

/-- What a value stands for, or all that is wrong with it. -/
abbrev Checked (α : Type) := Except (List Error) α

namespace Checked

/-- One broken rule at the value itself. -/
def broken {α : Type} (rule : Rule) : Checked α := .error [⟨[], rule⟩]

/-- Applies a checked function to a checked argument and keeps the errors of both. -/
def apply {α β : Type} : Checked (α → β) → Checked α → Checked β
  | .ok f, .ok a => .ok (f a)
  | .ok _, .error es => .error es
  | .error es, .ok _ => .error es
  | .error es, .error fs => .error (es ++ fs)

/-- Says under which key a value was checked. -/
def under {α : Type} (key : String) (r : Checked α) : Checked α :=
  r.mapError fun es => es.map fun e => { e with place := key :: e.place }

/-- Checks all members of a list. -/
def all {α β : Type} (check : α → Checked β) : List α → Checked (List β)
  | [] => .ok []
  | a :: rest => apply ((check a).map List.cons) (all check rest)

end Checked

/-- Whether a text may be a decimal in ASCII digits: such a text has no blanks and no underscores
inside. -/
def isPlainDecimal (cs : List Char) : Bool :=
  cs.all fun c => c.toNat < 128 && !Text.isBlank c && c ≠ '_'

/-- The text without its underscores, if each stands alone between other characters. -/
def dropUnderscores? (cs : List Char) : Option (List Char) :=
  let rec paired : List Char → Bool
    | '_' :: '_' :: _ => true
    | _ :: rest => paired rest
    | [] => false
  if cs.head? = some '_' || cs.getLast? = some '_' || paired cs then none
  else some (cs.filter (· ≠ '_'))

/-- The decimal number that a text stands for, after blanks at its ends. -/
def decimalOfText? (s : String) : Option Binary64 := do
  let cs ← dropUnderscores? (Numeral.trimBlanks s.toList)
  if isPlainDecimal cs then Numeral.readFloat? (String.ofList cs) else none

def toDecimal : Value → Checked Binary64
  | .bool b => .ok (.ofInt (if b then 1 else 0))
  | .int n => .ok (.ofInt n)
  | .float x => .ok x
  | .text s =>
    match decimalOfText? s with
    | some x => .ok x
    | none => .broken .numberText
  | _ => .broken .number

/-- A number above zero and at most `limit`. The upper limit is looked at first, so that it is the
one that a NaN breaks. -/
def positiveUpTo (limit : Nat) (x : Binary64) : Checked Binary64 :=
  if !x.le (.ofInt limit) then .broken (.atMost limit)
  else if !(Binary64.ofInt 0).lt x then .broken (.above 0)
  else .ok x

/-- The longest text that is read as an integer. -/
def integerTextLimit : Nat := 4300

/-- An optional minus sign and digits, without zeros in front. -/
def strictInteger? (cs : List Char) : Option Int :=
  let negative := cs.head? = some '-'
  let digits := if negative then cs.tail else cs
  if digits.isEmpty || !digits.all Char.isDigit then none
  else if 1 < digits.length && digits.head? = some '0' then none
  else
    let n : Int := Numeral.valueOf (digits.map fun c => c.toNat - 48)
    some (if negative then -n else n)

/-- Drops zeros and underscores after a first zero. One zero stays before a point and at the end of
the text; a text that starts otherwise than with a digit or a minus sign is refused. -/
def dropZeros? : List Char → Option (List Char)
  | '0' :: rest =>
    let rec go (last : Char) : List Char → Option (List Char)
      | [] => some [last]
      | c :: rest =>
        if c = '0' || c = '_' then go c rest
        else if c.isDigit then some (c :: rest)
        else if c = '.' then some (last :: '.' :: rest)
        else none
    go '0' rest
  | c :: rest => if c.isDigit || c = '-' then some (c :: rest) else none
  | [] => none

/-- Drops a point that only zeros follow. -/
def dropPoint (cs : List Char) : List Char :=
  let fraction := cs.dropWhile (· ≠ '.')
  if fraction.tail.all (· = '0') then cs.takeWhile (· ≠ '.') else cs

/-- The integer that a text stands for: blanks at its ends, a plus sign, zeros in front, a point
before zeros, and single underscores between digits are passed over. -/
def integerOfText (s : String) : Except Rule Int :=
  let cs := Numeral.trimBlanks s.toList
  if integerTextLimit < cs.length then .error .integerSize
  else
    let loose := do
      let cs ← dropZeros? (match cs with
        | '+' :: rest => if rest.head? = some '-' then cs else rest
        | cs => cs)
      let cs := dropPoint cs
      strictInteger? ((dropUnderscores? cs).getD cs)
    match strictInteger? cs <|> loose with
    | some n => .ok n
    | none => .error .integerText

/-- The magnitude that integers of 64 bits stay below. -/
def wordBound : Int := twoTo 63

def toInteger : Value → Checked Int
  | .bool b => .ok (if b then 1 else 0)
  | .int n => .ok n
  | .float x =>
    match x.toRat? with
    | none => .broken .finite
    | some q =>
      if q.den ≠ 1 then .broken .whole
      else if -wordBound < q.num ∧ q.num < wordBound then .ok q.num
      else .broken .integerSize
  | .text s =>
    match integerOfText s with
    | .ok n => .ok n
    | .error rule => .broken rule
  | _ => .broken .integer

/-- An integer from zero up to `limit`. -/
def withinLimit (limit : Nat) (n : Int) : Checked Int :=
  if (limit : Int) < n then .broken (.atMost limit)
  else if n < 0 then .broken (.atLeast 0)
  else .ok n

def toText : Value → Checked String
  | .text s => .ok s
  | _ => .broken .text

def toOptionalText : Value → Checked (Option String)
  | .null => .ok none
  | v => (toText v).map some

def falseWords : List String := ["0", "off", "f", "false", "n", "no"]

def trueWords : List String := ["1", "on", "t", "true", "y", "yes"]

def flagOfInteger (n : Int) : Checked Bool :=
  if n = 0 then .ok false
  else if n = 1 then .ok true
  else .broken (if -wordBound ≤ n ∧ n < wordBound then .flagText else .flag)

def toFlag : Value → Checked Bool
  | .bool b => .ok b
  | .int n => flagOfInteger n
  | .float x =>
    if x.isZero then .ok false
    else if x.toInt? = some 1 then .ok true
    else .broken .flag
  | .text s =>
    let word := String.ofList (s.toList.map Numeral.lowerAscii)
    if falseWords.contains word then .ok false
    else if trueWords.contains word then .ok true
    else .broken .flagText
  | _ => .broken .flag

def toSeverity (v : Value) : Checked Severity :=
  match v.asText?.bind Severity.ofName? with
  | some severity => .ok severity
  | none => .broken .severity

end ContentTracker.Settings
