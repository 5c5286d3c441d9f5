import ContentTracker.Number.Binary64
import ContentTracker.Text.Blank
import ContentTracker.Text.Digit

/-!
Numerals as people type them: digits of any script, single underscores between digits, a sign,
and blanks around the whole.
-/

namespace ContentTracker.Numeral

/-- The blanks around a numeral are those of texts without the four ASCII separators. -/
def isNumeralBlank (c : Char) : Bool := Text.isBlank c && !(28 ≤ c.toNat && c.toNat ≤ 31)

def trimBlanks (cs : List Char) : List Char :=
  ((cs.dropWhile isNumeralBlank).reverse.dropWhile isNumeralBlank).reverse

/-- A leading sign, read as "is negative". -/
def splitSign : List Char → Bool × List Char
  | '-' :: rest => (true, rest)
  | '+' :: rest => (false, rest)
  | cs => (false, cs)

/-- A run of digits with single underscores between them: the digit values and the characters
after the run. An underscore that no digit follows stays outside the run. -/
def takeDigits : List Char → List Nat × List Char
  | [] => ([], [])
  | c :: rest =>
    match Text.digitValue? c with
    | none => ([], c :: rest)
    | some d =>
      match rest with
      | '_' :: e :: rest =>
        if (Text.digitValue? e).isSome then
          let (ds, after) := takeDigits (e :: rest)
          (d :: ds, after)
        else ([d], '_' :: e :: rest)
      | rest =>
        let (ds, after) := takeDigits rest
        (d :: ds, after)

def valueOf (digits : List Nat) : Nat := digits.foldl (fun n d => n * 10 + d) 0

/-- The most digits that an integer may be written with. -/
def digitLimit : Nat := 4300

/-- Whether an integer may be written in digits. -/
def isWritable (n : Int) : Bool := (Nat.toDigits 10 n.natAbs).length ≤ digitLimit

/-- What is told of an integer that may not. -/
def unwritable : String :=
  s!"Exceeds the limit ({digitLimit} digits) for integer string conversion; " ++
    "use sys.set_int_max_str_digits() to increase the limit"

/-- Why a text is no integer. -/
inductive Fault
  | malformed
  | tooLong (digits : Nat)
deriving Repr, DecidableEq

/-- Reads an integer. The count of digits is looked at before what follows them, except that an
underscore right after the digits is a fault of form. -/
def readInt (text : String) : Except Fault Int :=
  let (negative, cs) := splitSign (trimBlanks text.toList)
  let (digits, after) := takeDigits cs
  if digits.isEmpty || after.head? = some '_' then .error .malformed
  else if digitLimit < digits.length then .error (.tooLong digits.length)
  else if !after.isEmpty then .error .malformed
  else .ok (if negative then -(valueOf digits) else valueOf digits)

/-- The exponent part of a decimal, nothing being the exponent zero. -/
def readExponent? (cs : List Char) : Option Int :=
  match cs with
  | [] => some 0
  | c :: rest =>
    if c = 'e' || c = 'E' then
      let (negative, rest) := splitSign rest
      match takeDigits rest with
      | ([], _) => none
      | (digits, []) => some (if negative then -(valueOf digits) else valueOf digits)
      | _ => none
    else none

def lowerAscii (c : Char) : Char :=
  if 65 ≤ c.toNat ∧ c.toNat ≤ 90 then Char.ofNat (c.toNat + 32) else c

/-- Reads an unsigned decimal: digits on at least one side of the point. -/
def readDecimal? (negative : Bool) (cs : List Char) : Option Binary64 :=
  let (whole, after) := takeDigits cs
  let (fraction, after) := match after with
    | '.' :: rest => takeDigits rest
    | after => ([], after)
  if whole.isEmpty && fraction.isEmpty then none
  else (readExponent? after).map fun e =>
    .ofDecimal negative (valueOf (whole ++ fraction)) (e - fraction.length)

/-- Reads a decimal number, an infinity or a NaN. -/
def readFloat? (text : String) : Option Binary64 :=
  let (negative, cs) := splitSign (trimBlanks text.toList)
  let word := String.ofList (cs.map lowerAscii)
  if word = "inf" || word = "infinity" then some (.infinite negative)
  else if word = "nan" then some .nan
  else readDecimal? negative cs

end ContentTracker.Numeral
