import ContentTracker.Number.Numeral
import ContentTracker.Value

/-!
Values read as integers and as pairs, with the reasons why some cannot be.
-/

namespace ContentTracker.Conversion

/-- Why a value gives no integer. A malformed numeral is given in quotes. -/
inductive IntegerFault
  | malformed (quoted : String)
  | tooLong (digits : Nat)
  | notANumber
  | infinite
  | wrongType (typeName : String)
deriving Repr, DecidableEq

/-- How much of a malformed numeral is shown. -/
def shownLimit : Nat := 200

def IntegerFault.message : IntegerFault → String
  | .malformed quoted =>
    "invalid literal for int() with base 10: " ++ String.ofList (quoted.toList.take shownLimit)
  | .tooLong digits => s!"Exceeds the limit ({Numeral.digitLimit} digits) for integer string conversion: " ++
      s!"value has {digits} digits; use sys.set_int_max_str_digits() to increase the limit"
  | .notANumber => "cannot convert float NaN to integer"
  | .infinite => "cannot convert float infinity to integer"
  | .wrongType name => "int() argument must be a string, a bytes-like object or a real number, " ++
      s!"not '{name}'"

/-- The integer that a numeral stands for, which faults show as `quoted`. -/
def readNumeral (text quoted : String) : Except IntegerFault Int :=
  match Numeral.readInt text with
  | .ok n => .ok n
  | .error .malformed => .error (.malformed quoted)
  | .error (.tooLong digits) => .error (.tooLong digits)

/-- Octets as a text. One that is no ASCII character becomes a mark that no numeral has. -/
def asciiText (bs : Octets) : String :=
  String.ofList (bs.map fun b => if b < 128 then Char.ofNat b.toNat else '?')

/-- The integer that a value stands for: texts and octets are read as numerals, booleans are zero and
one, and the fraction of a decimal is cut off. -/
def toInteger : Value → Except IntegerFault Int
  | .int n => .ok n
  | .bool b => .ok (if b then 1 else 0)
  | .text s => readNumeral s (Text.quoted s)
  | .octets bs => readNumeral (asciiText bs) (Text.quotedOctets (bs.take shownLimit))
  | .float .nan => .error .notANumber
  | .float (.infinite _) => .error .infinite
  | .float x => .ok (x.truncate?.getD 0)
  | v => .error (.wrongType v.typeName)

/-- Why a value is no pair. -/
inductive PairFault
  | tooFew (count : Nat)
  | tooMany
  | notASequence (typeName : String)
deriving Repr, DecidableEq

def PairFault.message : PairFault → String
  | .tooFew count => s!"not enough values to unpack (expected 2, got {count})"
  | .tooMany => "too many values to unpack (expected 2)"
  | .notASequence name => s!"cannot unpack non-iterable {name} object"

/-- The members of a value that has any: the characters of a text, the octets of octets, the keys of a
table. -/
def members? : Value → Option (List Value)
  | .list items => some items
  | .text s => some (s.toList.map fun c => .text (String.ofList [c]))
  | .octets bs => some (bs.map fun b => .int b.toNat)
  | .dict entries => some (entries.map fun e => .text e.1)
  | _ => none

/-- The two members of a value. -/
def toPair (v : Value) : Except PairFault (Value × Value) :=
  match members? v with
  | some [a, b] => .ok (a, b)
  | some (_ :: _ :: _ :: _) => .error .tooMany
  | some items => .error (.tooFew items.length)
  | none => .error (.notASequence v.typeName)

end ContentTracker.Conversion
