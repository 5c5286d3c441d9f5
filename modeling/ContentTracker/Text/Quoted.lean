import ContentTracker.Octets
import ContentTracker.Text.Printable

/-!
Quoted texts: how messages show a text or an octet string so that each character can be told.
-/

namespace ContentTracker.Text

/-- The last `width` hexadecimal digits of a number. -/
def hexDigits : (width : Nat) → Nat → List Char
  | 0, _ => []
  | width + 1, n => hexDigits width (n / 16) ++ [Octets.hexDigit (n % 16)]

/-- The single quote, unless the text holds one and no double quote. -/
def quoteMark (cs : List Char) : Char :=
  if cs.contains '\'' && !cs.contains '"' then '"' else '\''

/-- The two-character escape of a mark, a backslash, a tab or a line end. -/
def shortEscape? (mark c : Char) : Option (List Char) :=
  if c = mark || c = '\\' then some ['\\', c]
  else if c = '\t' then some ['\\', 't']
  else if c = '\n' then some ['\\', 'n']
  else if c = '\r' then some ['\\', 'r']
  else none

/-- A character inside a quoted text: marks and backslashes are escaped, and characters without a
visible form are written by their code point in two, four or eight digits. -/
def quotedChar (mark c : Char) : List Char :=
  match shortEscape? mark c with
  | some escape => escape
  | none =>
    if isPrintable c then [c]
    else if c.toNat < 0x100 then '\\' :: 'x' :: hexDigits 2 c.toNat
    else if c.toNat < 0x10000 then '\\' :: 'u' :: hexDigits 4 c.toNat
    else '\\' :: 'U' :: hexDigits 8 c.toNat

def quotedChars (cs : List Char) : List Char :=
  let mark := quoteMark cs
  mark :: cs.flatMap (quotedChar mark) ++ [mark]

def quoted (text : String) : String := String.ofList (quotedChars text.toList)

/-- An octet inside a quoted octet string: ASCII as in a text, all else in two digits. -/
def quotedOctet (mark : Char) (b : UInt8) : List Char :=
  let c := Char.ofNat b.toNat
  match shortEscape? mark c with
  | some escape => escape
  | none => if 32 ≤ b.toNat ∧ b.toNat < 127 then [c] else '\\' :: 'x' :: hexDigits 2 b.toNat

def quotedOctets (bs : Octets) : String :=
  let mark := quoteMark (bs.map fun b => Char.ofNat b.toNat)
  String.ofList ('b' :: mark :: bs.flatMap (quotedOctet mark) ++ [mark])

end ContentTracker.Text
