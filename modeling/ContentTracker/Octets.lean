/-!
Finite octet strings and their hexadecimal text.
-/

namespace ContentTracker

/-- A finite string of octets. -/
abbrev Octets := List UInt8

namespace Octets

/-- The lower-case digit of a value below sixteen. -/
def hexDigit (n : Nat) : Char :=
  if n < 10 then Char.ofNat (48 + n) else Char.ofNat (87 + n)

/-- The value of a hexadecimal digit in either case. -/
def hexValue? (c : Char) : Option Nat :=
  let n := c.toNat
  if 48 ≤ n ∧ n ≤ 57 then some (n - 48)
  else if 97 ≤ n ∧ n ≤ 102 then some (n - 87)
  else if 65 ≤ n ∧ n ≤ 70 then some (n - 55)
  else none

/-- Two digits an octet, the high one first. -/
def hexChars : Octets → List Char
  | [] => []
  | b :: rest => hexDigit (b.toNat / 16) :: hexDigit (b.toNat % 16) :: hexChars rest

def toHex (bs : Octets) : String := String.ofList bs.hexChars

/-- The blanks that may stand between two octets of a hexadecimal text: space, tab, line feed,
vertical tab, form feed and carriage return. -/
def isHexBlank (c : Char) : Bool := c.toNat = 32 || (9 ≤ c.toNat && c.toNat ≤ 13)

/-- Reads pairs of digits with blanks between them; a fault is the position of the first
character that fits nowhere, or the end of a text that stops inside a pair. -/
def readPairs (position : Nat) : List Char → Except Nat Octets
  | [] => .ok []
  | c :: rest =>
    if isHexBlank c then readPairs (position + 1) rest
    else match hexValue? c, rest with
      | none, _ => .error position
      | some _, [] => .error (position + 1)
      | some high, d :: rest =>
        match hexValue? d with
        | none => .error (position + 1)
        | some low => (readPairs (position + 2) rest).map (UInt8.ofNat (high * 16 + low) :: ·)

/-- Reads a hexadecimal text. A character beyond ASCII is refused before all else, wherever it
stands. -/
def ofHex (text : String) : Except Nat Octets :=
  match text.toList.findIdx? (fun c => 128 ≤ c.toNat) with
  | some position => .error position
  | none => readPairs 0 text.toList

/-- The text of a fault found by `ofHex`. -/
def hexFaultMessage (position : Nat) : String :=
  s!"non-hexadecimal number found in fromhex() arg at position {position}"

/-- The octets as one big-endian number. -/
def toNat (bs : Octets) : Nat := bs.foldl (fun n b => n * 256 + b.toNat) 0

/-- The `size` low octets of a number, most significant first. -/
def ofNat : (size : Nat) → Nat → Octets
  | 0, _ => []
  | size + 1, n => ofNat size (n / 256) ++ [UInt8.ofNat (n % 256)]

theorem length_ofNat (size n : Nat) : (ofNat size n).length = size := by
  induction size generalizing n with
  | zero => rfl
  | succ size ih => simp [ofNat, ih]

theorem length_hexChars (bs : Octets) : bs.hexChars.length = 2 * bs.length := by
  induction bs with
  | nil => rfl
  | cons b rest ih => simp [hexChars, ih]; omega

end Octets

end ContentTracker
