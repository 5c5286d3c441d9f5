import ContentTracker.Number.Power
import ContentTracker.Octets

/-!
Base32 text without padding, in lower case. A byte string has exactly one spelling, up to case.
-/

namespace ContentTracker.Base32

/-- The digit of a value below 32: `a` to `z`, then `2` to `7`. -/
def digit (n : Nat) : Char :=
  if n < 26 then Char.ofNat (97 + n) else Char.ofNat (24 + n)

/-- The value of a digit in either case. -/
def value? (c : Char) : Option Nat :=
  let n := c.toNat
  if 97 ≤ n ∧ n ≤ 122 then some (n - 97)
  else if 65 ≤ n ∧ n ≤ 90 then some (n - 65)
  else if 50 ≤ n ∧ n ≤ 55 then some (n - 24)
  else none

/-- The `count` digits of a number, most significant first. -/
def digits : (count : Nat) → Nat → List Char
  | 0, _ => []
  | count + 1, n => digits count (n / 32) ++ [digit (n % 32)]

/-- Five octets are eight digits; a shorter last group is filled with zero bits up to a whole
digit. -/
def encodeChars : Octets → List Char
  | [] => []
  | [a] => digits 2 (Octets.toNat [a] * 4)
  | [a, b] => digits 4 (Octets.toNat [a, b] * 16)
  | [a, b, c] => digits 5 (Octets.toNat [a, b, c] * 2)
  | [a, b, c, d] => digits 7 (Octets.toNat [a, b, c, d] * 8)
  | a :: b :: c :: d :: e :: rest => digits 8 (Octets.toNat [a, b, c, d, e]) ++ encodeChars rest

def encode (bs : Octets) : String := String.ofList (encodeChars bs)

/-- The digits that `n` octets take, extended to all integers by the floor of the quotient. -/
def encodedLength (n : Int) : Int := Int.fdiv (n * 8 + 4) 5

/-- Why a text is no base32 text. -/
inductive Fault
  | foreignCharacter
  | unknownDigit
  | impossibleLength
  | strayBits
deriving Repr, DecidableEq

def Fault.message : Fault → String
  | .foreignCharacter => "Invalid base32 string"
  | .unknownDigit => "Invalid base32 string: Non-base32 digit found"
  | .impossibleLength => "Invalid base32 string: Incorrect padding"
  | .strayBits => "Invalid base32 string: non-canonical trailing bits"

/-- The number that digits spell, most significant first. -/
def number (values : List Nat) : Nat := values.foldl (fun n v => n * 32 + v) 0

/-- The octets that digit values spell: eight digits are five octets, and the bits of a shorter
last group that fill no octet are dropped. -/
def octetsOf : List Nat → Octets
  | a :: b :: c :: d :: e :: f :: g :: h :: rest =>
    Octets.ofNat 5 (number [a, b, c, d, e, f, g, h]) ++ octetsOf rest
  | values =>
    let size := values.length * 5 / 8
    Octets.ofNat size (number values / twoTo (values.length * 5 - size * 8))

/-- The lower-case form of an ASCII letter; every other character stays. -/
def lowerChar (c : Char) : Char :=
  if 65 ≤ c.toNat ∧ c.toNat ≤ 90 then Char.ofNat (c.toNat + 32) else c

/-- Reads base32 text. The faults are looked for in the order of their constructors, each over the
whole text; the last refuses a spelling whose unused bits are not zero. -/
def decodeChars (cs : List Char) : Except Fault Octets :=
  if cs.any (fun c => 128 ≤ c.toNat || c = '=') then .error .foreignCharacter
  else match cs.mapM value? with
    | none => .error .unknownDigit
    | some values =>
      if cs.length % 8 = 1 ∨ cs.length % 8 = 3 ∨ cs.length % 8 = 6 then .error .impossibleLength
      else
        let bs := octetsOf values
        if encodeChars bs = cs.map lowerChar then .ok bs else .error .strayBits

def decode (text : String) : Except Fault Octets := decodeChars text.toList

theorem length_digits (count n : Nat) : (digits count n).length = count := by
  induction count generalizing n with
  | zero => rfl
  | succ count ih => simp [digits, ih]

end ContentTracker.Base32
