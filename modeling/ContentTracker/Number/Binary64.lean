import ContentTracker.Number.Power

/-!
Binary floating-point numbers of 64 bits, as exact values: a finite one is
`±significand * 2 ^ exponent`. Rounding goes to the nearest, a tie to the even significand.
-/

namespace ContentTracker

/-- A 64-bit floating-point number. Finite values made by this library have a significand below
`2 ^ 53` that is at least `2 ^ 52` unless the exponent is the least one, `-1074`. -/
inductive Binary64
  | nan
  | infinite (negative : Bool)
  | finite (negative : Bool) (significand : Nat) (exponent : Int)
deriving Repr, DecidableEq, Inhabited

namespace Binary64

/-- `num / den` rounded to a whole number, a tie to the even one. -/
def roundHalfEven (num den : Nat) : Nat :=
  let q := num / den
  let r := num % den
  if den < 2 * r || (2 * r == den && q % 2 == 1) then q + 1 else q

/-- `num / den` scaled by `2 ^ -exponent`, as a quotient of naturals. -/
def scaled (num den : Nat) (exponent : Int) : Nat × Nat :=
  if 0 ≤ exponent then (num, den * twoTo exponent.toNat) else (num * twoTo (-exponent).toNat, den)

/-- The number nearest to `num / den`. -/
def ofRatio (negative : Bool) (num den : Nat) : Binary64 :=
  if num = 0 then .finite negative 0 (-1074)
  else
    let guess : Int := (num.log2 : Int) - (den.log2 : Int) - 53
    let (n, d) := scaled num den guess
    let exponent := max (if twoTo 53 ≤ n / d then guess + 1 else guess) (-1074)
    let (n, d) := scaled num den exponent
    let q := roundHalfEven n d
    let (significand, exponent) := if q = twoTo 53 then (twoTo 52, exponent + 1) else (q, exponent)
    if 971 < exponent then .infinite negative else .finite negative significand exponent

def ofInt (n : Int) : Binary64 := ofRatio (n < 0) n.natAbs 1

def ofRat (q : Rat) : Binary64 := ofRatio (q < 0) q.num.natAbs q.den

/-- The number nearest to `±digits * 10 ^ exponent`. Magnitudes far outside the range are settled
by their number of digits, so that no huge power is formed. -/
def ofDecimal (negative : Bool) (digits : Nat) (exponent : Int) : Binary64 :=
  if digits = 0 then .finite negative 0 (-1074)
  else
    let magnitude : Int := (Nat.toDigits 10 digits).length + exponent
    if 400 < magnitude then .infinite negative
    else if magnitude < -400 then .finite negative 0 (-1074)
    else if 0 ≤ exponent then ofRatio negative (digits * tenTo exponent.toNat) 1
    else ofRatio negative digits (tenTo (-exponent).toNat)

/-- The exact value of a finite number. -/
def toRat? : Binary64 → Option Rat
  | .finite negative significand exponent =>
    let (n, d) := if 0 ≤ exponent then (significand * twoTo exponent.toNat, 1)
      else (significand, twoTo (-exponent).toNat)
    some (mkRat (if negative then -(n : Int) else n) d)
  | _ => none

def isNegative : Binary64 → Bool
  | .nan => false
  | .infinite negative => negative
  | .finite negative significand _ => negative && significand != 0

/-- The whole part of a finite number, the fraction cut off. -/
def truncate? (x : Binary64) : Option Int :=
  x.toRat?.map fun q => if q < 0 then -((-q.num).toNat / q.den : Nat) else (q.num.toNat / q.den : Nat)

/-- The integer that a finite number is, if it is one. -/
def toInt? (x : Binary64) : Option Int := do
  let q ← x.toRat?
  if q.den = 1 then some q.num else none

/-- Comparison as numbers: a NaN is below, above and equal to nothing, and zeros are equal. -/
def le : Binary64 → Binary64 → Bool
  | .nan, _ | _, .nan => false
  | .infinite true, _ | _, .infinite false => true
  | .infinite false, _ | _, .infinite true => false
  | x, y => (x.toRat?.getD 0) ≤ (y.toRat?.getD 0)

def lt (x y : Binary64) : Bool := x.le y && !y.le x

def isZero : Binary64 → Bool
  | .finite _ significand _ => significand == 0
  | _ => false

end Binary64

end ContentTracker
