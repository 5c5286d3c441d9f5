import ContentTracker.Number.Notation

/-!
Numbers written with a set count of digits: a set count of places, or one digit before the point and
an exponent, or whichever of the two is shorter. Rounding goes to the nearest, a tie to the even
digit.
-/

namespace ContentTracker.Places

/-- How a number with a set count of digits is written. -/
inductive Form
  | fixed
  | exponential
  | general
deriving Repr, DecidableEq

/-- The exponent of the leading digit of a positive number, and its first `digits` digits, rounded. -/
def leading (digits : Nat) (q : Rat) : Int × Nat :=
  let power := Shortest.magnitude q.num.natAbs q.den - 1
  let shift : Int := (digits : Int) - 1 - power
  let k := Binary64.roundHalfEven (q.num.natAbs * tenTo shift.toNat) (q.den * tenTo (-shift).toNat)
  if tenTo digits ≤ k then (power + 1, k / 10) else (power, k)

/-- The digits of a number that is not negative, with a point after `places` from the end. A point
that nothing follows is written if `point` is set. -/
def fixed (places : Nat) (point : Bool) (q : Rat) : String :=
  fixedPlaces places q ++ (if places = 0 && point then "." else "")

/-- One digit, a point, `places` digits and an exponent of at least two digits. -/
def exponential (places : Nat) (point : Bool) (q : Rat) : String :=
  let (power, k) := if q = 0 then (0, 0) else leading (places + 1) q
  let digits := toString k
  let cs := (Binary64.padding (places + 1 - digits.length) ++ digits).toList
  let size := toString power.natAbs
  String.ofList (cs.take 1) ++ (if places = 0 && !point then "" else ".") ++
    String.ofList (cs.drop 1) ++ "e" ++ (if power < 0 then "-" else "+") ++
    Binary64.padding (2 - size.length) ++ size

/-- Drops the zeros at the end of a fraction, and a point that nothing follows. -/
def dropZeros (text : String) : String :=
  let cs := text.toList
  if !cs.contains '.' then text
  else
    let mantissa := cs.takeWhile (· ≠ 'e')
    let rest := cs.dropWhile (· ≠ 'e')
    let kept := (mantissa.reverse.dropWhile (· = '0')).dropWhile (· = '.')
    String.ofList (kept.reverse ++ rest)

/-- `digits` digits in all, with an exponent if the number is small or has more digits before the
point. Zeros at the end of a fraction are kept if `point` is set. -/
def general (digits : Nat) (point : Bool) (q : Rat) : String :=
  let digits := max digits 1
  let power := if q = 0 then 0 else (leading digits q).1
  let text :=
    if -4 ≤ power ∧ power < digits then fixed ((digits : Int) - 1 - power).toNat point q
    else exponential (digits - 1) point q
  if point then text else dropZeros text

/-- The digits behind this place are zeros in every number. -/
def lastPlace : Nat := 1100

/-- Puts zeros behind the fraction. -/
def addZeros (count : Nat) (text : String) : String :=
  let cs := text.toList
  String.ofList (cs.takeWhile (· ≠ 'e')) ++ Binary64.padding count ++
    String.ofList (cs.dropWhile (· ≠ 'e'))

/-- The text of a number without its sign. -/
def magnitude (form : Form) (digits : Nat) (point : Bool) : Binary64 → String
  | .nan => "nan"
  | .infinite _ => "inf"
  | .finite _ m e =>
    let q := ((Binary64.finite false m e).toRat?).getD 0
    let known := min digits lastPlace
    match form with
    | .fixed => addZeros (digits - known) (fixed known point q)
    | .exponential => addZeros (digits - known) (exponential known point q)
    | .general =>
      let text := general known point q
      if point then addZeros (digits - known) text else text

def hasSign : Binary64 → Bool
  | .nan => false
  | .infinite negative | .finite negative _ _ => negative

/-- The text of a number, with a minus sign if it has one. -/
def write (form : Form) (digits : Nat) (point : Bool) (x : Binary64) : String :=
  (if hasSign x then "-" else "") ++ magnitude form digits point x

end ContentTracker.Places
