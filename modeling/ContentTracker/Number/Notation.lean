import ContentTracker.Number.Shortest

/-!
How numbers are written in messages and files, and how their texts are read.
-/

namespace ContentTracker

namespace Binary64

/-- Zeros. -/
def padding (n : Nat) : String := String.ofList (List.replicate n '0')

/-- The decisions of a notation: the powers of ten from which on and below which a mantissa and an
exponent are written, the least number of exponent digits, and the sign of positive exponents. -/
structure Style where
  scientificFrom : Int
  positionalFrom : Int
  exponentDigits : Nat
  plus : String

/-- Messages and files write the point from `0.0001` up to below `10 ^ 16`. -/
def Style.plain : Style := ⟨16, -4, 2, "+"⟩

/-- Settings files write the same digits and never begin an exponent with a zero. -/
def Style.settings : Style := ⟨16, -4, 1, "+"⟩

/-- The digits of a number with its point after `point` of them, and at least one digit on either
side. -/
def positional (digits : String) (point : Int) : String :=
  let count : Int := digits.length
  if point ≤ 0 then "0." ++ padding (-point).toNat ++ digits
  else if count ≤ point then digits ++ padding (point - count).toNat ++ ".0"
  else
    let cs := digits.toList
    String.ofList (cs.take point.toNat) ++ "." ++ String.ofList (cs.drop point.toNat)

/-- The digits of a number with one before the point, and the exponent. -/
def scientific (style : Style) (digits : String) (power : Int) : String :=
  let cs := digits.toList
  let mantissa := match cs with
    | [] => ""
    | [c] => String.ofList [c]
    | c :: rest => String.ofList (c :: '.' :: rest)
  let size := toString power.natAbs
  mantissa ++ "e" ++ (if power < 0 then "-" else style.plus) ++
    padding (style.exponentDigits - size.length) ++ size

def write (style : Style) : Binary64 → String
  | .nan => "nan"
  | .infinite negative => if negative then "-inf" else "inf"
  | .finite negative 0 _ => if negative then "-0.0" else "0.0"
  | .finite negative significand exponent =>
    let (k, e) := Shortest.decimal significand exponent
    let digits := toString k
    let point : Int := digits.length + e
    (if negative then "-" else "") ++
      if point - 1 < style.positionalFrom ∨ style.scientificFrom ≤ point - 1 then
        scientific style digits (point - 1)
      else positional digits point

/-- The text of a number in messages. -/
def text (x : Binary64) : String := x.write .plain

end Binary64

/-- A number with a fixed count of places, rounded to the nearest, a tie to the even digit. -/
def fixedPlaces (places : Nat) (q : Rat) : String :=
  let k := Binary64.roundHalfEven (q.num.natAbs * tenTo places) q.den
  let digits := toString k
  let digits := Binary64.padding (places + 1 - digits.length) ++ digits
  let cs := digits.toList
  let whole := String.ofList (cs.take (cs.length - places))
  (if q < 0 then "-" else "") ++
    if places = 0 then whole else whole ++ "." ++ String.ofList (cs.drop (cs.length - places))

end ContentTracker
