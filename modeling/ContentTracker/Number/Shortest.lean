import ContentTracker.Number.Binary64

/-!
Shortest decimals: the fewest digits that round back to a number, and of those the nearest.
-/

namespace ContentTracker.Shortest

/-- The reals that round to `significand * 2 ^ exponent`, in units of `2 ^ (exponent - 2)`: the
lower end, the value and the upper end. The ends belong to the interval when the significand is
even. -/
def interval (significand : Nat) (exponent : Int) : Nat × Nat × Nat :=
  let low := if significand = twoTo 52 ∧ -1074 < exponent then 4 * significand - 1
    else 4 * significand - 2
  (low, 4 * significand, 4 * significand + 2)

/-- `n * 2 ^ two / 10 ^ ten` as a quotient of naturals. -/
def quotient (n : Nat) (two ten : Int) : Nat × Nat :=
  (n * twoTo two.toNat * tenTo (-ten).toNat, twoTo (-two).toNat * tenTo ten.toNat)

/-- The exponent of the power of ten just above `n / d`, found from a guess that may be one off
either way. -/
def magnitude (n d : Nat) : Int :=
  let guess : Int := (Nat.toDigits 10 n).length - (Nat.toDigits 10 d).length
  let below (e : Int) : Bool := n * tenTo (-e).toNat < d * tenTo e.toNat
  if below guess then guess else guess + 1

/-- The nearest multiple of `10 ^ grid` that rounds to the number, if there is one. -/
def onGrid? (significand : Nat) (exponent grid : Int) : Option Nat :=
  let (low, value, high) := interval significand exponent
  let (vn, d) := quotient value (exponent - 2) grid
  let (ln, _) := quotient low (exponent - 2) grid
  let (hn, _) := quotient high (exponent - 2) grid
  let inside (k : Nat) : Bool :=
    if significand % 2 = 0 then ln ≤ k * d && k * d ≤ hn else ln < k * d && k * d < hn
  let below := vn / d
  let above := below + 1
  match inside below, inside above with
  | true, true =>
    let down := vn - below * d
    let up := above * d - vn
    some (if down < up || (down == up && below % 2 == 0) then below else above)
  | true, false => some below
  | false, true => some above
  | false, false => none

/-- Tries grids of `digits`, `digits + 1`, … digits. -/
def search (significand : Nat) (exponent top : Int) : (fuel digits : Nat) → Nat × Int
  | 0, _ => (significand, exponent)
  | fuel + 1, digits =>
    match onGrid? significand exponent (top - digits) with
    | some k => (k, top - digits)
    | none => search significand exponent top fuel (digits + 1)

/-- Moves the zeros at the end of a number into its power of ten. -/
def trim (n : Nat) (exponent : Int) : Nat × Int :=
  if h : n ≠ 0 ∧ n % 10 = 0 then trim (n / 10) (exponent + 1) else (n, exponent)
termination_by n
decreasing_by omega

/-- Digits and a power of ten for `significand * 2 ^ exponent`, which must not be zero; seventeen
digits always suffice. -/
def decimal (significand : Nat) (exponent : Int) : Nat × Int :=
  let (n, d) := quotient significand exponent 0
  let (k, e) := search significand exponent (magnitude n d) 17 1
  trim k e

end ContentTracker.Shortest
