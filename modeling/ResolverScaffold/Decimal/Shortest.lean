import ResolverScaffold.Decimal.Double

/-!
# Shortest decimal texts

`Double.text` writes a number with the fewest digits that still round to it.
The digits are searched on the decimal grids of 1 to 17 digits: on each grid
only the two neighbours of the number can be nearest to it, and the first grid
that has a neighbour in the interval of reals rounding to the number wins.
-/

namespace ResolverScaffold.Double

/-- A decimal value `digits * 10 ^ exponent`. -/
structure Decimal where
  digits : Nat
  exponent : Int
  deriving DecidableEq, Repr

/-- A quotient times a power of ten, as a quotient. -/
def scaleTen (num den : Nat) (k : Int) : Nat × Nat :=
  if 0 ≤ k then (num * Nat.pow 10 k.toNat, den) else (num, den * Nat.pow 10 (-k).toNat)

/-- Whether one quotient is less than another. -/
def ratioLt (x y : Nat × Nat) : Bool := x.1 * y.2 < y.1 * x.2

/-- The ends of the interval of reals that round to a positive number. -/
def ends (x : Double) : (Nat × Nat) × (Nat × Nat) :=
  let high := shift (2 * x.mantissa + 1) 2 x.exponent
  let low :=
    if x.mantissa = Nat.pow 2 52 ∧ minExponent < x.exponent then
      shift (4 * x.mantissa - 1) 4 x.exponent
    else shift (2 * x.mantissa - 1) 2 x.exponent
  (low, high)

/-- Whether a decimal rounds to a positive number.  The ends of the interval do iff the
mantissa is even. -/
def roundsTo (x : Double) (d : Decimal) : Bool :=
  let (low, high) := x.ends
  let value := scaleTen d.digits 1 d.exponent
  if x.mantissa % 2 = 0 then !ratioLt value low && !ratioLt high value
  else ratioLt low value && ratioLt value high

/-- The power of ten at or below a positive quotient, searched downwards from a bound. -/
def floorLog10 (num den : Nat) : (steps : Nat) → (start : Int) → Int
  | 0, start => start
  | steps + 1, start =>
    let (n, d) := scaleTen num den (-start)
    if n < d then floorLog10 num den steps (start - 1) else start

/-- The neighbour of a number on the grid of so many digits that rounds to it; of two the
nearer one, and the even one where both are equally near. -/
def onGrid? (x : Double) (top : Int) (count : Nat) : Option Decimal :=
  let exponent := top - (count : Int) + 1
  let (num, den) := x.ratio
  let (n, d) := scaleTen num den (-exponent)
  let down : Decimal := ⟨n / d, exponent⟩
  let up : Decimal := ⟨n / d + 1, exponent⟩
  let twice := 2 * (n % d)
  match x.roundsTo down, x.roundsTo up with
  | true, true =>
    if twice < d then some down
    else if d < twice then some up
    else if n / d % 2 = 0 then some down else some up
  | true, false => some down
  | false, true => some up
  | false, false => none

/-- The shortest decimal that rounds to a positive number. -/
def shortest (x : Double) : Decimal :=
  let (num, den) := x.ratio
  let top := floorLog10 num den 700 310
  ((List.range 17).findSome? fun i => x.onGrid? top (i + 1)).getD ⟨x.mantissa, 0⟩

def stripZeros : (steps : Nat) → Decimal → Decimal
  | 0, d => d
  | steps + 1, d =>
    if d.digits ≠ 0 ∧ d.digits % 10 = 0 then stripZeros steps ⟨d.digits / 10, d.exponent + 1⟩
    else d

/-- How a positive decimal is written: with a point and at least one digit after it from 1e-5
up to 1e16, and with an exponent outside. -/
def decimalText (d : Decimal) : String :=
  let digits := Nat.toDigits 10 d.digits
  let top := d.exponent + digits.length - 1
  if top < -5 ∨ 16 ≤ top then
    let fraction := digits.drop 1
    let power := if top < 0 then "-" ++ toString top.natAbs else "+" ++ toString top.natAbs
    String.ofList (digits.take 1 ++ (if fraction.isEmpty then [] else '.' :: fraction)) ++ "e" ++ power
  else if top < 0 then
    String.ofList ("0.".toList ++ List.replicate (top.natAbs - 1) '0' ++ digits)
  else
    let whole := top.toNat + 1
    let padded := digits ++ List.replicate (whole - digits.length) '0'
    let fraction := padded.drop whole
    String.ofList (padded.take whole ++ '.' :: (if fraction.isEmpty then ['0'] else fraction))

/-- The shortest text of a number. -/
def text (x : Double) : String :=
  let body := if x.isZero then "0.0" else decimalText (stripZeros 17 x.shortest)
  if x.negative then "-" ++ body else body

end ResolverScaffold.Double
