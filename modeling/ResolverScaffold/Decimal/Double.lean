/-!
# Numbers of double precision

A `Double` is a sign and a value `mantissa * 2 ^ exponent` with a mantissa of at
most 53 bits.  `Double.ofRatio?` rounds a quotient of naturals to the nearest
such value, and `times?` and `over?` round a product and a quotient, all in
exact arithmetic; they fail where the result is too large.
-/

namespace ResolverScaffold

/-- A finite number of double precision. -/
structure Double where
  /-- Whether the number has a minus sign; zero may have one. -/
  negative : Bool
  /-- The significant bits, at most 53 of them. -/
  mantissa : Nat
  /-- The power of two of the last bit, from -1074 to 971. -/
  exponent : Int
  deriving DecidableEq, Repr

namespace Double

/-- The power of two of the last bit of the smallest numbers. -/
def minExponent : Int := -1074

/-- The power of two of the last bit of the largest numbers. -/
def maxExponent : Int := 971

def zero : Double := ⟨false, 0, minExponent⟩

/-- The natural nearest to a quotient, the even one of two. -/
def roundDiv (num den : Nat) : Nat :=
  let down := num / den
  let twice := 2 * (num % den)
  if twice < den then down
  else if den < twice then down + 1
  else down + down % 2

/-- A quotient times a power of two, as a quotient. -/
def shift (num den : Nat) (k : Int) : Nat × Nat :=
  if 0 ≤ k then (num * Nat.pow 2 k.toNat, den) else (num, den * Nat.pow 2 (-k).toNat)

/-- The power of two at or below the quotient of two positive naturals. -/
def floorLog2 (num den : Nat) : Int :=
  let k : Int := (num.log2 : Int) - den.log2
  let (n, d) := shift num den (-k)
  if n < d then k - 1 else k

/-- The number nearest to a quotient, if it is not too large. -/
def ofRatio? (num den : Nat) : Option Double :=
  if num = 0 then some zero
  else
    let exponent := max (floorLog2 num den - 52) minExponent
    let (n, d) := shift num den (-exponent)
    let mantissa := roundDiv n d
    let (mantissa, exponent) :=
      if mantissa = Nat.pow 2 53 then (Nat.pow 2 52, exponent + 1) else (mantissa, exponent)
    if maxExponent < exponent then none else some ⟨false, mantissa, exponent⟩

def isZero (x : Double) : Bool := x.mantissa == 0

/-- The size of a number as a quotient of naturals. -/
def ratio (x : Double) : Nat × Nat := shift x.mantissa 1 x.exponent

/-- The rounded product of the sizes of two numbers. -/
def times? (x y : Double) : Option Double :=
  let (a, b) := x.ratio
  let (c, d) := y.ratio
  ofRatio? (a * c) (b * d)

/-- The rounded quotient of the sizes of two numbers. -/
def over? (x y : Double) : Option Double :=
  let (a, b) := x.ratio
  let (c, d) := y.ratio
  ofRatio? (a * d) (b * c)

/-- The number nearest to a power of ten. -/
def tenTo? (k : Nat) : Option Double := ofRatio? (Nat.pow 10 k) 1

/-- The number with a sign. -/
def withSign (negative : Bool) (x : Double) : Double := { x with negative }

end Double

end ResolverScaffold
