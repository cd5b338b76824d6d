import ResolverScaffold.Decimal.Double

/-!
# Values

The values a directive argument can have, and how a number literal is read.
A literal that is an integer of 64 bits stays an integer; every other one
becomes a number of double precision in three steps: its leading digits are
taken as a 64-bit integer, that integer is rounded, and the result is
multiplied or divided by a power of ten and rounded again.
-/

namespace ResolverScaffold

/-- A constant value. -/
inductive Value where
  | null
  | bool (b : Bool)
  | int (n : Int)
  | float (x : Double)
  | text (s : String)
  | list (items : List Value)
  /-- Each key once. -/
  | object (entries : List (String × Value))
  deriving Repr

namespace Value

/-- Put a value under a key, in place of the value that was there. -/
def setEntry (key : String) (value : Value) : List (String × Value) → List (String × Value)
  | [] => [(key, value)]
  | (k, v) :: rest => if k = key then (k, value) :: rest else (k, v) :: setEntry key value rest

/-- An object from its entries in the order of writing, a later one replacing an earlier one. -/
def ofEntries (entries : List (String × Value)) : Value :=
  .object (entries.foldl (fun all e => setEntry e.1 e.2 all) [])

end Value

structure NumberLiteral where
  negative : Bool
  /-- Digits before the point. -/
  whole : List Nat
  /-- Digits after the point, if there is one. -/
  fraction : Option (List Nat)
  /-- Whether the exponent is negative, and its digits. -/
  power : Option (Bool × List Nat)
  deriving Repr

namespace NumberLiteral

/-- The largest 64-bit integer. -/
def wordMax : Nat := Nat.pow 2 64 - 1

/-- The largest exponent. -/
def powerMax : Nat := Nat.pow 2 31 - 1

/-- Append digits to a number as long as it stays within a bound; the digits left over. -/
def collect (bound : Nat) (n : Nat) : List Nat → Nat × List Nat
  | [] => (n, [])
  | d :: rest => if bound < n * 10 + d then (n, d :: rest) else collect bound (n * 10 + d) rest

/-- `significand * 10 ^ exponent`, rounded at every step; none if it is too large.  Each step
takes off at most a factor `10 ^ 308`. -/
def scaled? : (steps : Nat) → (x : Double) → (exponent : Int) → Option Double
  | 0, _, _ => some .zero
  | steps + 1, x, exponent =>
    if exponent.natAbs ≤ 308 then do
      let power ← Double.tenTo? exponent.natAbs
      if 0 ≤ exponent then x.times? power else x.over? power
    else if x.isZero then some x
    else if 0 ≤ exponent then none
    else do scaled? steps (← x.over? (← Double.tenTo? 308)) (exponent + 308)

/-- The size of a number from its leading digits and its power of ten. -/
def ofParts? (significand : Nat) (exponent : Int) : Option Double := do
  -- four steps bring any 64-bit integer to zero
  scaled? 6 (← Double.ofRatio? significand 1) exponent

/-- Keep an exponent within the 32-bit integers. -/
def clamp (e : Int) : Int := max (-(Nat.pow 2 31 : Nat)) (min e powerMax)

/-- The size of a number with the exponent that is written after it. -/
def withPower? (significand : Nat) (exponent : Int) (power : Option (Bool × List Nat)) :
    Option Double :=
  match power with
  | none => ofParts? significand exponent
  | some (negative, digits) =>
    match collect powerMax 0 digits with
    | (n, []) => ofParts? significand (clamp (if negative then exponent - n else exponent + n))
    | (_, _ :: _) => if significand ≠ 0 ∧ !negative then none else some .zero

/-- The number as a double; none if it is too large. -/
def double? (l : NumberLiteral) : Option Double :=
  let (significand, left) := collect wordMax 0 l.whole
  let (significand, exponent) :=
    match l.fraction with
    | none => (significand, (left.length : Int))
    | some digits =>
      let (longer, ignored) := collect wordMax significand digits
      (longer, (left.length : Int) - (digits.length - ignored.length : Nat))
  (withPower? significand exponent l.power).map (·.withSign l.negative)

/-- The value of a literal; none if it is too large for a double. -/
def value? (l : NumberLiteral) : Option Value :=
  let (n, left) := collect wordMax 0 l.whole
  if left.isEmpty && l.fraction.isNone && l.power.isNone then
    if !l.negative then some (.int n)
    else if 0 < n ∧ n ≤ Nat.pow 2 63 then some (.int (-n))
    else l.double?.map .float
  else l.double?.map .float

end NumberLiteral

end ResolverScaffold
