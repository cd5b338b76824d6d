import ResolverScaffold.Decimal.Double
import ResolverScaffold.Markup.Node
import ResolverScaffold.Text.Lines

/-!
# The content of YAML nodes

What a node is by its tag and its spelling.  A scalar without quotes may be a
number, a boolean or nothing; every other scalar is a text.
-/

namespace ResolverScaffold.Markup

/-- What a node is. -/
inductive Content where
  | text (s : String)
  /-- A number that is not negative and has at most 64 bits. -/
  | natural (n : Nat)
  /-- Nothing, a boolean or another number. -/
  | other
  | list
  | table (entries : List (Content × Content))

namespace Content

def digits? (base : Nat) : List Char → (value : Nat) → Option Nat
  | [], value => some value
  | c :: rest, value =>
    let digit :=
      if c.isDigit then some (c.toNat - 48)
      else if 'a' ≤ c ∧ c ≤ 'z' then some (c.toNat - 87)
      else if 'A' ≤ c ∧ c ≤ 'Z' then some (c.toNat - 55)
      else none
    match digit with
    | some d => if d < base then digits? base rest (value * base + d) else none
    | none => none

/-- A number in a base, with at least one digit. -/
def number? (base : Nat) (cs : List Char) : Option Nat :=
  if cs.isEmpty then none else digits? base cs 0

def isSigned (cs : List Char) : Bool := cs.head? == some '+' || cs.head? == some '-'

/-- Whether a text has digits with needless zeros, which make it no number. -/
def hasNeedlessZeros (cs : List Char) : Bool :=
  match if isSigned cs then cs.drop 1 else cs with
  | '0' :: d :: rest => (d :: rest).all Char.isDigit
  | _ => false

/-- A number after a mark of its base. -/
def marked? (cs : List Char) : Option Nat :=
  match cs with
  | '0' :: 'x' :: rest => number? 16 rest
  | '0' :: 'o' :: rest => number? 8 rest
  | '0' :: 'b' :: rest => number? 2 rest
  | _ => none

/-- A number that is not negative. -/
def natural? (cs : List Char) : Option Nat :=
  let unsigned := if cs.head? == some '+' then cs.drop 1 else cs
  match marked? unsigned with
  | some n => some n
  | none => if isSigned unsigned || hasNeedlessZeros cs then none else number? 10 unsigned

/-- The size of a number with a minus sign. -/
def negative? (cs : List Char) : Option Nat :=
  match cs with
  | '-' :: rest =>
    match marked? rest with
    | some n => some n
    | none => if hasNeedlessZeros cs then none else number? 10 rest
  | _ => none

/-- Whether `digits * 10 ^ exponent` is a number of double precision. -/
def isFinite (digits : List Char) (exponent : Int) : Bool :=
  let significant := digits.dropWhile (· == '0')
  let top := exponent + significant.length
  if significant.isEmpty || top < 300 then true
  else if 310 < top then false
  else
    let n := (digits? 10 significant 0).getD 0
    if 0 ≤ exponent then (Double.ofRatio? (n * Nat.pow 10 exponent.toNat) 1).isSome
    else (Double.ofRatio? n (Nat.pow 10 exponent.natAbs)).isSome

/-- Whether a text without a sign is a decimal number that is not too large. -/
def isDecimal (cs : List Char) : Bool :=
  let whole := cs.takeWhile Char.isDigit
  let rest := cs.dropWhile Char.isDigit
  let (fraction, rest) :=
    match rest with
    | '.' :: rest => (rest.takeWhile Char.isDigit, rest.dropWhile Char.isDigit)
    | _ => ([], rest)
  if whole.isEmpty && fraction.isEmpty then false
  else
    let decimal (exponent : Int) : Bool :=
      isFinite (whole ++ fraction) (exponent - fraction.length)
    match rest with
    | [] => decimal 0
    | e :: rest =>
      if e != 'e' && e != 'E' then false
      else
        match number? 10 (if isSigned rest then rest.drop 1 else rest) with
        | some n => decimal (if rest.head? == some '-' then -(n : Int) else n)
        | none => false

/-- Whether a text is a number with a fraction or exponent, infinite, or no number at all. -/
def isFloat (s : String) : Bool :=
  let cs := s.toList
  let unsigned := if cs.head? == some '+' then cs.drop 1 else cs
  if cs.head? == some '+' && isSigned unsigned then false
  else
    [".inf", ".Inf", ".INF"].contains (String.ofList unsigned)
      || ["-.inf", "-.Inf", "-.INF", ".nan", ".NaN", ".NAN"].contains s
      || isDecimal (if unsigned.head? == some '-' then unsigned.drop 1 else unsigned)

/-- Whether a text stands for nothing. -/
def isNull (s : String) : Bool := ["null", "Null", "NULL", "~"].contains s

def isBool (s : String) : Bool := ["true", "True", "TRUE", "false", "False", "FALSE"].contains s

/-- The content of an integer.  An integer of more than 64 bits is refused; none at all if the
text is no integer. -/
def integer? (s : String) : Option (Option Content) :=
  let cs := s.toList
  match natural? cs with
  | some n =>
    if n < Nat.pow 2 64 then some (some (.natural n))
    else if n < Nat.pow 2 128 then some none
    else none
  | none =>
    match negative? cs with
    | some n =>
      if n ≤ Nat.pow 2 63 then some (some .other)
      else if n ≤ Nat.pow 2 127 then some none
      else none
    | none => none

/-- The content of a scalar that has neither quotes nor a tag. -/
def ofPlain (s : String) : Option Content :=
  if s.isEmpty || isNull s || isBool s then some .other
  else
    match integer? s with
    | some content => content
    | none => if !hasNeedlessZeros s.toList && isFloat s then some .other else some (.text s)

/-- The content of a scalar.  Its text has to fit the kind that its tag names. -/
def ofScalar (tag : Option Tag) (s : String) (plain : Bool) : Option Content :=
  match tag with
  | none => if plain then ofPlain s else some (.text s)
  | some tag =>
    if tag.isLocal then none
    else if tag = .core "bool" then (if isBool s then some .other else none)
    else if tag = .core "int" then (integer? s).join
    else if tag = .core "float" then (if isFloat s then some .other else none)
    else if tag = .core "null" then (if isNull s then some .other else none)
    else if tag.isMarked && plain then ofPlain s
    else some (.text s)

mutual

/-- The content of a node; tags made up for one document are refused. -/
def ofNode : Node → Option Content
  | .scalar tag s plain => ofScalar tag s plain
  | .sequence tag items => if tag.any Tag.isLocal then none else (ofItems items).map fun _ => .list
  | .mapping tag entries => if tag.any Tag.isLocal then none else (ofEntries entries).map .table

def ofItems : List Node → Option (List Content)
  | [] => some []
  | node :: rest => do return (← ofNode node) :: (← ofItems rest)

def ofEntries : List (Node × Node) → Option (List (Content × Content))
  | [] => some []
  | (key, value) :: rest => do return (← ofNode key, ← ofNode value) :: (← ofEntries rest)

end

end Content

end ResolverScaffold.Markup
