/-!
# Lists of strings in JSON

`StringList.read?` reads a text that is exactly one JSON array of strings.  The
text is first cut into tokens and the tokens are then read as a list, so the
two halves of the format can be reasoned about one at a time: how a string is
written, and how strings are put into a list.
-/

namespace ResolverScaffold.StringList

/-- A piece of a string: a character as it stands, or the number of a `\u` escape. -/
inductive Piece where
  | char (c : Char)
  | unit (n : Nat)
  deriving DecidableEq, Repr

/-- The parts of a list of strings. -/
inductive Token where
  | opening
  | closing
  | comma
  | string (s : String)
  deriving DecidableEq, Repr

def hexValue? (c : Char) : Option Nat :=
  if '0' ≤ c ∧ c ≤ '9' then some (c.toNat - '0'.toNat)
  else if 'a' ≤ c ∧ c ≤ 'f' then some (c.toNat - 'a'.toNat + 10)
  else if 'A' ≤ c ∧ c ≤ 'F' then some (c.toNat - 'A'.toNat + 10)
  else none

/-- The value of four hexadecimal digits. -/
def hexUnit? (a b c d : Char) : Option Nat := do
  let a ← hexValue? a
  let b ← hexValue? b
  let c ← hexValue? c
  let d ← hexValue? d
  return ((a * 16 + b) * 16 + c) * 16 + d

/-- The character after a backslash stands for this one. -/
def escaped? : Char → Option Char
  | '"' => some '"'
  | '\\' => some '\\'
  | '/' => some '/'
  | 'b' => some '\x08'
  | 'f' => some '\x0c'
  | 'n' => some '\n'
  | 'r' => some '\r'
  | 't' => some '\t'
  | _ => none

/-- Whether a unit is the first half of a pair. -/
def isHigh (n : Nat) : Bool := 0xD800 ≤ n && n ≤ 0xDBFF

/-- Whether a unit is the second half of a pair. -/
def isLow (n : Nat) : Bool := 0xDC00 ≤ n && n ≤ 0xDFFF

/-- The characters of a string.  Two halves of a pair make one character, and a half that
stands alone makes none. -/
def chars? : List Piece → Option (List Char)
  | [] => some []
  | .char c :: rest => (c :: ·) <$> chars? rest
  | .unit high :: .unit low :: rest =>
    if isHigh high then
      if isLow low then
        (Char.ofNat (0x10000 + (high - 0xD800) * 0x400 + (low - 0xDC00)) :: ·) <$> chars? rest
      else none
    else if isLow high then none
    else (Char.ofNat high :: ·) <$> chars? (.unit low :: rest)
  | .unit n :: rest =>
    if isHigh n || isLow n then none else (Char.ofNat n :: ·) <$> chars? rest

/-- The blank characters between tokens. -/
def isGap (c : Char) : Bool := c == ' ' || c == '\t' || c == '\n' || c == '\r'

/-- The tokens of a text.  `inside` holds, last one first, the pieces of a string whose opening
quote has been read. -/
def tokens? : (inside : Option (List Piece)) → List Char → Option (List Token)
  | none, [] => some []
  | some _, [] => none
  | none, c :: rest =>
    if isGap c then tokens? none rest
    else if c = '[' then (.opening :: ·) <$> tokens? none rest
    else if c = ']' then (.closing :: ·) <$> tokens? none rest
    else if c = ',' then (.comma :: ·) <$> tokens? none rest
    else if c = '"' then tokens? (some []) rest
    else none
  | some pieces, '\\' :: 'u' :: a :: b :: c :: d :: rest => do
    let n ← hexUnit? a b c d
    tokens? (some (.unit n :: pieces)) rest
  | some pieces, '\\' :: c :: rest => do
    let c ← escaped? c
    tokens? (some (.char c :: pieces)) rest
  | some pieces, c :: rest =>
    if c = '"' then do
      let s ← chars? pieces.reverse
      (.string (String.ofList s) :: ·) <$> tokens? none rest
    else if c = '\\' ∨ c.toNat < 0x20 then none
    else tokens? (some (.char c :: pieces)) rest

/-- The strings of a list after its opening bracket, at least one of them. -/
def items? : List Token → Option (List String)
  | [.string s, .closing] => some [s]
  | .string s :: .comma :: rest => (s :: ·) <$> items? rest
  | _ => none

def ofTokens? : List Token → Option (List String)
  | [.opening, .closing] => some []
  | .opening :: rest => items? rest
  | _ => none

def read? (text : List Char) : Option (List String) := do
  ofTokens? (← tokens? none text)

end ResolverScaffold.StringList
