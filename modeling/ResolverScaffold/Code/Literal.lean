import ResolverScaffold.Text.Reader
import ResolverScaffold.Text.Word

/-!
# Literals of Rust

The forms of strings, characters and numbers.  A reader here only finds where a
literal ends; the value does not matter.  Every literal may end in a word, its
suffix.
-/

namespace ResolverScaffold.Code

open Text (Reader)
open Text.Reader
open ListReader

def plainWord : Reader String := do
  let c ← satisfy Text.isWordStart
  let cs ← takeWhile Text.isWordRest
  return String.ofList (c :: cs)

/-- The word that may follow a literal. -/
def suffix : Reader Unit := do
  let _ ← optional? plainWord

/-! ### Strings -/

/-- What a quoted text stands for: characters, bytes or characters up to a zero. -/
inductive TextKind where
  | chars
  | bytes
  | zeroEnded
  deriving DecidableEq, Repr

/-- Whether a character may stand as itself in a quoted text. -/
def TextKind.allows (kind : TextKind) (c : Char) : Bool :=
  match kind with
  | .chars => true
  | .bytes => c.toNat < 128
  | .zeroEnded => c != '\x00'

def hexValue? (c : Char) : Option Nat :=
  if '0' ≤ c ∧ c ≤ '9' then some (c.toNat - '0'.toNat)
  else if 'a' ≤ c ∧ c ≤ 'f' then some (c.toNat - 'a'.toNat + 10)
  else if 'A' ≤ c ∧ c ≤ 'F' then some (c.toNat - 'A'.toNat + 10)
  else none

/-- The value of two hexadecimal digits. -/
def hexPair : Reader Nat := do
  let a ← satisfy fun c => (hexValue? c).isSome
  let b ← satisfy fun c => (hexValue? c).isSome
  return (hexValue? a).getD 0 * 16 + (hexValue? b).getD 0

/-- The digits of a code point up to its closing brace: one to six, and underscores between
them. -/
def codePoint (count value : Nat) : List Char → Option (Nat × List Char)
  | [] => none
  | c :: rest =>
    match hexValue? c with
    | some digit => if count = 6 then none else codePoint (count + 1) (value * 16 + digit) rest
    | none =>
      if count = 0 then none
      else if c = '_' then codePoint count value rest
      else if c = '\x7d' then if value.isValidChar then some (value, rest) else none
      else none

def bracedCodePoint : Reader Nat := do
  let _ ← satisfy (· == '\x7b')
  codePoint 0 0

/-- What follows a backslash in a quoted text on one line. -/
def escape (kind : TextKind) : Reader Unit := do
  let c ← satisfy fun _ => true
  match c with
  | 'x' =>
    let value ← hexPair
    match kind with
    | .chars => if value < 128 then pure () else failure
    | .bytes => pure ()
    | .zeroEnded => if value ≠ 0 then pure () else failure
  | 'u' =>
    if kind = .bytes then failure
    else
      let value ← bracedCodePoint
      if kind = .zeroEnded && value = 0 then failure else pure ()
  | '0' => if kind = .zeroEnded then failure else pure ()
  | c => if ['n', 'r', 't', '\\', '\'', '"'].contains c then pure () else failure

/-- The line end and the blanks that a backslash at the end of a line hides.  A carriage return
needs its line feed. -/
def hiddenBlanks : List Char → Option (List Char)
  | [] => none
  | '\r' :: '\n' :: rest => hiddenBlanks rest
  | c :: rest =>
    if c = '\r' then none
    else if c = ' ' || c = '\t' || c = '\n' then hiddenBlanks rest
    else some (c :: rest)

/-- A character of a quoted text as it is written. -/
def quotedChar (kind : TextKind) : Reader Unit := fun text =>
  match text with
  | [] => none
  | '\r' :: '\n' :: rest => some ((), rest)
  | '\\' :: '\n' :: rest => (hiddenBlanks ('\n' :: rest)).map fun r => ((), r)
  | '\\' :: '\r' :: rest => (hiddenBlanks ('\r' :: rest)).map fun r => ((), r)
  | '\\' :: rest => escape kind rest
  | c :: rest => if c ≠ '\r' && kind.allows c then some ((), rest) else none

/-- A quoted text with escapes, after its first quote. -/
def quotedRest (kind : TextKind) : Reader Unit := do
  let _ ← readWhile (fun text => !Text.startsWith ['"'] text) (quotedChar kind)
  literal "\""
  suffix

/-- A quoted text without escapes, after its first quote: it goes up to a quote that `fence`
follows. -/
def rawRest (kind : TextKind) (fence : List Char) : List Char → Option (List Char)
  | [] => none
  | '"' :: rest =>
    match Text.after? fence rest with
    | some last => some last
    | none => rawRest kind fence rest
  | '\r' :: '\n' :: rest => rawRest kind fence rest
  | c :: rest => if c ≠ '\r' && kind.allows c then rawRest kind fence rest else none

/-- A quoted text without escapes, from its fence on, which has at most 255 marks. -/
def rawText (kind : TextKind) : Reader Unit := do
  let fence ← takeWhile (· == '#')
  if fence.length ≤ 255 then literal "\"" else failure
  fun text => (rawRest kind fence text).map fun rest => ((), rest)
  suffix

/-- A quoted text that stands for characters. -/
def string : Reader Unit :=
  (do literal "\""; quotedRest .chars) <|> (do literal "r"; rawText .chars)

/-- A quoted text that stands for bytes, or for characters up to a zero. -/
def otherString : Reader Unit :=
  (do literal "b\""; quotedRest .bytes) <|> (do literal "br"; rawText .bytes)
    <|> (do literal "c\""; quotedRest .zeroEnded) <|> (do literal "cr"; rawText .zeroEnded)

/-- A character between its quotes, as it is written. -/
def singleChar (kind : TextKind) : Reader Unit := fun text =>
  match text with
  | [] => none
  | '\\' :: rest => escape kind rest
  | c :: rest => if kind.allows c then some ((), rest) else none

def character : Reader Unit :=
  (do literal "b'"; singleChar .bytes; literal "'"; suffix)
    <|> (do literal "'"; singleChar .chars; literal "'"; suffix)

/-! ### Numbers -/

/-- Whether a character is a decimal digit or an underscore. -/
def isDigitMark (c : Char) : Bool := c.isDigit || c == '_'

/-- An exponent after its letter: a sign at most before the first digit, and underscores
anywhere. -/
def exponentRest (sign value : Bool) : List Char → Option (List Char)
  | [] => if value then some [] else none
  | c :: rest =>
    if c = '+' || c = '-' then
      if value then some (c :: rest) else if sign then none else exponentRest true false rest
    else if c.isDigit then exponentRest sign true rest
    else if c = '_' then exponentRest sign value rest
    else if value then some (c :: rest)
    else none

def exponent : Reader Unit := do
  let _ ← satisfy fun c => c == 'e' || c == 'E'
  fun text => (exponentRest false false text).map fun rest => ((), rest)

/-- Whether a point at the start of a text is the point of a number: no other point and no word
follows it. -/
def isDecimalPoint (text : List Char) : Bool :=
  match text with
  | '.' :: c :: _ => c != '.' && !Text.isWordStart c
  | '.' :: [] => true
  | _ => false

/-- The digits of a number with a point or an exponent. -/
def pointDigits : Reader Unit := do
  let _ ← satisfy Char.isDigit
  let _ ← takeWhile isDigitMark
  if ← sees isDecimalPoint then
    skip
    let _ ← takeWhile isDigitMark
    let _ ← optional? exponent
  else exponent

/-- The digits of a whole number in a base. -/
def baseDigits (base : Nat) (found : Bool) : List Char → Option (List Char)
  | [] => if found then some [] else none
  | c :: rest =>
    if c = '_' then if !found && base = 10 then none else baseDigits base found rest
    else
      match hexValue? c with
      | none => if found then some (c :: rest) else none
      | some value =>
        if value < base then baseDigits base true rest
        else if c.isDigit then none
        else if found then some (c :: rest)
        else none

def wholeDigits : Reader Unit := do
  let base ←
    (do literal "0x"; return 16) <|> (do literal "0o"; return 8) <|> (do literal "0b"; return 2)
      <|> pure 10
  fun text => (baseDigits base false text).map fun rest => ((), rest)

/-- The end of a number: its suffix, and no character that would go on. -/
def numberEnd : Reader Unit := do
  suffix
  if ← sees fun text => text.head?.any Text.isWordRest then failure else pure ()

def number : Reader Unit := (do pointDigits; numberEnd) <|> (do wholeDigits; numberEnd)

end ResolverScaffold.Code
