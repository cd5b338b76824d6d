import ResolverScaffold.Text.Bytes
import ResolverScaffold.Text.Lines

/-!
# Positions in a YAML text

A `Cursor` is the text that is left and where it starts: how many bytes came
before, on which line and in which column.  Several characters end a line
here, and a carriage return with a line feed is one line end.
-/

namespace ResolverScaffold.Markup

/-- The text that is left and where it starts. -/
structure Cursor where
  rest : List Char
  /-- How many bytes came before. -/
  index : Nat
  line : Nat
  column : Nat

/-- Whether a character ends a line. -/
def isBreak (c : Char) : Bool :=
  c == '\n' || c == '\r' || c == '\u0085' || c == '\u2028' || c == '\u2029'

/-- Whether a character is a space or tab. -/
def isGap (c : Char) : Bool := c == ' ' || c == '\t'

/-- Whether a character may stand in an anchor or tag name. -/
def isNameChar (c : Char) : Bool := c.isAlphanum || c == '_' || c == '-'

/-- Whether a character may stand in a text at all. -/
def isAllowed (c : Char) : Bool :=
  let n := c.toNat
  n == 9 || n == 10 || n == 13 || (0x20 ≤ n && n ≤ 0x7E) || n == 0x85
    || (0xA0 ≤ n && n ≤ 0xFFFD) || 0x10000 ≤ n

/-- Whether a place is blank: a gap, a line end or the end of the text. -/
def isBlankEnd (c : Option Char) : Bool :=
  match c with
  | none => true
  | some c => isGap c || isBreak c

/-- Whether a place ends a line: a line end or the end of the text. -/
def isLineEnd (c : Option Char) : Bool :=
  match c with
  | none => true
  | some c => isBreak c

namespace Cursor

def start (text : List Char) : Cursor := ⟨text, 0, 0, 0⟩

/-- The character so many places ahead. -/
def peek? (c : Cursor) (n : Nat) : Option Char := (c.rest.drop n).head?

/-- The cursor so many characters ahead on the same line. -/
def skip (c : Cursor) (n : Nat) : Cursor :=
  { c with
    rest := c.rest.drop n
    index := c.index + Text.byteLength (c.rest.take n)
    column := c.column + n }

/-- Take a line end: what it stands for and the cursor after it. -/
def readLine (c : Cursor) : List Char × Cursor :=
  match c.rest with
  | '\r' :: '\n' :: rest => (['\n'], ⟨rest, c.index + 2, c.line + 1, 0⟩)
  | b :: rest =>
    if isBreak b then
      (if b == '\u2028' || b == '\u2029' then [b] else ['\n'],
        ⟨rest, c.index + b.utf8Size, c.line + 1, 0⟩)
    else ([], c)
  | [] => ([], c)

def skipLine (c : Cursor) : Cursor := c.readLine.2

/-- Take the characters ahead that satisfy `p`; none of them ends a line. -/
def takeWhile (c : Cursor) (p : Char → Bool) : List Char × Cursor :=
  let run := c.rest.takeWhile p
  (run, c.skip run.length)

/-- The cursor after the characters ahead that satisfy `p`. -/
def skipWhile (c : Cursor) (p : Char → Bool) : Cursor := (c.takeWhile p).2

/-- Whether the cursor is at the start of a line and a mark of three characters is ahead. -/
def atMark (c : Cursor) (mark : String) : Bool :=
  c.column == 0 && Text.startsWith mark.toList c.rest && isBlankEnd (c.peek? 3)

def atDocumentMark (c : Cursor) : Bool := c.atMark "---" || c.atMark "..."

end Cursor

end ResolverScaffold.Markup
