/-!
# Block strings

The value of a text between triple quotes: the indent that all lines after the
first have in common is taken off, and blank lines at both ends are dropped.
-/

namespace ResolverScaffold.Schema.BlockString

/-- The lines of a text; a carriage return, a line feed and both together end a line. -/
def lines : List Char → List (List Char)
  | [] => [[]]
  | '\r' :: '\n' :: rest => [] :: lines rest
  | c :: rest =>
    if c = '\r' ∨ c = '\n' then [] :: lines rest
    else
      match lines rest with
      | [] => [[c]]
      | line :: more => (c :: line) :: more

def isIndent (c : Char) : Bool := c == ' ' || c == '\t'

/-- Whether a line has nothing but indent. -/
def isEmptyLine (line : List Char) : Bool := line.all isIndent

/-- The indent of a line that has more than indent. -/
def indent? (line : List Char) : Option Nat :=
  if isEmptyLine line then none else some (line.takeWhile isIndent).length

/-- The least indent of some lines. -/
def commonIndent (lines : List (List Char)) : Nat := ((lines.filterMap indent?).min?).getD 0

/-- A line without the common indent; a line that is shorter stays as it is. -/
def dropIndent (indent : Nat) (line : List Char) : List Char :=
  if indent ≤ line.length then line.drop indent else line

def value (raw : List Char) : List Char :=
  match lines raw with
  | [] => []
  | first :: rest =>
    let body := first :: rest.map (dropIndent (commonIndent rest))
    let shown := ((body.dropWhile isEmptyLine).reverse.dropWhile isEmptyLine).reverse
    List.intercalate ['\n'] shown

end ResolverScaffold.Schema.BlockString
